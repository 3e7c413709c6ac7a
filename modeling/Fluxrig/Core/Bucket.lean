import Mathlib.Data.List.AList
import Mathlib.Tactic

/-!
# Revisioned key-value buckets

A bucket keeps one item for each live key, together with the revision at which
that item was written.  Every write takes a fresh revision from one counter of
the whole bucket, so a revision names at most one value for ever.  This file
proves the fact every compare-and-swap argument rests on: a value read at some
revision is still the stored value whenever a later conditional write at that
revision succeeds, whatever happened to the bucket in between.
-/

namespace Fluxrig.Core

/-- A stored value and the revision of the write that stored it. -/
structure Item (V : Type*) where
  value : V
  rev : ℕ
  deriving DecidableEq

/-- A bucket whose key `key` holds values of type `V key`.  The counter bounds
every stored revision, and revision zero is never issued. -/
structure Bucket (K : Type*) [DecidableEq K] (V : K → Type*) where
  items : AList fun key => Item (V key)
  rev : ℕ
  issued : ∀ key item, items.lookup key = some item → 0 < item.rev ∧ item.rev ≤ rev

namespace Bucket

variable {K : Type*} [DecidableEq K] {V : K → Type*}

def empty : Bucket K V where
  items := ∅
  rev := 0
  issued := by simp

/-- The live item under a key. -/
def get (bucket : Bucket K V) (key : K) : Option (Item (V key)) :=
  bucket.items.lookup key

variable {bucket : Bucket K V} {key : K} {item : Item (V key)} {rev : ℕ}

lemma rev_pos (hitem : bucket.get key = some item) : 0 < item.rev :=
  (bucket.issued key item hitem).1

lemma rev_le (hitem : bucket.get key = some item) : item.rev ≤ bucket.rev :=
  (bucket.issued key item hitem).2

section

variable (bucket : Bucket K V)

/-- Store a value at the next revision. -/
def write (key : K) (value : V key) : Bucket K V where
  items := bucket.items.insert key ⟨value, bucket.rev + 1⟩
  rev := bucket.rev + 1
  issued := by
    intro other item hitem
    by_cases hkey : other = key
    · subst other
      rw [AList.lookup_insert, Option.some.injEq] at hitem
      subst item
      exact ⟨Nat.succ_pos _, le_rfl⟩
    · rw [AList.lookup_insert_ne hkey] at hitem
      exact ⟨rev_pos hitem, (rev_le hitem).trans (Nat.le_succ _)⟩

/-- Forget a key.  The counter does not move. -/
def remove (key : K) : Bucket K V where
  items := bucket.items.erase key
  rev := bucket.rev
  issued := by
    intro other item hitem
    by_cases hkey : other = key
    · subst other
      simp at hitem
    · rw [AList.lookup_erase_ne hkey] at hitem
      exact bucket.issued other item hitem

/-- Write a key that must be absent; `none` reports a conflict. -/
def create (key : K) (value : V key) : Option ℕ × Bucket K V :=
  match bucket.get key with
  | some _ => (none, bucket)
  | none => (some (bucket.rev + 1), bucket.write key value)

/-- Write a key that must still be at the revision read. -/
def update (key : K) (value : V key) (rev : ℕ) : Option ℕ × Bucket K V :=
  match bucket.get key with
  | none => (none, bucket)
  | some item =>
      if item.rev = rev then (some (bucket.rev + 1), bucket.write key value)
      else (none, bucket)

/-- Remove a key.  A non-zero revision makes the removal conditional. -/
def delete (key : K) (rev : ℕ) : Bool × Bucket K V :=
  if rev = 0 then (true, bucket.remove key)
  else
    match bucket.get key with
    | none => (false, bucket)
    | some item =>
        if item.rev = rev then (true, bucket.remove key) else (false, bucket)

/-- The live keys a filter selects, the one written longest ago first. -/
def keys {A : Type*} (select : K → Option A) : List A :=
  (bucket.items.keys.filterMap select).reverse

end

@[simp]
lemma get_empty (key : K) : (empty : Bucket K V).get key = none := rfl

section

variable (bucket : Bucket K V)

@[simp]
lemma get_write (key : K) (value : V key) :
    (bucket.write key value).get key = some ⟨value, bucket.rev + 1⟩ :=
  AList.lookup_insert _

lemma get_write_of_ne {other : K} (value : V key) (hkey : other ≠ key) :
    (bucket.write key value).get other = bucket.get other :=
  AList.lookup_insert_ne hkey

@[simp]
lemma get_remove (key : K) : (bucket.remove key).get key = none := AList.lookup_erase _ _

lemma get_remove_of_ne {other : K} (hkey : other ≠ key) :
    (bucket.remove key).get other = bucket.get other :=
  AList.lookup_erase_ne hkey

lemma mem_keys_iff {A : Type*} (select : K → Option A) (name : A) : name ∈ bucket.keys select ↔
      ∃ key item, bucket.get key = some item ∧ select key = some name := by
  rw [keys, List.mem_reverse, List.mem_filterMap]
  constructor
  · rintro ⟨key, hkey, hselect⟩
    have hsome : (bucket.items.lookup key).isSome :=
      AList.lookup_isSome.mpr (AList.mem_keys.mpr hkey)
    obtain ⟨item, hitem⟩ := Option.isSome_iff_exists.mp hsome
    exact ⟨key, item, hitem, hselect⟩
  · rintro ⟨key, item, hitem, hselect⟩
    have hsome : (bucket.items.lookup key).isSome := Option.isSome_iff_exists.mpr ⟨item, hitem⟩
    exact ⟨key, AList.mem_keys.mp (AList.lookup_isSome.mp hsome), hselect⟩

lemma keys_nodup {A : Type*} {select : K → Option A}
    (hselect : ∀ key other name, select key = some name →
      select other = some name → key = other) : (bucket.keys select).Nodup := by
  rw [keys, List.nodup_reverse]
  exact bucket.items.nodupKeys.filterMap hselect

/-- A measure of the values has a bound: a bucket is finite. -/
lemma exists_bound (measure : (key : K) → V key → ℤ) :
    ∃ bound, ∀ key item, bucket.get key = some item → measure key item.value ≤ bound := by
  let height : K → ℤ := fun key =>
    ((bucket.get key).map fun item => measure key item.value).getD 0
  obtain ⟨bound, hbound⟩ := (bucket.items.keys.toFinset.image height).bddAbove
  refine ⟨bound, fun key item hitem => ?_⟩
  have hsome : (bucket.items.lookup key).isSome := Option.isSome_iff_exists.mpr ⟨item, hitem⟩
  have hkey : key ∈ bucket.items.keys := AList.mem_keys.mp (AList.lookup_isSome.mp hsome)
  have hheight : height key = measure key item.value := by
    simp [height, hitem]
  rw [← hheight]
  exact hbound (Finset.mem_coe.mpr (Finset.mem_image_of_mem height (List.mem_toFinset.mpr hkey)))

end

lemma create_of_none (value : V key) (hitem : bucket.get key = none) : bucket.create key value =
      (some (bucket.rev + 1), bucket.write key value) := by
  simp [create, hitem]

lemma create_of_some (value : V key) (hitem : bucket.get key = some item) :
    bucket.create key value = (none, bucket) := by
  simp [create, hitem]

/-- The item a conditional write at `rev` replaces, when there is one. -/
def At (bucket : Bucket K V) (key : K) (rev : ℕ) : Prop :=
  ∃ item, bucket.get key = some item ∧ item.rev = rev

instance (bucket : Bucket K V) (key : K) (rev : ℕ) : Decidable (bucket.At key rev) :=
  match hitem : bucket.get key with
  | none => isFalse fun ⟨_, hget, _⟩ => by simp [hitem] at hget
  | some item =>
    decidable_of_iff (item.rev = rev) (by simp [At, hitem])

lemma update_of_at (value : V key) (hat : bucket.At key rev) : bucket.update key value rev =
      (some (bucket.rev + 1), bucket.write key value) := by
  obtain ⟨item, hitem, rfl⟩ := hat
  simp [update, hitem]

lemma update_of_not_at (value : V key) (hat : ¬ bucket.At key rev) :
    bucket.update key value rev = (none, bucket) := by
  unfold update
  cases hitem : bucket.get key with
  | none => rfl
  | some item =>
    have hrev : item.rev ≠ rev := fun heq => hat ⟨item, hitem, heq⟩
    simp [hrev]

lemma delete_of_at (hat : bucket.At key rev) :
    bucket.delete key rev = (true, bucket.remove key) := by
  obtain ⟨item, hitem, rfl⟩ := hat
  have hpos := rev_pos hitem
  simp [delete, hitem, hpos.ne']

lemma delete_of_not_at (hrev : rev ≠ 0) (hat : ¬ bucket.At key rev) :
    bucket.delete key rev = (false, bucket) := by
  unfold delete
  rw [if_neg hrev]
  cases hitem : bucket.get key with
  | none => rfl
  | some item =>
    have hne : item.rev ≠ rev := fun heq => hat ⟨item, hitem, heq⟩
    simp [hne]

/-! ## The history order

`before` extends to `after` when every item of `after` that carries a revision
`before` had already issued is an item of `before`.  Later writes can only
bring new revisions, so the relation holds along every run. -/

def Extends (before after : Bucket K V) : Prop :=
  before.rev ≤ after.rev ∧
    ∀ key item, after.get key = some item → item.rev ≤ before.rev → before.get key = some item

lemma Extends.refl (bucket : Bucket K V) : Extends bucket bucket :=
  ⟨le_rfl, fun _ _ hitem _ => hitem⟩

lemma Extends.trans {first second third : Bucket K V}
    (hfirst : Extends first second) (hsecond : Extends second third) :
    Extends first third := by
  refine ⟨hfirst.1.trans hsecond.1, ?_⟩
  intro key item hitem hrev
  exact hfirst.2 key item (hsecond.2 key item hitem (hrev.trans hfirst.1)) hrev

section

variable (bucket : Bucket K V) (key : K)

lemma extends_write (value : V key) : Extends bucket (bucket.write key value) := by
  refine ⟨Nat.le_succ _, ?_⟩
  intro other item hitem hrev
  by_cases hkey : other = key
  · subst other
    rw [get_write, Option.some.injEq] at hitem
    subst item
    exact absurd hrev (Nat.not_succ_le_self _)
  · rwa [get_write_of_ne _ _ hkey] at hitem

lemma extends_remove : Extends bucket (bucket.remove key) := by
  refine ⟨le_rfl, ?_⟩
  intro other item hitem _
  by_cases hkey : other = key
  · subst other
    simp at hitem
  · rwa [get_remove_of_ne _ hkey] at hitem

lemma extends_create (value : V key) : Extends bucket (bucket.create key value).2 := by
  unfold create
  cases bucket.get key with
  | none => exact extends_write bucket key value
  | some => exact Extends.refl bucket

lemma extends_update (value : V key) (rev : ℕ) :
    Extends bucket (bucket.update key value rev).2 := by
  by_cases hat : bucket.At key rev
  · rw [update_of_at value hat]
    exact extends_write bucket key value
  · rw [update_of_not_at value hat]
    exact Extends.refl bucket

lemma extends_delete (rev : ℕ) : Extends bucket (bucket.delete key rev).2 := by
  unfold delete
  split
  · exact extends_remove bucket key
  · cases bucket.get key with
    | none => exact Extends.refl bucket
    | some =>
      dsimp only
      split
      · exact extends_remove bucket key
      · exact Extends.refl bucket

end

/-- The compare-and-swap fact: if a value was read at some revision and the
key is still at that revision later on, the value is still the one read. -/
lemma Extends.get_of_at {before after : Bucket K V} (hextends : Extends before after)
    (hread : before.get key = some item) (hat : after.At key item.rev) :
    after.get key = some item := by
  obtain ⟨current, hcurrent, hrev⟩ := hat
  have hle : current.rev ≤ before.rev := by
    rw [hrev]
    exact rev_le hread
  have hbefore := hextends.2 key current hcurrent hle
  rw [hread] at hbefore
  rw [hcurrent, ← hbefore]

end Bucket

end Fluxrig.Core
