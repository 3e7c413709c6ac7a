import Fluxrig.Registry.Story

/-!
# The orphan sweep

`SweepOrphans` repairs what a crash between two writes leaves behind.  A first
pass over the name keys deletes those whose entity is gone and collects which
names point at which entity.  A second pass over the Rack records deletes or
repairs every record whose own name is not among the names that point at it.
-/

namespace Fluxrig.Registry

open Fluxrig.Core

/-- What one sweep changed. -/
structure SweepResult where
  removed : ℕ
  repaired : ℕ
  nameKeysRemoved : ℕ
  deriving DecidableEq

/-- Which names point at which entity, in the order of the listing. -/
abbrev Held := NameRef → List String

def Held.add (held : Held) (ref : NameRef) (name : String) : Held :=
  Function.update held ref (held ref ++ [name])

/-- The pass over the name keys. -/
def sweepNames : List String → Held → ℕ → Prog (Held × ℕ)
  | [], held, removed => pure (held, removed)
  | name :: names, held, removed => do
      match ← get .plain (.name name) with
      | none => sweepNames names held removed
      | some item =>
          match ← getRecord .plain item.value.typeID item.value.machineID with
          | .error .notFound =>
              if ← delete .plain (.name name) item.rev then
                sweepNames names held (removed + 1)
              else sweepNames names held removed
          | _ => sweepNames names (held.add item.value name) removed

def releaseAll (ref : NameRef) : List String → Prog Unit
  | [] => pure ()
  | name :: names => do
      releaseName name ref
      releaseAll ref names

/-- An interrupted rename: the record carries its new name, `oldest` and the
rest of `names` still point at it. -/
def sweepRename (rec : Record) (rev : ℕ) (ref : NameRef) (oldest : String)
    (names : List String) (result : SweepResult) :
    Prog (SweepResult × Option Err) := do
  match ← claimName rec.name ref with
  | .ok () =>
      releaseAll ref names
      pure ({ result with repaired := result.repaired + 1 }, none)
  | .error .nameConflict =>
      let now ← now
      let rolledBack : Record := { rec with name := oldest, updatedAt := now }
      match ← update .plain (.entity ref) rolledBack rev with
      | some _ => pure ({ result with repaired := result.repaired + 1 }, none)
      | none => pure (result, none)
  | .error err => pure (result, some err)

/-- One Rack of the pass over the records. -/
def sweepRecord (grace : ℤ) (held : Held) (id : UUID) (result : SweepResult) :
    Prog (SweepResult × Option Err) := do
  match ← getRecord .plain typeRack id with
  | .error _ => pure (result, none)
  | .ok (rec, rev) =>
      if rec.name = "" then pure (result, none)
      else do
        let now ← now
        let ref : NameRef := ⟨typeRack, id⟩
        if now - rec.updatedAt < grace then pure (result, none)
        else if rec.name ∈ held ref then pure (result, none)
        else
          match held ref with
          | [] =>
              if ← delete .plain (.entity ref) rev then do
                liveDelete ref
                pure ({ result with removed := result.removed + 1 }, none)
              else pure (result, none)
          | oldest :: names =>
              sweepRename rec rev ref oldest (oldest :: names) result

/-- The pass over the Rack records.  An error of `claimName` other than a name
conflict ends it. -/
def sweepRecords (grace : ℤ) (held : Held) :
    List UUID → SweepResult → Prog (SweepResult × Option Err)
  | [], result => pure (result, none)
  | id :: ids, result => do
      match ← sweepRecord grace held id result with
      | (result, none) => sweepRecords grace held ids result
      | (result, some err) => pure (result, some err)

def sweepOrphans (grace : ℤ) : Prog (SweepResult × Option Err) := do
  let names ← Program.request Op.nameKeys
  let (held, nameKeysRemoved) ← sweepNames names (fun _ => []) 0
  let ids ← Program.request (Op.entityKeys typeRack)
  sweepRecords grace held ids ⟨0, 0, nameKeysRemoved⟩

/-- The entity a name key points at is gone. -/
def Dangling (reg : RegBucket) (name : String) : Prop :=
  ∃ ref, holderOf reg name = some ref ∧ recordOf reg ref = none

/-- What the pass over `names` does: the dangling ones among them are deleted,
the others are collected under their entity. -/
structure Tidied (names : List String) (before after : RegBucket) (old held : Held) : Prop where
  records : ∀ ref, recordOf after ref = recordOf before ref
  cleared : ∀ name ∈ names, Dangling before name → holderOf after name = none
  kept : ∀ name, (name ∈ names → ¬ Dangling before name) →
    holderOf after name = holderOf before name
  collected : ∀ ref name, name ∈ held ref ↔ name ∈ old ref ∨
    (name ∈ names ∧ holderOf before name = some ref ∧ recordOf before ref ≠ none)
  untouched : (∀ name ∈ names, ¬ Dangling before name) → after = before

lemma tidied_nil (reg : RegBucket) (held : Held) : Tidied [] reg reg held held := by
  constructor <;> grind

section

variable {name : String} {names : List String} {reg final : RegBucket}
variable {old held : Held}

lemma Tidied.missing (habsent : holderOf reg name = none)
    (htidied : Tidied names reg final old held) :
    Tidied (name :: names) reg final old held := by
  cases htidied
  constructor <;> grind

lemma Tidied.present {ref : NameRef} (hholder : holderOf reg name = some ref)
    (hrecord : recordOf reg ref ≠ none)
    (htidied : Tidied names reg final (old.add ref name) held) :
    Tidied (name :: names) reg final old held := by
  cases htidied
  have hadd : ∀ other carried, carried ∈ (old.add ref name) other ↔
      carried ∈ old other ∨ (carried = name ∧ other = ref) := by
    intro other carried
    by_cases hother : other = ref
    · subst other
      simp [Held.add]
    · simp [Held.add, hother]
  constructor <;> grind [Dangling]

lemma dangling_remove_iff {other : String} : Dangling (reg.remove (.name name)) other ↔
      other ≠ name ∧ Dangling reg other := by
  grind [Dangling]

lemma Tidied.deleted (hdangling : Dangling reg name)
    (htidied : Tidied names (reg.remove (.name name)) final old held) :
    Tidied (name :: names) reg final old held := by
  cases htidied
  have hremove := @dangling_remove_iff name reg
  constructor <;> grind [Dangling]

end

section

variable {allowed : Input → Prop} {seen : Set RegBucket} {reg : RegBucket}

lemma alone_sweepNames {names : List String} {old : Held} {removed : ℕ}
    {post : Held × ℕ → Set RegBucket → RegBucket → Prop} (hseen : reg ∈ seen)
    (hpost : ∀ held count passed final, final ∈ passed → Tidied names reg final old held →
      ((∀ name ∈ names, ¬ Dangling reg name) → count = removed) →
        post (held, count) passed final) :
    (sweepNames names old removed).Alone exec allowed post seen reg := by
  induction names generalizing old removed seen reg with
  | nil => exact hpost old removed seen reg hseen (tidied_nil reg old) fun _ => rfl
  | cons name _ ih =>
    apply alone_get hseen
    cases hkey : reg.get (.name name) with
    | none =>
      have habsent := holderOf_eq_none_iff.mpr hkey
      apply ih hseen
      intro held count passed final hfinal htidied hcount
      exact hpost held count passed final hfinal (htidied.missing habsent)
        fun hnone => hcount fun other hother =>
          hnone other (List.mem_cons_of_mem name hother)
    | some item =>
      have hholder := holderOf_of_get hkey
      cases hitem : reg.get (.entity item.value) with
      | none =>
        have hdangling : Dangling reg name :=
          ⟨item.value, hholder, recordOf_eq_none_iff.mpr hitem⟩
        apply alone_getRecord_none hseen hitem
        apply alone_delete ⟨item, hkey, rfl⟩
        simp only [if_true]
        apply ih (Set.mem_insert _ _)
        intro held count passed final hfinal htidied _
        exact hpost held count passed final hfinal (htidied.deleted hdangling)
          fun hnone => absurd hdangling (hnone name List.mem_cons_self)
      | some =>
        have hexists : recordOf reg item.value ≠ none := by
          rw [recordOf_of_get hitem]
          exact Option.some_ne_none _
        apply alone_getRecord_some hseen hitem
        apply ih hseen
        intro held count passed final hfinal htidied hcount
        exact hpost held count passed final hfinal (htidied.present hholder hexists) fun hnone =>
            hcount fun other hother =>
              hnone other (List.mem_cons_of_mem name hother)

/-- The record pass leaves this Rack as it is, however old its record. -/
def Skipped (held : Held) (reg : RegBucket) (id : UUID) : Prop :=
  ∀ rec, recordOf reg ⟨typeRack, id⟩ = some rec → rec.name = "" ∨ rec.name ∈ held ⟨typeRack, id⟩

variable {grace : ℤ} {held : Held}

variable {result : SweepResult}
  {post : SweepResult × Option Err → Set RegBucket → RegBucket → Prop}

lemma alone_sweepRecord_skip {id : UUID} (hseen : reg ∈ seen)
    (hskipped : Skipped held reg id) (hpost : post (result, none) seen reg) :
    (sweepRecord grace held id result).Alone exec allowed post seen reg := by
  cases hitem : reg.get (.entity ⟨typeRack, id⟩) with
  | none => exact alone_getRecord_none hseen hitem hpost
  | some item =>
    apply alone_getRecord_some hseen hitem
    by_cases hname : item.value.name = ""
    · simp only [hname, if_true]
      exact hpost
    · have hheld : item.value.name ∈ held ⟨typeRack, id⟩ :=
        (hskipped item.value (recordOf_of_get hitem)).resolve_left hname
      simp only [hname, if_false]
      apply alone_read .now hseen (fun _ _ => rfl)
      intro input _
      split
      · exact hpost
      · exact hpost

lemma alone_sweepRecords_skip {ids : List UUID} (hseen : reg ∈ seen)
    (hskipped : ∀ id ∈ ids, Skipped held reg id)
    (hpost : post (result, none) seen reg) :
    (sweepRecords grace held ids result).Alone exec allowed post seen reg := by
  induction ids with
  | nil => exact hpost
  | cons id _ ih =>
    apply Program.Alone.bind
    apply alone_sweepRecord_skip hseen (hskipped id List.mem_cons_self)
    exact ih fun other hother => hskipped other (List.mem_cons_of_mem id hother)

/-- Only one Rack is not skipped: the pass is its repair. -/
lemma alone_sweepRecords_one {ids : List UUID} {broken : UUID} {fixed : RegBucket → Prop}
    (hseen : reg ∈ seen) (hnodup : ids.Nodup) (hbroken : broken ∈ ids)
    (hskipped : ∀ id ∈ ids, id ≠ broken → Skipped held reg id)
    (hfix : ∀ result, (sweepRecord grace held broken result).Alone exec allowed
      (fun outcome passed final => outcome.2 = none ∧ final ∈ passed ∧
        (∀ id, id ≠ broken → recordOf final ⟨typeRack, id⟩ =
          recordOf reg ⟨typeRack, id⟩) ∧ fixed final) seen reg)
    (hpost : ∀ outcome passed final, fixed final → post outcome passed final) :
    (sweepRecords grace held ids result).Alone exec allowed post seen reg := by
  induction ids with
  | nil => simp at hbroken
  | cons id _ ih =>
    rw [List.nodup_cons] at hnodup
    apply Program.Alone.bind
    by_cases hsame : id = broken
    · subst id
      apply (hfix result).mono
      rintro ⟨after, _⟩ passed final ⟨rfl, hfinal, hothers, hfixed⟩
      apply alone_sweepRecords_skip hfinal
      · intro other hother rec hrecord
        have hne : other ≠ broken := fun heq => hnodup.1 (heq ▸ hother)
        rw [hothers other hne] at hrecord
        exact hskipped other (List.mem_cons_of_mem broken hother) hne rec hrecord
      · exact hpost _ passed final hfixed
    · apply alone_sweepRecord_skip hseen (hskipped id List.mem_cons_self hsame)
      apply ih hnodup.2 ((List.mem_cons.mp hbroken).resolve_left (Ne.symm hsame))
      exact fun other hother => hskipped other (List.mem_cons_of_mem id hother)

/-- A record old enough to be swept whose name is not among those that point at
it comes to the second half of `sweepRecord`. -/
lemma alone_sweepRecord {id : UUID} {item : Item Record} (hseen : reg ∈ seen)
    (hitem : reg.get (.entity ⟨typeRack, id⟩) = some item) (hname : item.value.name ≠ "")
    (hold : ∀ input, allowed input → grace ≤ input.now - item.value.updatedAt)
    (hunheld : item.value.name ∉ held ⟨typeRack, id⟩)
    (hempty : held ⟨typeRack, id⟩ = [] → ∀ result,
      post (result, none) (insert (reg.remove (.entity ⟨typeRack, id⟩)) seen)
        (reg.remove (.entity ⟨typeRack, id⟩)))
    (hrename : ∀ oldest names, held ⟨typeRack, id⟩ = oldest :: names →
      (sweepRename item.value item.rev ⟨typeRack, id⟩ oldest (oldest :: names)
        result).Alone exec allowed post seen reg) :
    (sweepRecord grace held id result).Alone exec allowed post seen reg := by
  have hat : reg.At (.entity ⟨typeRack, id⟩) item.rev := ⟨item, hitem, rfl⟩
  apply alone_getRecord_some hseen hitem
  simp only [hname, if_false]
  apply alone_read .now hseen (fun _ _ => rfl)
  intro input hinput
  have hnotYoung : ¬ input.now - item.value.updatedAt < grace := not_lt.mpr (hold input hinput)
  simp only [exec, hnotYoung, hunheld, if_false]
  cases hheld : held ⟨typeRack, id⟩ with
  | nil =>
    apply alone_delete hat
    simp only [if_true]
    apply alone_read (.liveDelete _) (Set.mem_insert _ _) (fun _ _ => rfl)
    intro _ _
    exact hempty hheld _
  | cons oldest names => exact hrename oldest names hheld

/-- What `releaseAll` leaves. -/
def releasedAll (reg : RegBucket) (ref : NameRef) (names : List String) : RegBucket :=
  names.foldl (fun current name => released current name ref) reg

lemma alone_releaseAll {ref : NameRef} {names : List String}
    {post : Unit → Set RegBucket → RegBucket → Prop} (hseen : reg ∈ seen)
    (hpost : ∀ passed, releasedAll reg ref names ∈ passed →
      post () passed (releasedAll reg ref names)) :
    (releaseAll ref names).Alone exec allowed post seen reg := by
  induction names generalizing seen reg with
  | nil => exact hpost seen hseen
  | cons _ _ ih =>
    apply alone_releaseName hseen
    exact ih (Set.mem_insert _ _) hpost

@[simp]
lemma recordOf_releasedAll (ref : NameRef) (names : List String) (other : NameRef) :
    recordOf (releasedAll reg ref names) other = recordOf reg other := by
  induction names generalizing reg with
  | nil => rfl
  | cons name _ ih => exact (ih).trans (recordOf_released name ref other)

lemma holderOf_releasedAll (ref : NameRef) (names : List String) (other : String) :
    holderOf (releasedAll reg ref names) other =
      if other ∈ names ∧ other ≠ "" ∧ holderOf reg other = some ref then none
      else holderOf reg other := by
  induction names generalizing reg with
  | nil => simp [releasedAll]
  | cons name names ih =>
    have hstep : releasedAll reg ref (name :: names) =
        releasedAll (released reg name ref) ref names := rfl
    rw [hstep, ih]
    grind

end

end Fluxrig.Registry
