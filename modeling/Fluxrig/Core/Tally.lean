import Mathlib.Data.List.AList
import Mathlib.Data.Multiset.Count
import Mathlib.Tactic

/-!
# Tallies

A table of counters that keeps no entry for a label it counts zero of.  A tally
is measured against the multiset of labels it is meant to count.
-/

namespace Fluxrig.Core

/-- A table is the entry of one of its keys and the rest. -/
lemma entries_perm_cons_erase {Key : Type*} {Item : Key → Type*} [DecidableEq Key]
    {table : AList Item} {key : Key} {item : Item key}
    (hentry : table.lookup key = some item) :
    table.entries.Perm (⟨key, item⟩ :: (table.erase key).entries) := by
  have hkey : key ∈ table.entries.keys := AList.lookup_isSome.mp (by simp [hentry])
  obtain ⟨found, front, back, _, hentries, herased⟩ := List.exists_of_kerase hkey
  have hmem : ⟨key, item⟩ ∈ table.entries := AList.mem_lookup_iff.mp hentry
  have hsame : found = item := by
    have hfound : (⟨key, found⟩ : Sigma Item) ∈ table.entries := by simp [hentries]
    exact List.NodupKeys.eq_of_mk_mem table.nodupKeys hfound hmem
  calc table.entries = front ++ ⟨key, found⟩ :: back := hentries
    _ = front ++ ⟨key, item⟩ :: back := by rw [hsame]
    _ |>.Perm (⟨key, item⟩ :: (front ++ back)) := List.perm_middle
    _ = ⟨key, item⟩ :: (table.erase key).entries := by rw [← herased]; rfl

section

variable {Key Item : Type*} [DecidableEq Key] {table : AList fun _ : Key => Item}

@[grind =]
lemma lookup_insert_eq {added key : Key} {item : Item} : (table.insert added item).lookup key =
      if key = added then some item else table.lookup key := by
  split
  next hkey => rw [hkey, AList.lookup_insert]
  next hkey => exact AList.lookup_insert_ne hkey

@[grind =]
lemma lookup_erase_eq {dropped key : Key} :
    (table.erase dropped).lookup key = if key = dropped then none else table.lookup key := by
  split
  next hkey => rw [hkey, AList.lookup_erase]
  next hkey => exact AList.lookup_erase_ne hkey

end

/-- A table of counters. -/
abbrev Tally (Label : Type*) := AList fun _ : Label => ℤ

namespace Tally

variable {Label : Type*} [DecidableEq Label]

variable (tally : Tally Label)

/-- The counter of a label; a missing entry reads as zero. -/
def count (label : Label) : ℤ :=
  (tally.lookup label).getD 0

def inc (label : Label) : Tally Label :=
  tally.insert label (tally.count label + 1)

/-- Count one less; the last one takes the entry away. -/
def dec (label : Label) : Tally Label :=
  if tally.count label ≤ 1 then tally.erase label
  else tally.insert label (tally.count label - 1)

/-- The tally counts exactly these labels: the entry of a label that occurs is
the number of its occurrences, and no other label has an entry. -/
def Counts (labels : Multiset Label) : Prop :=
  ∀ label, tally.lookup label =
    if label ∈ labels then some (labels.count label : ℤ) else none

lemma counts_empty : Counts (∅ : Tally Label) 0 := by
  intro label
  rw [AList.lookup_empty, if_neg (Multiset.notMem_zero label)]

variable {tally : Tally Label} {labels : Multiset Label}

lemma Counts.count_eq (hcounts : tally.Counts labels) (label : Label) :
    tally.count label = labels.count label := by
  rw [count, hcounts label]
  split
  · rfl
  next hmem =>
    rw [Option.getD_none, Multiset.count_eq_zero_of_notMem hmem, Nat.cast_zero]

lemma Counts.pos (hcounts : tally.Counts labels) {label : Label} {number : ℤ}
    (hentry : tally.lookup label = some number) : 0 < number := by
  rw [hcounts label] at hentry
  split at hentry
  next hmem =>
    have hnumber : (labels.count label : ℤ) = number := Option.some.inj hentry
    rw [← hnumber]
    exact_mod_cast Multiset.count_pos.mpr hmem
  · exact absurd hentry.symm (Option.some_ne_none number)

lemma Counts.inc (hcounts : tally.Counts labels) (added : Label) :
    (tally.inc added).Counts (added ::ₘ labels) := by
  intro label
  by_cases hlabel : label = added
  · subst hlabel
    rw [Tally.inc, AList.lookup_insert, if_pos (Multiset.mem_cons_self label labels),
      hcounts.count_eq, Multiset.count_cons_self, Nat.cast_succ]
  · rw [Tally.inc, AList.lookup_insert_ne hlabel, hcounts label, Multiset.count_cons_of_ne hlabel]
    simp only [Multiset.mem_cons, hlabel, false_or]

lemma Counts.dec {dropped : Label} (hcounts : tally.Counts (dropped ::ₘ labels)) :
    (tally.dec dropped).Counts labels := by
  have hcount : tally.count dropped = labels.count dropped + 1 := by
    rw [hcounts.count_eq, Multiset.count_cons_self, Nat.cast_succ]
  intro label
  by_cases hlabel : label = dropped
  · subst hlabel
    by_cases hmem : label ∈ labels
    · have hpos : 0 < labels.count label := Multiset.count_pos.mpr hmem
      rw [Tally.dec, if_neg (by omega), AList.lookup_insert, if_pos hmem, hcount,
        add_sub_cancel_right]
    · have hzero : labels.count label = 0 := Multiset.count_eq_zero_of_notMem hmem
      rw [Tally.dec, if_pos (by omega), AList.lookup_erase, if_neg hmem]
  · have hkept : (tally.dec dropped).lookup label = tally.lookup label := by
      rw [Tally.dec]
      split
      · exact AList.lookup_erase_ne hlabel
      · exact AList.lookup_insert_ne hlabel
    rw [hkept, hcounts label, Multiset.count_cons_of_ne hlabel]
    simp only [Multiset.mem_cons, hlabel, false_or]

end Tally

end Fluxrig.Core
