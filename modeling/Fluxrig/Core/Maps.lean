import Mathlib.Data.List.AList
import Mathlib.Tactic

/-!
# Maps filled one entry after the other

A loop that ranges over the entries of one map and assigns to another.  What is assigned
under a key may depend on what was there.  The order of the entries does not matter as
long as no key occurs twice.
-/

namespace Fluxrig.Core

variable {Key Old New : Type*} [DecidableEq Key]

/-- What is under a key after one assignment: the new value, or what was there. -/
lemma eq_or_of_update {map : Key → Option Old} {assigned key : Key} {item found : Old}
    (hfound : Function.update map assigned (some item) key = some found) :
    key = assigned ∧ item = found ∨ map key = some found := by
  by_cases hkey : key = assigned
  · rw [hkey, Function.update_self, Option.some.injEq] at hfound
    exact Or.inl ⟨hkey, hfound⟩
  · rw [Function.update_of_ne hkey] at hfound
    exact Or.inr hfound

/-- An assignment takes nothing away. -/
lemma update_ne_none {map : Key → Option Old} {assigned key : Key} {item : Old}
    (hkey : key = assigned ∨ map key ≠ none) :
    Function.update map assigned (some item) key ≠ none := by
  intro hnone
  by_cases hsame : key = assigned
  · rw [hsame, Function.update_self] at hnone
    nomatch hnone
  · rw [Function.update_of_ne hsame] at hnone
    exact hkey.resolve_left hsame hnone

/-- Assign the entries in turn. -/
def assignAll (combine : Option Old → New → Old) (entries : List (Σ _ : Key, New))
    (dst : AList fun _ : Key => Old) : AList fun _ : Key => Old :=
  entries.foldl (fun dst entry => dst.insert entry.1 (combine (dst.lookup entry.1) entry.2)) dst

variable {combine : Option Old → New → Old} {entries other : List (Σ _ : Key, New)}

/-- Each entry is combined with what was under its key, and the other keys stay. -/
lemma lookup_assignAll (hnodup : entries.NodupKeys) (dst : AList fun _ : Key => Old) (key : Key) :
    (assignAll combine entries dst).lookup key = (entries.dlookup key).elim (dst.lookup key)
        fun value => some (combine (dst.lookup key) value) := by
  induction entries generalizing dst with
  | nil => rfl
  | cons entry rest ih =>
    obtain ⟨hfresh, hrest⟩ := List.nodupKeys_cons.mp hnodup
    change (assignAll combine rest _).lookup key = _
    rw [ih hrest]
    by_cases hkey : key = entry.1
    · -- the rest does not touch the key of the first entry
      subst hkey
      rw [List.dlookup_eq_none.mpr hfresh, Option.elim_none, AList.lookup_insert]
      rw [List.dlookup_cons_eq, Option.elim_some]
    · rw [List.dlookup_cons_ne rest entry hkey, AList.lookup_insert_ne hkey]

/-- The same for the entries of a map. -/
lemma lookup_assignAll_entries (src : AList fun _ : Key => New)
    (dst : AList fun _ : Key => Old) (key : Key) :
    (assignAll combine src.entries dst).lookup key = (src.lookup key).elim (dst.lookup key)
        fun value => some (combine (dst.lookup key) value) :=
  lookup_assignAll src.nodupKeys dst key

end Fluxrig.Core
