import Mathlib.Tactic

/-!
# Lists that grow

A list of records to which new ones are added at the end and whose old ones change in place,
as a table of calls or of subscriptions does.
-/

namespace Fluxrig.Core

variable {Entry : Type*}

/-- Each entry stays where it is and changes as `moves` allows; the others are fresh. -/
structure Grows (moves : ℕ → Entry → Entry → Prop) (fresh : Entry → Prop)
    (before after : List Entry) : Prop where
  get : ∀ place old, before[place]? = some old →
    ∃ new, after[place]? = some new ∧ moves place old new
  fresh : ∀ (place : ℕ) new, before[place]? = none → after[place]? = some new → fresh new

namespace Grows

variable {moves : ℕ → Entry → Entry → Prop} {fresh : Entry → Prop}
  {before after : List Entry} {place : ℕ} {old new : Entry}

/-- An entry is fresh, or there was one in its place. -/
lemma cases (hgrows : Grows moves fresh before after) (hnew : after[place]? = some new) :
    fresh new ∨ ∃ old, before[place]? = some old ∧ moves place old new := by
  cases hold : before[place]? with
  | none => exact Or.inl (hgrows.fresh place new hold hnew)
  | some old =>
    obtain ⟨found, hfound, hmoves⟩ := hgrows.get place old hold
    rw [hnew, Option.some.injEq] at hfound
    exact Or.inr ⟨old, rfl, hfound ▸ hmoves⟩

lemma mem_cases (hgrows : Grows moves fresh before after) (hnew : new ∈ after) :
    fresh new ∨ ∃ old ∈ before, ∃ place, moves place old new := by
  obtain ⟨place, hplace⟩ := List.mem_iff_getElem?.mp hnew
  refine (hgrows.cases hplace).imp_right ?_
  intro ⟨old, hold, hmoves⟩
  exact ⟨old, List.mem_of_getElem? hold, place, hmoves⟩

section

variable (hrefl : ∀ place entry, moves place entry entry)

include hrefl

lemma refl : Grows moves fresh before before where
  get place old hold := ⟨old, hold, hrefl place old⟩
  fresh place new hnone hsome := by simp [hnone] at hsome

lemma set (hold : before[place]? = some old) (hmoves : moves place old new) :
    Grows moves fresh before (before.set place new) where
  get other entry hentry := by
    by_cases hplace : place = other
    · subst hplace
      rw [hold, Option.some.injEq] at hentry
      have hlt := (List.getElem?_eq_some_iff.mp hold).1
      exact ⟨new, List.getElem?_set_self hlt, hentry ▸ hmoves⟩
    · exact ⟨entry, (List.getElem?_set_ne hplace).trans hentry, hrefl other entry⟩
  fresh other entry hnone hsome := by
    have hlt := (List.getElem?_eq_some_iff.mp hsome).1
    rw [List.length_set] at hlt
    exact absurd (List.getElem?_eq_none_iff.mp hnone) (not_le.mpr hlt)

lemma concat (hfresh : fresh new) : Grows moves fresh before (before ++ [new]) where
  get place old hold := by
    have hlt := (List.getElem?_eq_some_iff.mp hold).1
    exact ⟨old, (List.getElem?_append_left hlt).trans hold, hrefl place old⟩
  fresh place entry hnone hsome := by
    rw [List.getElem?_append_right (List.getElem?_eq_none_iff.mp hnone)] at hsome
    exact List.mem_singleton.mp (List.mem_of_getElem? hsome) ▸ hfresh

end

end Grows

lemma sum_map_set (weight : Entry → ℤ) {entries : List Entry} {index : ℕ} {old new : Entry}
    (hold : entries[index]? = some old) :
    ((entries.set index new).map weight).sum =
      (entries.map weight).sum - weight old + weight new := by
  obtain ⟨hlt, hget⟩ := List.getElem?_eq_some_iff.mp hold
  have hlt' : index < (entries.map weight).length := by
    rw [List.length_map]
    exact hlt
  rw [List.map_set, List.sum_set', dif_pos hlt', List.getElem_map, hget]
  ring

lemma sum_map_concat (weight : Entry → ℤ) (entries : List Entry) (newest : Entry) :
    ((entries ++ [newest]).map weight).sum = (entries.map weight).sum + weight newest := by
  rw [List.map_append, List.sum_append, List.map_singleton, List.sum_singleton]

end Fluxrig.Core
