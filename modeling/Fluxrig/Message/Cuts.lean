import Fluxrig.Message.FluxMsg

/-!
# Texts cut at a byte

`strings.Cut` and `strings.LastIndex`: a text before and after the first or the last
occurrence of a byte.
-/

namespace Fluxrig.Message

/-- The text before and after the first occurrence of the byte. -/
def cutFirst (sep : UInt8) : Text → Option (Text × Text)
  | [] => none
  | byte :: rest =>
      if byte = sep then some ([], rest)
      else (cutFirst sep rest).map fun parts => (byte :: parts.1, parts.2)

/-- The text before and after the last occurrence of the byte. -/
def cutLast (sep : UInt8) : Text → Option (Text × Text)
  | [] => none
  | byte :: rest =>
      match cutLast sep rest with
      | some parts => some (byte :: parts.1, parts.2)
      | none => if byte = sep then some ([], rest) else none

variable {sep : UInt8} {text before after : Text}

lemma cutFirst_append (hbefore : sep ∉ before) (after : Text) :
    cutFirst sep (before ++ sep :: after) = some (before, after) := by
  induction before with
  | nil => exact if_pos rfl
  | cons _ _ ih =>
    obtain ⟨hbyte, hrest⟩ := not_or.mp (mt List.mem_cons.mpr hbefore)
    rw [List.cons_append, cutFirst, if_neg (Ne.symm hbyte), ih hrest, Option.map_some]

lemma exists_cutFirst (hmem : sep ∈ text) :
    ∃ before after, cutFirst sep text = some (before, after) := by
  induction text with
  | nil => nomatch hmem
  | cons byte rest ih =>
    rw [cutFirst]
    by_cases hbyte : byte = sep
    · exact ⟨[], rest, if_pos hbyte⟩
    · obtain ⟨before, after, hcut⟩ := ih ((List.mem_cons.mp hmem).resolve_left (Ne.symm hbyte))
      exact ⟨byte :: before, after, by rw [if_neg hbyte, hcut, Option.map_some]⟩

/-- A text cut at the first occurrence is put together again. -/
lemma eq_of_cutFirst (hcut : cutFirst sep text = some (before, after)) :
    text = before ++ sep :: after := by
  induction text generalizing before with
  | nil => nomatch hcut
  | cons byte _ ih =>
    rw [cutFirst] at hcut
    by_cases hbyte : byte = sep
    · rw [if_pos hbyte, Option.some.injEq, Prod.mk.injEq] at hcut
      rw [← hcut.1, ← hcut.2, hbyte, List.nil_append]
    · rw [if_neg hbyte, Option.map_eq_some_iff] at hcut
      obtain ⟨⟨front, back⟩, hrest, hparts⟩ := hcut
      cases hparts
      rw [List.cons_append, ← ih hrest]

lemma cutLast_eq_none_iff : cutLast sep text = none ↔ sep ∉ text := by
  induction text with
  | nil => simp [cutLast]
  | cons byte rest ih =>
    rw [cutLast]
    cases hrest : cutLast sep rest with
    | some =>
      have hmem : sep ∈ rest := by
        by_contra hnot
        rw [ih.mpr hnot] at hrest
        nomatch hrest
      simp [hmem]
    | none =>
      have hnot := ih.mp hrest
      by_cases hbyte : byte = sep
      · simp [hbyte]
      · simp [hbyte, hnot, Ne.symm hbyte]

lemma cutLast_append (before : Text) (hafter : sep ∉ after) :
    cutLast sep (before ++ sep :: after) = some (before, after) := by
  induction before with
  | nil => rw [List.nil_append, cutLast, cutLast_eq_none_iff.mpr hafter, if_pos rfl]
  | cons _ _ ih => rw [List.cons_append, cutLast, ih]

/-- A text cut at the last occurrence is put together again. -/
lemma eq_of_cutLast (hcut : cutLast sep text = some (before, after)) :
    text = before ++ sep :: after ∧ sep ∉ after := by
  induction text generalizing before with
  | nil => nomatch hcut
  | cons byte rest ih =>
    rw [cutLast] at hcut
    cases hrest : cutLast sep rest with
    | some parts =>
      rw [hrest, Option.some.injEq] at hcut
      obtain ⟨rfl, rfl⟩ := hcut
      obtain ⟨htext, hnot⟩ := ih hrest
      exact ⟨by rw [htext, List.cons_append], hnot⟩
    | none =>
      simp only [hrest] at hcut
      by_cases hbyte : byte = sep
      · rw [if_pos hbyte, Option.some.injEq] at hcut
        obtain ⟨rfl, rfl⟩ := hcut
        exact ⟨by rw [hbyte, List.nil_append], cutLast_eq_none_iff.mp hrest⟩
      · rw [if_neg hbyte] at hcut
        nomatch hcut

end Fluxrig.Message
