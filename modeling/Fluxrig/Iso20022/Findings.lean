import Fluxrig.Message.FluxMsg

/-!
# Findings without their values

The validators of the message library report `<path>: <value> fails <rule>`, and the value
must not be shown.  `withholdValue` cuts at the first separator and at the last word, so
what it returns does not depend on the value, whatever separators the value holds itself.
-/

namespace Fluxrig.Iso20022

open Message

/-- `strings.Cut`: the text before and after the first occurrence. -/
def cutAt (sep : Text) : Text → Option (Text × Text)
  | [] => none
  | byte :: rest =>
      if sep.isPrefixOf (byte :: rest) then some ([], (byte :: rest).drop sep.length)
      else (cutAt sep rest).map fun parts => (byte :: parts.1, parts.2)

/-- The text from the occurrence that `strings.LastIndex` finds. -/
def fromLast (sep : Text) : Text → Option Text
  | [] => none
  | byte :: rest =>
      match fromLast sep rest with
      | some found => some found
      | none => if sep.isPrefixOf (byte :: rest) then some (byte :: rest) else none

def separator : Text := utf8 ": "

def fails : Text := utf8 " fails "

def valueWithheld : Text := utf8 "(value withheld)"

def withholdValue (finding : Text) : Text :=
  match cutAt separator finding with
  | none => valueWithheld
  | some (path, rest) =>
      path ++ separator ++ valueWithheld ++ (fromLast fails rest).getD []

/-- What a validator reports about a value. -/
def findingOf (path value rule : Text) : Text :=
  path ++ separator ++ (value ++ (fails ++ rule))

variable {sep back path found : Text}

/-- A path that does not hold the separator ends at the first one. -/
lemma cutAt_separator (hpath : ¬ separator <:+: path) (rest : Text) :
    cutAt separator (path ++ separator ++ rest) = some (path, rest) := by
  induction path with
  | nil => rfl
  | cons byte more ih =>
    have hnot : ¬ separator.isPrefixOf (byte :: (more ++ separator ++ rest)) = true := by
      rw [List.isPrefixOf_iff_prefix]
      intro hfront
      obtain ⟨rfl, hnext⟩ := List.cons_prefix_cons.mp hfront
      cases more with
      | nil => exact absurd (List.cons_prefix_cons.mp hnext).1 (by decide)
      | cons next others =>
        obtain ⟨rfl, -⟩ := List.cons_prefix_cons.mp hnext
        exact hpath (List.prefix_append separator others).isInfix
    rw [List.cons_append, List.cons_append, cutAt, if_neg hnot,
      ih fun hinfix => hpath (List.infix_cons hinfix)]
    rfl

/-- An occurrence later in the text is found first. -/
lemma fromLast_append (hfound : fromLast sep back = some found) (front : Text) :
    fromLast sep (front ++ back) = some found := by
  induction front with
  | nil => exact hfound
  | cons byte rest ih => rw [List.cons_append, fromLast, ih]

/-- Before a rule there is an occurrence, so the last one is there or in the rule. -/
lemma exists_fromLast (rule : Text) : ∃ found, fromLast fails (fails ++ rule) = some found := by
  cases hrest : fromLast fails (fails.tail ++ rule) with
  | some found => exact ⟨found, fromLast_append hrest [32]⟩
  | none =>
    refine ⟨fails ++ rule, ?_⟩
    change fromLast fails (32 :: (fails.tail ++ rule)) = _
    rw [fromLast, hrest]
    rfl

/-- Two findings that differ in the value only are shown alike. -/
theorem withholdValue_eq (hpath : ¬ separator <:+: path) (rule value other : Text) :
    withholdValue (findingOf path value rule) = withholdValue (findingOf path other rule) := by
  obtain ⟨found, hlast⟩ := exists_fromLast rule
  rw [withholdValue, withholdValue, findingOf, findingOf, cutAt_separator hpath,
    cutAt_separator hpath]
  dsimp only
  rw [fromLast_append hlast value, fromLast_append hlast other]

theorem withholdValue_mimicked :
    withholdValue (findingOf (utf8 "Acct") (utf8 "x: y fails z") (utf8 "pattern")) =
        withholdValue (findingOf (utf8 "Acct") (utf8 "GB29") (utf8 "pattern")) ∧
      withholdValue (findingOf (utf8 "Acct") (utf8 "GB29") (utf8 "pattern")) =
        utf8 "Acct: (value withheld) fails pattern" := by
  exact ⟨withholdValue_eq (by decide) _ _ _, by decide⟩

end Fluxrig.Iso20022
