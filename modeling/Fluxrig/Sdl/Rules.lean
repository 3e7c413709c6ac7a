import Fluxrig.Sdl.Validator

/-!
# The rules of an element

A specification may write several rules for one element, each with a condition.
`validate` reports what every rule that applies finds, not only the first, so the first
one decides only where the message obeys the others (`first_rule_decides_iff`).
-/

namespace Fluxrig.Sdl.Validator

open Fluxrig.Core Message

variable (v : Validator) (floats : Floats) (m : Subject) (de : ℤ)

/-- The rules of an element that apply to the message, in the order of the specification. -/
def applicable : List CompiledRule :=
  (under v.rules m.mti).filter fun rule => rule.de = de ∧ applies floats m rule = true

/-- The usage and value violations reported for an element. -/
def reported : List Violation :=
  (v.validate floats m).filter fun found => found.kind ≠ .check ∧ found.de = de

/-- The message has what the rule asks for, and a value that its closed set lists. -/
def Obeys (rule : CompiledRule) : Prop :=
  match m.field rule.de [] with
  | none => rule.usage ≠ utf8 "mandatory"
  | some value => rule.usage ≠ utf8 "forbidden" ∧
      ∀ set, (rule.values <|> v.closed.lookup rule.path) = some set → set.closed = true →
        value ∈ set.values.map Prod.fst

variable {v floats m de} {rule : CompiledRule}

lemma checkRule_eq_nil_iff (happlies : applies floats m rule = true) :
    v.checkRule floats m rule = [] ↔ v.Obeys m rule := by
  rw [checkRule, if_neg (by rw [happlies]; exact nofun), Obeys]
  cases m.field rule.de [] with
  | none => exact problemIf_eq_nil
  | some value =>
    by_cases hforbidden : rule.usage = utf8 "forbidden"
    · simp [hforbidden]
    · simp only [ne_eq, hforbidden, not_false_eq_true, true_and, checkValue]
      cases hset : (rule.values <|> v.closed.lookup rule.path) with
      | none => simp
      | some => simp

/-- A rule reports usage and values of its own element. -/
lemma filter_checkRule : (v.checkRule floats m rule).filter
      (fun found => found.kind ≠ .check ∧ found.de = de) =
    if rule.de = de ∧ applies floats m rule = true then v.checkRule floats m rule else [] := by
  have hown : ∀ found ∈ v.checkRule floats m rule,
      found.kind ≠ .check ∧ found.de = rule.de ∧ applies floats m rule = true := by
    intro found hfound
    rw [checkRule] at hfound
    grind [problemIf, checkValue, rejectRule]
  split_ifs with hmine
  · exact List.filter_eq_self.mpr fun found hfound => by grind
  · exact List.filter_eq_nil_iff.mpr fun found hfound => by grind

lemma reported_eq : v.reported floats m de =
    (v.applicable floats m de).flatMap (v.checkRule floats m) := by
  have hchecks : ((under v.checks m.mti).flatMap (checkAssert floats m)).filter
      (fun found => found.kind ≠ .check ∧ found.de = de) = [] := by
    rw [List.filter_eq_nil_iff]
    intro found hfound
    obtain ⟨check, -, hcheck⟩ := List.mem_flatMap.mp hfound
    grind [checkAssert, problemIf]
  rw [reported, validate, List.filter_append, hchecks, List.append_nil, applicable]
  induction under v.rules m.mti with
  | nil => rfl
  | cons rule rules ih =>
    rw [List.flatMap_cons, List.filter_append, ih, filter_checkRule, List.filter_cons]
    split_ifs <;> simp_all

/-- The first rule that applies to an element decides what is reported for it exactly if
the message obeys the later ones. -/
theorem first_rule_decides_iff (v : Validator) (floats : Floats) (m : Subject) (de : ℤ) :
    v.reported floats m de =
        (v.applicable floats m de).head?.toList.flatMap (v.checkRule floats m) ↔
      ∀ rule ∈ (v.applicable floats m de).tail, v.Obeys m rule := by
  have happly : ∀ rule ∈ v.applicable floats m de, applies floats m rule = true := by
    intro rule hrule
    rw [applicable, List.mem_filter, decide_eq_true_eq] at hrule
    exact hrule.2.2
  rw [reported_eq]
  cases hrules : v.applicable floats m de with
  | nil => simp
  | cons first later =>
    rw [hrules, List.forall_mem_cons] at happly
    simp only [List.flatMap_cons, List.head?_cons, Option.toList_some, List.flatMap_nil,
      List.append_cancel_left_eq, List.flatMap_eq_nil_iff, List.tail_cons]
    exact forall₂_congr fun rule hrule => checkRule_eq_nil_iff (happly.2 rule hrule)

/-- Element 2 is optional and, by a second rule, mandatory. -/
def twoRules : Spec :=
  { oneCheck [] with
    checks := []
    fields := AList.singleton 2 ⟨[], [], none, [], none, [], none, [],
      [⟨[utf8 "0100"], utf8 "optional", [], [], [], none⟩,
        ⟨[utf8 "0100"], utf8 "mandatory", [], [], [], none⟩]⟩ }

/-- The second rule reports the missing element, though the first one applies. -/
theorem second_rule_reports : resolveReferences twoRules = .ok () ∧
    (newValidator twoRules).toOption.map (fun v =>
        (v.reported wholeFloats ⟨utf8 "0100", fun _ _ => none⟩ 2,
          ((v.applicable wholeFloats ⟨utf8 "0100", fun _ _ => none⟩ 2).head?.toList.flatMap
            (v.checkRule wholeFloats ⟨utf8 "0100", fun _ _ => none⟩)))) =
      some ([⟨severityReject, .usage, 2, utf8 "2", [], .missing none⟩], []) :=
  ⟨rfl, rfl⟩

end Fluxrig.Sdl.Validator
