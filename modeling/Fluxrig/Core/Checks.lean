import Mathlib.Tactic

/-!
# Chains of checks

A check that fails stops a function with an error, or adds to a list of problems.
The rules turn "the function returned" into what every check found.
-/

namespace Fluxrig.Core

universe u v

variable {Err : Type u} {Item Result : Type v}

/-- A computation in two parts returns when both do. -/
lemma bind_eq_ok {first : Except Err Item} {second : Item → Except Err Result} {result : Result} :
    (first >>= second) = .ok result ↔ ∃ item, first = .ok item ∧ second item = .ok result := by
  constructor
  · intro hok
    cases first with
    | error => nomatch hok
    | ok item => exact ⟨item, rfl, hok⟩
  · intro hparts
    obtain ⟨item, hfirst, hsecond⟩ := hparts
    rw [hfirst]
    exact hsecond

/-- Behind a check that refuses `bad`, the rest runs only without it. -/
lemma guard_eq_ok {bad : Prop} [Decidable bad] {err : Err} {rest : Except Err Result}
    {result : Result} :
    (if bad then .error err else rest) = .ok result ↔ ¬ bad ∧ rest = .ok result := by
  by_cases hbad : bad
  · simp [hbad]
  · simp [hbad]

/-- The problem a check adds to those found so far. -/
def problemIf {Problem : Type u} (bad : Prop) [Decidable bad] (problem : Problem) :
    List Problem :=
  if bad then [problem] else []

@[simp]
lemma problemIf_eq_nil {Problem : Type u} {bad : Prop} [Decidable bad] {problem : Problem} :
    problemIf bad problem = [] ↔ ¬ bad := by
  by_cases hbad : bad
  · simp [problemIf, hbad]
  · simp [problemIf, hbad]

end Fluxrig.Core
