import Mathlib.Tactic

/-!
# Timelines

The states a machine passes through while it takes a list of steps, indexed by
the number of steps taken.  A property that single steps preserve holds at all
times once it holds at one, and a property that is lost between two times is
lost at one particular step.
-/

namespace Fluxrig.Core

variable {State Step : Type*}

/-- The state after the first `time` steps. -/
def stateAt (take : State → Step → State) (start : State) (steps : List Step)
    (time : ℕ) : State :=
  (steps.take time).foldl take start

section

variable {take : State → Step → State} {start : State} {steps : List Step}

@[simp]
lemma stateAt_zero : stateAt take start steps 0 = start := rfl

lemma stateAt_succ {time : ℕ} {step : Step} (hstep : steps[time]? = some step) :
    stateAt take start steps (time + 1) = take (stateAt take start steps time) step := by
  rw [stateAt, List.take_add_one, hstep, List.foldl_append]
  rfl

lemma stateAt_succ_of_none {time : ℕ} (hstep : steps[time]? = none) :
    stateAt take start steps (time + 1) = stateAt take start steps time := by
  rw [stateAt, List.take_add_one, hstep, Option.toList_none, List.append_nil]
  rfl

/-- What holds at one time and is preserved by the later steps where they are taken holds
from then on. -/
lemma stateAt_from {holds : State → Prop} {early late : ℕ}
    (hearly : holds (stateAt take start steps early))
    (hstep : ∀ time step, steps[time]? = some step → holds (stateAt take start steps time) →
      holds (take (stateAt take start steps time) step)) (hle : early ≤ late) :
    holds (stateAt take start steps late) := by
  induction late, hle using Nat.le_induction with
  | base => exact hearly
  | succ time _ ih =>
    cases hnext : steps[time]? with
    | none =>
      rw [stateAt_succ_of_none hnext]
      exact ih
    | some step =>
      rw [stateAt_succ hnext]
      exact hstep time step hnext ih

/-- What every step preserves holds from any time on at which it holds. -/
lemma stateAt_of_le {holds : State → Prop} {early late : ℕ}
    (hstep : ∀ state, ∀ step ∈ steps, holds state → holds (take state step))
    (hearly : holds (stateAt take start steps early)) (hle : early ≤ late) :
    holds (stateAt take start steps late) :=
  stateAt_from hearly (fun _ step hnext => hstep _ step (List.mem_of_getElem? hnext)) hle

/-- What holds at the start and is preserved by every step holds at all times. -/
lemma stateAt_invariant {holds : State → Prop} (hstart : holds start)
    (hstep : ∀ state, ∀ step ∈ steps, holds state → holds (take state step))
    (time : ℕ) : holds (stateAt take start steps time) := by
  have hzero : holds (stateAt take start steps 0) := hstart
  exact stateAt_of_le hstep hzero (Nat.zero_le time)

/-- The same with steps that preserve it where they are taken. -/
lemma stateAt_induction {holds : State → Prop} (hstart : holds start)
    (hstep : ∀ time step, steps[time]? = some step → holds (stateAt take start steps time) →
      holds (take (stateAt take start steps time) step)) (time : ℕ) :
    holds (stateAt take start steps time) := by
  have hzero : holds (stateAt take start steps 0) := hstart
  exact stateAt_from hzero hstep (Nat.zero_le time)

/-- What the step that first brings about a condition establishes, and every step preserves,
holds from any time on at which the condition does. -/
lemma stateAt_brought (condition holds : State → Prop) (hstart : ¬ condition start)
    (hbrings : ∀ time step, steps[time]? = some step →
      ¬ condition (stateAt take start steps time) →
      condition (take (stateAt take start steps time) step) →
      holds (take (stateAt take start steps time) step))
    (hkeeps : ∀ state step, holds state → holds (take state step))
    {time later : ℕ} (hcondition : condition (stateAt take start steps time))
    (hle : time ≤ later) : holds (stateAt take start steps later) := by
  have hnow : condition (stateAt take start steps time) →
      holds (stateAt take start steps time) := by
    refine @stateAt_induction _ _ take start steps (fun state => condition state → holds state)
      (fun hfirst => absurd hfirst hstart) ?_ time
    intro now step hstep hbefore hafter
    by_cases hearlier : condition (stateAt take start steps now)
    · exact hkeeps _ step (hbefore hearlier)
    · exact hbrings now step hstep hearlier hafter
  exact stateAt_of_le (fun state step _ => hkeeps state step) (hnow hcondition) hle

/-- A property that holds at one time and fails later is lost at one step in
between. -/
lemma exists_losing_step {holds : State → Prop} {early late : ℕ}
    (hearly : holds (stateAt take start steps early)) (hle : early ≤ late)
    (hlate : ¬ holds (stateAt take start steps late)) :
    ∃ time step, early ≤ time ∧ time < late ∧ steps[time]? = some step ∧
      holds (stateAt take start steps time) ∧
      ¬ holds (take (stateAt take start steps time) step) := by
  induction late, hle using Nat.le_induction with
  | base => exact absurd hearly hlate
  | succ time hbetween ih =>
    by_cases hnow : holds (stateAt take start steps time)
    · cases hnext : steps[time]? with
      | none =>
        rw [stateAt_succ_of_none hnext] at hlate
        exact absurd hnow hlate
      | some step =>
        rw [stateAt_succ hnext] at hlate
        exact ⟨time, step, hbetween, Nat.lt_succ_self time, hnext, hnow, hlate⟩
    · obtain ⟨earlier, step, hfrom, hbefore, hfound⟩ := ih hnow
      exact ⟨earlier, step, hfrom, Nat.lt_succ_of_lt hbefore, hfound⟩

end

end Fluxrig.Core
