import Mathlib.Data.Finset.Card
import Mathlib.Logic.Relation
import Mathlib.Tactic

/-!
# Loops

A loop is given by its body, which either goes on with a next state or leaves with
a result.  It ends if its turns decrease a well-founded measure.  A loop whose body
needs not make progress ends exactly if no state that it reaches leads back to itself,
as long as the states it goes on from are finitely many; their number then bounds its
turns.
-/

namespace Fluxrig.Core

open Relation

variable {State Result : Type*} (body : State → State ⊕ Result)

/-- The loop, cut off after `fuel` turns. -/
def loop : ℕ → State → Option Result
  | 0, _ => none
  | fuel + 1, state =>
      match body state with
      | .inl next => loop fuel next
      | .inr result => some result

/-- One turn that does not leave the loop. -/
def Continues (state next : State) : Prop := body state = .inl next

variable {body} {state next later : State} {result other : Result} {fuel : ℕ}

lemma loop_of_leaves (hleaves : body state = .inr result) :
    loop body (fuel + 1) state = some result := by
  rw [loop, hleaves]

lemma loop_of_continues (hcontinues : Continues body state next) :
    loop body (fuel + 1) state = loop body fuel next := by
  rw [loop, hcontinues]

/-- What a loop returns does not depend on how many turns it is given. -/
lemma loop_mono (hloop : loop body fuel state = some result) {more : ℕ}
    (hmore : fuel ≤ more) : loop body more state = some result := by
  induction fuel generalizing state more with
  | zero => cases hloop
  | succ fuel ih =>
    obtain ⟨rest, rfl⟩ := Nat.exists_eq_add_of_le' (Nat.one_le_of_lt hmore)
    have hrest : fuel ≤ rest := Nat.le_of_succ_le_succ hmore
    rw [loop] at hloop ⊢
    cases hbody : body state with
    | inl =>
      rw [hbody] at hloop
      exact ih hloop hrest
    | inr =>
      rw [hbody] at hloop
      exact hloop

lemma loop_unique {turns : ℕ} (hloop : loop body fuel state = some result)
    (hother : loop body turns state = some other) : result = other := by
  have hfirst := loop_mono hloop (le_max_left fuel turns)
  have hsecond := loop_mono hother (le_max_right fuel turns)
  exact Option.some.inj (hfirst.symm.trans hsecond)

/-- The loop returns a result exactly if it reaches a state that leaves with it. -/
lemma loop_returns_iff : (∃ fuel, loop body fuel state = some result) ↔
      ∃ last, ReflTransGen (Continues body) state last ∧ body last = .inr result := by
  constructor
  · intro hreturns
    obtain ⟨fuel, hloop⟩ := hreturns
    induction fuel generalizing state with
    | zero => cases hloop
    | succ _ ih =>
      cases hbody : body state with
      | inl =>
        rw [loop_of_continues hbody] at hloop
        obtain ⟨last, hreaches, hleaves⟩ := ih hloop
        exact ⟨last, .head hbody hreaches, hleaves⟩
      | inr =>
        rw [loop_of_leaves hbody] at hloop
        exact ⟨state, .refl, hbody.trans (congrArg _ (Option.some.inj hloop))⟩
  · intro hreaches
    obtain ⟨last, hreaches, hleaves⟩ := hreaches
    induction hreaches using ReflTransGen.head_induction_on with
    | refl => exact ⟨1, loop_of_leaves hleaves⟩
    | head hcontinues _ ih =>
      obtain ⟨fuel, hloop⟩ := ih
      exact ⟨fuel + 1, (loop_of_continues hcontinues).trans hloop⟩

/-- Every state on the way returns what the loop returns. -/
lemma loop_returns_of_reaches (hreturns : ∃ fuel, loop body fuel state = some result)
    (hreaches : ReflTransGen (Continues body) state later) :
    ∃ fuel, loop body fuel later = some result := by
  induction hreaches with
  | refl => exact hreturns
  | tail _ hcontinues ih =>
    obtain ⟨fuel, hloop⟩ := ih
    cases fuel with
    | zero => cases hloop
    | succ fuel => exact ⟨fuel, (loop_of_continues hcontinues).symm.trans hloop⟩

/-- A state on the way of a loop that returns does not lead back to itself. -/
lemma not_returns_to_itself (hreturns : ∃ fuel, loop body fuel state = some result) :
    ¬ TransGen (Continues body) state state := by
  obtain ⟨fuel, hloop⟩ := hreturns
  induction fuel generalizing state with
  | zero => cases hloop
  | succ _ ih =>
    intro hcycle
    obtain ⟨next, hcontinues, hback⟩ := TransGen.head'_iff.mp hcycle
    rw [loop_of_continues hcontinues] at hloop
    -- The cycle can be entered one state later.
    exact ih hloop (.tail' hback hcontinues)

/-- Without such a state the loop returns, within as many turns as there are states
to go on from, and one more to leave. -/
lemma loop_returns_of_acyclic (among : Finset State)
    (hamong : ∀ here there, ReflTransGen (Continues body) state here →
      Continues body here there → here ∈ among)
    (hacyclic : ∀ here, ReflTransGen (Continues body) state here →
      ¬ TransGen (Continues body) here here) :
    ∃ result, loop body (among.card + 1) state = some result := by
  classical
  induction hcount : among.card generalizing among state with
  | zero =>
    cases hbody : body state with
    | inl next =>
      have hmem := hamong state next .refl hbody
      rw [Finset.card_eq_zero.mp hcount] at hmem
      exact absurd hmem (Finset.notMem_empty state)
    | inr result => exact ⟨result, loop_of_leaves hbody⟩
  | succ _ ih =>
    cases hbody : body state with
    | inl next =>
      have hmem := hamong state next .refl hbody
      -- The state itself is not met again, so it is not counted for the rest.
      obtain ⟨result, hloop⟩ := ih (among.erase state) (fun here there hreaches hcontinues => by
          have hhere := hamong here there (.head hbody hreaches) hcontinues
          apply Finset.mem_erase.mpr ⟨_, hhere⟩
          intro heq
          rw [heq] at hreaches
          exact hacyclic state .refl (.head' hbody hreaches))
        (fun here hreaches => hacyclic here (.head hbody hreaches))
        (by rw [Finset.card_erase_of_mem hmem, hcount, Nat.add_sub_cancel])
      exact ⟨result, (loop_of_continues hbody).trans hloop⟩
    | inr result => exact ⟨result, loop_of_leaves hbody⟩

/-- A loop whose turns all decrease a well-founded measure returns. -/
lemma loop_returns_of_variant {Measure : Type*} {less : Measure → Measure → Prop}
    (hwell : WellFounded less) (variant : State → Measure)
    (hless : ∀ here there, Continues body here there → less (variant there) (variant here))
    (state : State) : ∃ fuel result, loop body fuel state = some result := by
  induction state using (InvImage.wf variant hwell).induction with
  | _ state ih =>
    cases hbody : body state with
    | inl next =>
      obtain ⟨fuel, result, hloop⟩ := ih next (hless state next hbody)
      exact ⟨fuel + 1, result, (loop_of_continues hbody).trans hloop⟩
    | inr result => exact ⟨1, result, loop_of_leaves hbody⟩

/-- So many turns are enough for a loop that returns at all. -/
lemma loop_returns_within (among : Finset State)
    (hamong : ∀ here there, ReflTransGen (Continues body) state here →
      Continues body here there → here ∈ among)
    (hreturns : ∃ fuel, loop body fuel state = some result) :
    loop body (among.card + 1) state = some result := by
  obtain ⟨found, hloop⟩ := loop_returns_of_acyclic among hamong fun here hreaches =>
    not_returns_to_itself (loop_returns_of_reaches hreturns hreaches)
  obtain ⟨fuel, hgiven⟩ := hreturns
  rw [hloop, loop_unique hgiven hloop]

end Fluxrig.Core
