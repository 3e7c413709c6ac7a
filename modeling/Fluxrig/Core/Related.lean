import Mathlib.Data.List.Forall2
import Mathlib.Tactic

/-!
# Related lists

Rules for two lists whose elements are related one by one.
-/

namespace Fluxrig.Core

variable {First Second : Type*} {firsts : List First} {seconds : List Second}
  {relation : First → Second → Prop}

lemma forall₂_trans {Third : Type*} {left : First → Second → Prop}
    {right : Second → Third → Prop} {both : First → Third → Prop}
    (htrans : ∀ first second third, left first second → right second third →
      both first third) {thirds : List Third} (hleft : List.Forall₂ left firsts seconds)
    (hright : List.Forall₂ right seconds thirds) : List.Forall₂ both firsts thirds := by
  induction hleft generalizing thirds with
  | nil =>
    cases hright
    exact .nil
  | cons hhead _ ih =>
    cases hright with
    | cons hnext hrest => exact .cons (htrans _ _ _ hhead hnext) (ih hrest)

lemma forall₂_mem_right (hlists : List.Forall₂ relation firsts seconds) {second : Second}
    (hmem : second ∈ seconds) : ∃ first ∈ firsts, relation first second := by
  induction hlists with
  | nil => nomatch hmem
  | cons hhead _ ih =>
    rcases List.mem_cons.mp hmem with heq | hlater
    · rw [heq]
      exact ⟨_, List.mem_cons_self, hhead⟩
    · obtain ⟨first, hfirst, hrelated⟩ := ih hlater
      exact ⟨first, List.mem_cons_of_mem _ hfirst, hrelated⟩

lemma map_eq_of_forall₂ {Item : Type*} {left : First → Item} {right : Second → Item}
    (hsame : ∀ {first second}, relation first second → left first = right second)
    (hlists : List.Forall₂ relation firsts seconds) : firsts.map left = seconds.map right := by
  induction hlists with
  | nil => rfl
  | cons hhead _ ih => rw [List.map_cons, List.map_cons, hsame hhead, ih]

lemma forall₂_filter {left : First → Bool} {right : Second → Bool}
    (hlists : List.Forall₂ relation firsts seconds)
    (hsame : ∀ first ∈ firsts, ∀ second, relation first second → left first = right second) :
    List.Forall₂ relation (firsts.filter left) (seconds.filter right) := by
  induction hlists with
  | nil => exact .nil
  | @cons first second _ _ hhead _ ih =>
    rw [List.forall_mem_cons] at hsame
    rw [List.filter_cons, List.filter_cons, ← hsame.1 second hhead]
    split
    · exact .cons hhead (ih hsame.2)
    · exact ih hsame.2

/-- Lists with the same keys are related when the items under each key are. -/
lemma forall₂_of_map_eq {Key : Type*} {left : First → Key} {right : Second → Key}
    (hkeys : firsts.map left = seconds.map right)
    (hitems : ∀ first ∈ firsts, ∀ second ∈ seconds, left first = right second →
      relation first second) : List.Forall₂ relation firsts seconds := by
  induction firsts generalizing seconds with
  | nil =>
    rw [List.map_nil, eq_comm, List.map_eq_nil_iff] at hkeys
    rw [hkeys]
    exact .nil
  | cons first _ ih =>
    cases seconds with
    | nil => nomatch hkeys
    | cons second =>
      rw [List.map_cons, List.map_cons, List.cons.injEq] at hkeys
      apply List.Forall₂.cons
      · exact hitems first List.mem_cons_self second List.mem_cons_self hkeys.1
      · apply ih hkeys.2
        intro other hother another hanother
        exact hitems other (List.mem_cons_of_mem _ hother) another
          (List.mem_cons_of_mem _ hanother)

end Fluxrig.Core
