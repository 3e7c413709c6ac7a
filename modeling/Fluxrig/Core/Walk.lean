import Mathlib.Tactic

/-!
# Bounded walks

A walk goes from node to node until a node ends it, with a result or without one.
`follow` takes a bounded number of steps along a partial function; `Route` is the
declarative path along any relation.
-/

namespace Fluxrig.Core

variable {Node Result : Type*}

/-- What a walk does at a node. -/
inductive Station (Result : Type*) where
  | ends (result : Option Result)
  | passes

/-- Walk along `next`, looking at fewer than `bound + 1` nodes. -/
def follow (station : Node → Station Result) (next : Node → Option Node) :
    ℕ → Node → Option Result
  | 0, _ => none
  | bound + 1, node =>
      match station node with
      | .ends result => result
      | .passes => (next node).bind (follow station next bound)

/-- A path along `edge` to a node with a result, with the nodes it passes. -/
inductive Route (station : Node → Station Result) (edge : Node → Node → Prop) :
    Node → List Node → Result → Prop where
  | arrive {node : Node} {result : Result} (hends : station node = .ends (some result)) :
      Route station edge node [] result
  | pass {node after : Node} {passed : List Node} {result : Result}
      (hpasses : station node = .passes) (hedge : edge node after)
      (hrest : Route station edge after passed result) :
      Route station edge node (node :: passed) result

section

variable {station : Node → Station Result} {edge other : Node → Node → Prop}
  {next : Node → Option Node} {node : Node} {passed : List Node} {result : Result}

/-- Only the edges out of the nodes it passes matter to a path. -/
lemma Route.mono (hroute : Route station edge node passed result)
    (hedges : ∀ here ∈ passed, ∀ after, edge here after → other here after) :
    Route station other node passed result := by
  induction hroute with
  | arrive hends => exact .arrive hends
  | pass hpasses hedge _ ih =>
    rw [List.forall_mem_cons] at hedges
    exact .pass hpasses (hedges.1 _ hedge) (ih hedges.2)

lemma Route.passes (hroute : Route station edge node passed result) :
    ∀ here ∈ passed, station here = .passes := by
  induction hroute with
  | arrive => exact nofun
  | pass hpasses _ _ ih => exact List.forall_mem_cons.mpr ⟨hpasses, ih⟩

/-- A walk that ends with a result has followed a path. -/
lemma follow_eq_some_iff {bound : ℕ} : follow station next bound node = some result ↔
      ∃ passed, Route station (fun here after => next here = some after) node passed result ∧
        passed.length < bound := by
  induction bound generalizing node with
  | zero =>
    constructor
    · exact nofun
    · intro hpath
      obtain ⟨_, _, hlt⟩ := hpath
      exact absurd hlt (Nat.not_lt_zero _)
  | succ _ ih =>
    constructor
    · intro hfollow
      rw [follow] at hfollow
      cases hstation : station node with
      | ends =>
        rw [hstation] at hfollow
        exact ⟨[], .arrive (hfollow ▸ hstation), Nat.succ_pos _⟩
      | passes =>
        rw [hstation] at hfollow
        obtain ⟨after, hafter, hrest⟩ := Option.bind_eq_some_iff.mp hfollow
        obtain ⟨passed, hroute, hlt⟩ := ih.mp hrest
        exact ⟨node :: passed, .pass hstation hafter hroute, Nat.succ_lt_succ hlt⟩
    · intro hpath
      obtain ⟨passed, hroute, hlt⟩ := hpath
      rw [follow]
      cases hroute with
      | arrive hends => rw [hends]
      | pass hpasses hedge hrest =>
        rw [hpasses]
        exact Option.bind_eq_some_iff.mpr
          ⟨_, hedge, ih.mpr ⟨_, hrest, Nat.lt_of_succ_lt_succ hlt⟩⟩

/-- Along a function there is one path. -/
lemma Route.unique {first second : List Node} {left right : Result}
    (hfirst : Route station (fun here after => next here = some after) node first left)
    (hsecond : Route station (fun here after => next here = some after) node second right) :
    first = second := by
  induction hfirst generalizing second with
  | arrive hends =>
    cases hsecond with
    | arrive => rfl
    | pass hpasses => nomatch hends.symm.trans hpasses
  | pass hpasses hedge _ ih =>
    cases hsecond with
    | arrive hends => nomatch hends.symm.trans hpasses
    | pass _ hother hrest =>
      rw [hedge, Option.some.injEq] at hother
      subst hother
      rw [ih hrest]

/-- A path goes on from each node it passes. -/
lemma Route.tail (hroute : Route station edge node passed result) {here : Node}
    (hmem : here ∈ passed) :
    ∃ rest, Route station edge here rest result ∧ rest.length ≤ passed.length := by
  induction hroute with
  | arrive => nomatch hmem
  | pass hpasses hedge hrest ih =>
    rcases List.mem_cons.mp hmem with hhead | hlater
    · rw [hhead]
      exact ⟨_, .pass hpasses hedge hrest, Nat.le_refl _⟩
    · obtain ⟨rest, htail, hle⟩ := ih hlater
      exact ⟨rest, htail, Nat.le_succ_of_le hle⟩

/-- Along a function a path that arrives passes no node twice. -/
lemma Route.nodup
    (hroute : Route station (fun here after => next here = some after) node passed result) :
    passed.Nodup := by
  induction hroute with
  | arrive => exact List.nodup_nil
  | pass hpasses hedge hrest ih =>
    rw [List.nodup_cons]
    refine ⟨?_, ih⟩
    intro hmem
    obtain ⟨rest, htail, hle⟩ := hrest.tail hmem
    have hsame := congrArg List.length (htail.unique (.pass hpasses hedge hrest))
    rw [List.length_cons] at hsame
    omega

/-- A walk that loses the edge out of a node it passes does not arrive. -/
lemma Route.follow_cut {cut : Node → Option Node} {here : Node}
    (hroute : Route station (fun before after => next before = some after) node passed result)
    (hmem : here ∈ passed) (hcut : cut here = none)
    (hsame : ∀ before ∈ passed, before ≠ here → cut before = next before) (bound : ℕ) :
    follow station cut bound node = none := by
  induction hroute generalizing bound with
  | arrive => nomatch hmem
  | @pass node after passed result hpasses hedge _ ih =>
    cases bound with
    | zero => rfl
    | succ bound =>
      rw [follow, hpasses]
      by_cases hhere : node = here
      · rw [hhere, hcut]
        rfl
      · rw [hsame node List.mem_cons_self hhere, hedge]
        have hlater : here ∈ passed :=
          (List.mem_cons.mp hmem).resolve_left fun heq => hhere heq.symm
        exact ih hlater (fun before hbefore => hsame before (List.mem_cons_of_mem _ hbefore))
          bound

end

end Fluxrig.Core
