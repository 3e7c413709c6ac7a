import Fluxrig.Core.Timeline

/-!
# Crews

A world and a list of members that act in it.  The world moves, and new members may join
it then; or one member moves, and what it does depends on the world.  `take_cases` says
where a member after a step comes from, and the invariant rules follow from it.
-/

namespace Fluxrig.Core

structure Crew (World Member : Type*) where
  world : World
  members : List Member

/-- What the world does, with the members that join it, and what a member does. -/
structure CrewRules (World Member Act Deed : Type*) where
  act : Act → Crew World Member → World × List Member
  deed : Deed → World → Member → Member

inductive CrewStep (Act Deed : Type*) where
  | act (act : Act)
  | deed (place : ℕ) (deed : Deed)
  deriving DecidableEq

variable {World Member Act Deed : Type*}

def Crew.take (rules : CrewRules World Member Act Deed) (crew : Crew World Member) :
    CrewStep Act Deed → Crew World Member
  | .act act => ⟨(rules.act act crew).1, crew.members ++ (rules.act act crew).2⟩
  | .deed place deed =>
      { crew with members := crew.members.modify place (rules.deed deed crew.world) }

variable {rules : CrewRules World Member Act Deed} {crew : Crew World Member}
  {step : CrewStep Act Deed} {place : ℕ}

/-- A member was there before, has just joined, or has just moved. -/
lemma Crew.take_cases {after : Member}
    (hafter : (crew.take rules step).members[place]? = some after) :
    crew.members[place]? = some after ∨
    (∃ act, step = .act act ∧ after ∈ (rules.act act crew).2) ∨
    ∃ deed member, step = .deed place deed ∧ crew.members[place]? = some member ∧
      after = rules.deed deed crew.world member := by
  cases step with
  | act act =>
    rw [Crew.take, List.getElem?_append] at hafter
    split at hafter
    · exact Or.inl hafter
    · exact Or.inr (Or.inl ⟨act, rfl, List.mem_of_getElem? hafter⟩)
  | deed moving deed =>
    rw [Crew.take, List.getElem?_modify] at hafter
    obtain ⟨member, hmember, hmoved⟩ := Option.map_eq_some_iff.mp hafter
    by_cases hplace : moving = place
    · subst hplace
      rw [if_pos rfl] at hmoved
      exact Or.inr (Or.inr ⟨deed, member, rfl, hmember, hmoved.symm⟩)
    · rw [if_neg hplace] at hmoved
      exact Or.inl (hmoved ▸ hmember)

/-- What holds for the member at one place, if there is one, holds there after a step. -/
lemma Crew.member_take (holds : World → Member → Prop)
    (hbefore : ∀ member, crew.members[place]? = some member → holds crew.world member)
    (hworld : ∀ act member, step = .act act → crew.members[place]? = some member →
      holds crew.world member → holds (rules.act act crew).1 member)
    (hjoins : ∀ act, step = .act act → ∀ member ∈ (rules.act act crew).2,
      holds (rules.act act crew).1 member)
    (hmoves : ∀ deed member, step = .deed place deed → crew.members[place]? = some member →
      holds crew.world member → holds crew.world (rules.deed deed crew.world member))
    {after : Member} (hafter : (crew.take rules step).members[place]? = some after) :
    holds (crew.take rules step).world after := by
  rcases Crew.take_cases hafter with hold | ⟨act, rfl, hnew⟩ | ⟨deed, member, rfl, hmember, rfl⟩
  · cases step with
    | act act => exact hworld act after rfl hold (hbefore after hold)
    | deed => exact hbefore after hold
  · exact hjoins act rfl after hnew
  · exact hmoves deed member rfl hmember (hbefore member hmember)

/-- What holds for every member holds for every member after a step. -/
lemma Crew.all_take (holds : World → Member → Prop)
    (hall : ∀ member ∈ crew.members, holds crew.world member)
    (hworld : ∀ act, step = .act act → ∀ member ∈ crew.members, holds crew.world member →
      holds (rules.act act crew).1 member)
    (hjoins : ∀ act, step = .act act → ∀ member ∈ (rules.act act crew).2,
      holds (rules.act act crew).1 member)
    (hmoves : ∀ place deed member, step = .deed place deed →
      crew.members[place]? = some member → holds crew.world member →
      holds crew.world (rules.deed deed crew.world member)) :
    ∀ member ∈ (crew.take rules step).members, holds (crew.take rules step).world member := by
  intro after hafter
  obtain ⟨place, hplace⟩ := List.mem_iff_getElem?.mp hafter
  exact Crew.member_take holds (fun member hmember => hall member (List.mem_of_getElem? hmember))
    (fun act member hact hmember => hworld act hact member (List.mem_of_getElem? hmember))
    hjoins (hmoves place) hplace

end Fluxrig.Core
