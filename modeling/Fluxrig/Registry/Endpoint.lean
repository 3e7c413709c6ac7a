import Fluxrig.Registry.Scenario

/-!
# Endpoints and their texts

An accepted endpoint is determined by its Rack, gear and port, and every such
triple of names can be written down.
-/

namespace Fluxrig.Registry

open Fluxrig.Core Message

/-- `gear.port`, or `rack.gear.port` when a Rack is named. -/
def PortRef.render (ref : PortRef) : Text :=
  [46].intercalate (if ref.rack = [] then [ref.gear, ref.port]
    else [ref.rack, ref.gear, ref.port])

/-- The parts of an accepted endpoint are names; the Rack may be left out. -/
structure PortRef.Valid (ref : PortRef) : Prop where
  rack : ref.rack = [] ∨ isValidName ref.rack = true
  gear : isValidName ref.gear = true
  port : isValidName ref.port = true

lemma isValidName_ne_nil {name : Text} (hvalid : isValidName name = true) : name ≠ [] := by
  intro hnil
  rw [hnil] at hvalid
  exact absurd hvalid Bool.false_ne_true

lemma dot_notMem_of_isValidName {name : Text} (hvalid : isValidName name = true) : 46 ∉ name := by
  intro hdot
  rw [isValidName, Bool.and_eq_true, List.all_eq_true] at hvalid
  exact absurd (hvalid.2 46 hdot) (by decide)

/-- An accepted text has valid parts, and they are all of it. -/
lemma splitPortRef_valid {text : Text} (hvalid : isValidPortRef text = true) :
    (splitPortRef text).Valid ∧ (splitPortRef text).render = text := by
  have htext : [46].intercalate (splitDots text) = text := List.intercalate_splitOn 46
  rw [isValidPortRef] at hvalid
  split at hvalid
  · rename_i gear port hparts
    rw [Bool.and_eq_true] at hvalid
    have hsplit : splitPortRef text = ⟨[], gear, port⟩ := by rw [splitPortRef, hparts]
    rw [hparts] at htext
    rw [hsplit]
    exact ⟨⟨Or.inl rfl, hvalid.1, hvalid.2⟩, htext⟩
  · rename_i rack gear port hparts
    rw [Bool.and_eq_true, Bool.and_eq_true] at hvalid
    have hsplit : splitPortRef text = ⟨rack, gear, port⟩ := by rw [splitPortRef, hparts]
    rw [hparts] at htext
    rw [hsplit, PortRef.render, if_neg (isValidName_ne_nil hvalid.1.1)]
    exact ⟨⟨Or.inr hvalid.1.1, hvalid.1.2, hvalid.2⟩, htext⟩
  · exact absurd hvalid Bool.false_ne_true

/-- What is written down from valid parts is accepted and read back. -/
lemma splitPortRef_render {ref : PortRef} (hvalid : ref.Valid) :
    splitPortRef ref.render = ref ∧ isValidPortRef ref.render = true := by
  obtain ⟨rack, gear, port⟩ := ref
  have hgear := dot_notMem_of_isValidName hvalid.gear
  have hport := dot_notMem_of_isValidName hvalid.port
  rcases hvalid.rack with hnone | hrack
  · rw [show rack = [] from hnone]
    have hparts : splitDots ([46].intercalate [gear, port]) = [gear, port] := by
      apply List.splitOn_intercalate
      · simp only [List.forall_mem_cons, List.not_mem_nil, false_implies, implies_true, and_true]
        exact ⟨hgear, hport⟩
      · exact List.cons_ne_nil _ _
    rw [PortRef.render, if_pos rfl, splitPortRef, isValidPortRef, hparts]
    exact ⟨rfl, by rw [Bool.and_eq_true]; exact ⟨hvalid.gear, hvalid.port⟩⟩
  · have hdot := dot_notMem_of_isValidName hrack
    have hparts : splitDots ([46].intercalate [rack, gear, port]) = [rack, gear, port] := by
      apply List.splitOn_intercalate
      · simp only [List.forall_mem_cons, List.not_mem_nil, false_implies, implies_true, and_true]
        exact ⟨hdot, hgear, hport⟩
      · exact List.cons_ne_nil _ _
    rw [PortRef.render, if_neg (isValidName_ne_nil hrack), splitPortRef, isValidPortRef, hparts]
    refine ⟨rfl, ?_⟩
    simp only [Bool.and_eq_true]
    exact ⟨⟨hrack, hvalid.gear⟩, hvalid.port⟩

/-- Accepted texts with the same parts are the same. -/
lemma eq_render_iff {text : Text} (htext : isValidPortRef text = true) {ref : PortRef}
    (href : ref.Valid) : text = ref.render ↔ splitPortRef text = ref := by
  constructor
  · intro heq
    rw [heq]
    exact (splitPortRef_render href).1
  · intro heq
    rw [← heq]
    exact (splitPortRef_valid htext).2.symm

end Fluxrig.Registry
