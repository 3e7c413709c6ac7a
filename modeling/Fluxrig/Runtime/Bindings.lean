import Fluxrig.Core.Walk
import Fluxrig.Registry.Scenario

/-!
# Port bindings

`computeBindings` follows the wires of each output port downstream until an I/O
gear, another Rack or a dead end.  It looks the default output of a gear up by the
text of its endpoint.
-/

namespace Fluxrig.Runtime

open Fluxrig.Core Message Registry

/-- How the walk treats a gear type.  `transparent` also stands for a kind it does
not know, `closed` for `TerminusOpaque`. -/
inductive TerminusKind where
  | transparent
  | io
  | closed
  deriving DecidableEq

inductive PortBinding where
  | unbound
  | io (gear : Text)
  | remote (gear : Text)
  deriving DecidableEq

def maxWalkDepth : ℕ := 32

/-- `specs[gear]`: a later gear of the same name replaces an earlier one. -/
def specOf (sc : Scenario) (gear : Text) : Option GearSpec :=
  sc.gears.reverse.find? fun spec => spec.name = gear

/-- The targets of the wires from an endpoint, by its exact text. -/
def wiresFrom (sc : Scenario) (ref : Text) : List Text :=
  (sc.wires.filter fun wire => wire.fromRef = ref).map WireSpec.toRef

/-- A gear that names no Rack runs here. -/
def rackOf (gearDeploy : List (Text × Text)) (rackName gear : Text) : Text :=
  if deployed gearDeploy gear = [] then rackName else deployed gearDeploy gear

def outPort : Text := utf8 "out"

section

variable (sc : Scenario) (rackName : Text) (terminusOf : Text → TerminusKind)

/-- `walk`, with the number of gears it may still look at instead of the depth. -/
def walk : ℕ → Text → PortBinding
  | 0, _ => .unbound
  | left + 1, toRef =>
      let gear := (splitPortRef toRef).gear
      match specOf sc gear with
      | none => .unbound
      | some spec =>
          if rackOf sc.deployMap rackName gear ≠ rackName then .remote gear
          else match terminusOf spec.type with
            | .io => .io gear
            | .closed => .unbound
            | .transparent =>
                match wiresFrom sc (gear ++ 46 :: outPort) with
                | [ref] => walk left ref
                | _ => .unbound

/-- The wire starts at a named output port of a gear of this Rack. -/
def boundHere (wire : WireSpec) : Prop :=
  wire.source.port ≠ [] ∧ outPort <+: wire.source.port ∧
    rackOf sc.deployMap rackName wire.source.gear = rackName

instance (wire : WireSpec) : Decidable (boundHere sc rackName wire) :=
  inferInstanceAs (Decidable (_ ∧ _))

/-- Enter one wire: a port that has a binding already is wired to several inputs. -/
def bindWire (out : List ((Text × Text) × PortBinding)) (wire : WireSpec) :
    List ((Text × Text) × PortBinding) :=
  if boundHere sc rackName wire then
    match out.lookup (wire.source.gear, wire.source.port) with
    | some _ => putField (wire.source.gear, wire.source.port) .unbound out
    | none => putField (wire.source.gear, wire.source.port)
        (walk sc rackName terminusOf (maxWalkDepth + 1) wire.toRef) out
  else out

/-- The binding of each bound output port, by gear and port. -/
def computeBindings : List ((Text × Text) × PortBinding) :=
  sc.wires.foldl (bindWire sc rackName terminusOf) []

/-- The wires of one output port that get a binding. -/
def portWires (gear port : Text) : List WireSpec :=
  sc.wires.filter fun wire => boundHere sc rackName wire ∧
    wire.source.gear = gear ∧ wire.source.port = port

/-- The binding of a port with the given wires. -/
def bindingOf : List WireSpec → Option PortBinding
  | [] => none
  | [wire] => some (walk sc rackName terminusOf (maxWalkDepth + 1) wire.toRef)
  | _ => some .unbound

end

section

variable {sc : Scenario} {rackName : Text} {terminusOf : Text → TerminusKind}

lemma lookup_bindWire (out : List ((Text × Text) × PortBinding)) (wire : WireSpec)
    (gear port : Text) :
    (bindWire sc rackName terminusOf out wire).lookup (gear, port) =
      if boundHere sc rackName wire ∧ wire.source.gear = gear ∧ wire.source.port = port then
        match out.lookup (gear, port) with
        | some _ => some .unbound
        | none => some (walk sc rackName terminusOf (maxWalkDepth + 1) wire.toRef)
      else out.lookup (gear, port) := by
  rw [bindWire]
  by_cases hbound : boundHere sc rackName wire
  · by_cases hkey : wire.source.gear = gear ∧ wire.source.port = port
    · rw [if_pos hbound, if_pos ⟨hbound, hkey⟩, hkey.1, hkey.2]
      cases out.lookup (gear, port) <;> simp only [lookup_putField, if_true]
    · have hother : (gear, port) ≠ (wire.source.gear, wire.source.port) := by
        intro heq
        rw [Prod.mk.injEq] at heq
        exact hkey ⟨heq.1.symm, heq.2.symm⟩
      rw [if_pos hbound, if_neg fun hall => hkey hall.2]
      split <;> rw [lookup_putField, if_neg hother]
  · rw [if_neg hbound, if_neg fun hall => hbound hall.1]

/-- Each port gets the binding of the list of its wires. -/
lemma lookup_computeBindings (gear port : Text) :
    (computeBindings sc rackName terminusOf).lookup (gear, port) =
      bindingOf sc rackName terminusOf (portWires sc rackName gear port) := by
  have hfold : ∀ (wires : List WireSpec) (out : List ((Text × Text) × PortBinding)) bound,
      (wires.filter fun wire => boundHere sc rackName wire ∧ wire.source.gear = gear ∧
        wire.source.port = port) = bound →
      (wires.foldl (bindWire sc rackName terminusOf) out).lookup (gear, port) =
        (out.lookup (gear, port)).elim (bindingOf sc rackName terminusOf bound)
          fun binding => if bound = [] then some binding else some .unbound := by
    intro wires
    induction wires with
    | nil =>
      rintro out _ rfl
      rw [List.foldl_nil]
      cases out.lookup (gear, port) <;> rfl
    | cons wire rest ih =>
      rintro out _ rfl
      rw [List.foldl_cons, ih _ _ rfl, lookup_bindWire, List.filter_cons]
      by_cases hwire : boundHere sc rackName wire ∧ wire.source.gear = gear ∧
          wire.source.port = port
      · simp only [if_pos hwire, decide_eq_true hwire, if_true]
        cases out.lookup (gear, port) <;>
          cases rest.filter fun wire => boundHere sc rackName wire ∧
            wire.source.gear = gear ∧ wire.source.port = port <;> rfl
      · simp only [if_neg hwire, decide_eq_false hwire, Bool.false_eq_true, if_false]
  exact hfold sc.wires [] _ rfl

/-- What the walk does at a gear. -/
def station (sc : Scenario) (rackName : Text) (terminusOf : Text → TerminusKind)
    (gear : Text) : Station PortBinding :=
  match specOf sc gear with
  | none => .ends none
  | some spec =>
      if rackOf sc.deployMap rackName gear ≠ rackName then .ends (some (.remote gear))
      else match terminusOf spec.type with
        | .io => .ends (some (.io gear))
        | .closed => .ends none
        | .transparent => .passes

/-- The element of a list of one. -/
def only {Item : Type*} : List Item → Option Item
  | [item] => some item
  | _ => none

/-- The gear behind the only wire from the endpoint `gear.out`. -/
def nextGear (sc : Scenario) (gear : Text) : Option Text :=
  only ((wiresFrom sc (gear ++ 46 :: outPort)).map fun ref => (splitPortRef ref).gear)

lemma walk_eq_follow (left : ℕ) (toRef : Text) : walk sc rackName terminusOf left toRef =
      (follow (station sc rackName terminusOf) (nextGear sc) left
        (splitPortRef toRef).gear).getD .unbound := by
  induction left generalizing toRef with
  | zero => rfl
  | succ _ ih =>
    rw [walk, follow, station]
    cases specOf sc (splitPortRef toRef).gear with
    | none => rfl
    | some spec =>
      simp only
      split
      · rfl
      · cases terminusOf spec.type with
        | io | closed => rfl
        | transparent =>
          rw [nextGear]
          rcases wiresFrom sc _ with _ | ⟨ref, _ | ⟨_, _⟩⟩
          · rfl
          · exact ih ref
          · rfl

variable {gear : Text} {binding : PortBinding}

lemma station_result_ne_unbound
    (hends : station sc rackName terminusOf gear = .ends (some binding)) :
    binding ≠ .unbound := by
  rw [station] at hends
  split at hends
  · nomatch hends
  · split at hends
    · cases hends
      exact nofun
    · split at hends
      · cases hends
        exact nofun
      · nomatch hends
      · nomatch hends

lemma Route.result_ne_unbound {edge : Text → Text → Prop} {passed : List Text}
    (hroute : Route (station sc rackName terminusOf) edge gear passed binding) :
    binding ≠ .unbound := by
  induction hroute with
  | arrive hends => exact station_result_ne_unbound hends
  | pass _ _ _ ih => exact ih

/-- A gear the walk passes through is one of the scenario. -/
lemma mem_names_of_passes (hpasses : station sc rackName terminusOf gear = .passes) :
    gear ∈ sc.gears.map GearSpec.name := by
  rw [station] at hpasses
  split at hpasses
  · nomatch hpasses
  · rename_i spec hspec
    have hmem := List.mem_of_find?_eq_some hspec
    have hname := List.find?_some hspec
    rw [List.mem_reverse] at hmem
    rw [decide_eq_true_eq] at hname
    rw [← hname]
    exact List.mem_map_of_mem hmem

end

end Fluxrig.Runtime
