import Fluxrig.Registry.Scenario

/-!
# Scenarios on the Mixer

The Mixer's controller works with scenarios whose gears, ports and wires carry the
identities they are registered under.  A push goes to the Racks that a scenario lists, to
those its gears are pinned to and, if it has a gear without a target, to every Rack that
is active.
-/

namespace Fluxrig.Controller

open Message
open Registry (Deploy RackTarget)

/-- A gear with its identity and those of its ports; the nil identity is zero. -/
structure GearSpec extends Registry.GearSpec where
  id : BitVec 128
  ports : List (Text × BitVec 128)

structure WireSpec extends Registry.WireSpec where
  id : BitVec 128

structure Scenario where
  name : Text
  version : Text
  racks : List RackTarget
  gears : List GearSpec
  wires : List WireSpec

/-- The name in use, with a fallback for a scenario without one. -/
def Scenario.givenName (sc : Scenario) : Text :=
  if sc.name = [] then utf8 "scenario-" ++ sc.version else sc.name

/-- `g.Deploy.(string)`. -/
def GearSpec.deployName (gear : GearSpec) : Option Text :=
  match gear.deploy with
  | .target name => some name
  | _ => none

/-- Some gear has no deploy target, and so runs on every Rack. -/
def hasGlobalGear (sc : Scenario) : Bool :=
  sc.gears.any fun gear =>
    match gear.deploy with
    | .absent => true
    | .target name => name = []
    | .other => false

/-- The closure `add` of `pushScenarioToRacks`. -/
def addTarget (targets : List Text) (name : Text) : List Text :=
  if name = [] ∨ name ∈ targets then targets else targets ++ [name]

/-- The Racks a push goes to.  `listed` are the names of the active Racks, none of them
if there is no directory or it cannot be read. -/
def pushTargets (sc : Scenario) (listed : List Text) (specificRack : Text) : List Text :=
  if specificRack ≠ [] then [specificRack]
  else
    let declared := (sc.racks.map (·.name)).foldl addTarget []
    let pinned := (sc.gears.filterMap (·.deployName)).foldl addTarget declared
    if hasGlobalGear sc then listed.foldl addTarget pinned else pinned

/-- The active scenario with its encoding, the bytes that every push sends. -/
structure Active where
  scenario : Scenario
  content : Text

end Fluxrig.Controller
