import Fluxrig.Controller.Scenario
import Fluxrig.Message.Cuts

/-!
# The rows of a scenario

The Mixer keeps a table of entities.  `registerScenarioEntities` writes one row for the
scenario, two ports and one gear for each gear, and one row for each wire, and fills in
the identities that the scenario does not carry yet.  Only the row of the scenario and the
look-up of its Racks can make it fail; the other errors are logged.
-/

namespace Fluxrig.Controller

open Message
open Registry (RackTarget configText)

inductive EntityType where
  | gear
  | portInput
  | portOutput
  | wire
  | scenario
  | other (id : ℕ)
  deriving DecidableEq

/-- The types that `ClearScenarioEntities` deletes. -/
def EntityType.ofScenario : EntityType → Bool
  | .other _ => false
  | _ => true

inductive Attributes where
  | scenario (gearCount wireCount : ℕ)
  | gear (type mode bind connect : Text) (scenarioID : BitVec 128)
      (ports : List (Text × BitVec 128))
  | port (gearID : BitVec 128)
  | wire (fromID toID scenarioID : BitVec 128)
  | other
  deriving DecidableEq

/-- A row of the table `registry`. -/
structure Row where
  entityID : BitVec 128
  type : EntityType
  machineID : BitVec 128
  mixerID : BitVec 128
  name : Text
  version : Text
  attributes : Attributes
  deriving DecidableEq

/-- `ClearScenarioEntities`. -/
def clearScenarioEntities (table : List Row) : List Row :=
  table.filter fun row => !row.type.ofScenario

/-- The transaction of a `Register` method: it replaces the rows of the same name and
type. -/
def putRow (row : Row) (table : List Row) : List Row :=
  table.filter (fun old => ¬ (old.name = row.name ∧ old.type = row.type)) ++ [row]

/-- The store operations of one activation, with the place of the Rack, gear or wire they
are for. -/
inductive Operation where
  | getScenario
  | getActive
  | listRacks
  | clearScenarioEntities
  | registerScenario
  | waitForRack (place : ℕ)
  | getEntityIDByName (place : ℕ) (type : EntityType)
  | registerPort (place : ℕ) (type : EntityType)
  | registerGear (place : ℕ)
  | registerWire (place : ℕ)
  | setActive
  deriving DecidableEq

/-- What an activation meets: the operations that fail, with their errors, the Racks the
directory lists, the machine of each Rack it finds, the identities the generator mints, the
Racks the push reaches, and whether a `SetActive` that fails has moved the pointer all the
same, because only its answer was lost. -/
structure Answers where
  error : Operation → Option Text
  activeRacks : List Text
  machineID : ℕ → BitVec 128
  nextEntityID : EntityType → ℕ → BitVec 128
  listed : List Text
  reaches : Text → Bool
  answerLost : Bool

/-- The table while a scenario is registered, and how many identities were minted. -/
structure Registration where
  table : List Row
  minted : ℕ

variable (reg : Registration) (answers : Answers)

/-- `NextEntityID`. -/
def Registration.nextEntityID (type : EntityType) : BitVec 128 × Registration :=
  (answers.nextEntityID type reg.minted,
    { reg with minted := reg.minted + 1 })

/-- The identity the scenario carries, else the one registered under the name, else a new
one. -/
def Registration.identify (place : ℕ) (type : EntityType) (carried : BitVec 128) (name : Text) :
    BitVec 128 × Registration :=
  if carried ≠ 0 then (carried, reg)
  else
    match answers.error (.getEntityIDByName place type),
      reg.table.find? fun row => row.name = name with
    | none, some row => (row.entityID, reg)
    | _, _ => reg.nextEntityID answers type

/-- A registration whose error is only logged. -/
def Registration.write (operation : Operation) (row : Row) : Registration :=
  match answers.error operation with
  | some _ => reg
  | none => { reg with table := putRow row reg.table }

/-- The machine of the Rack the gear is pinned to; the last entry of a Rack comes first
in `machines`. -/
def machineOf (machines : List (Text × BitVec 128)) (gear : GearSpec) : BitVec 128 :=
  match gear.deployName with
  | some target => (machines.lookup target).getD 0
  | none => 0

section

variable (answers : Answers) (mixerID scenarioID : BitVec 128)
  (machines : List (Text × BitVec 128))

/-- The ports and the row of one gear. -/
def registerGear (place : ℕ) (gear : GearSpec) (reg : Registration) : GearSpec × Registration :=
  let (gearID, named) := reg.identify answers place .gear gear.id gear.name
  let machineID := machineOf machines gear
  let inName := gear.name ++ utf8 ".in"
  let (inID, withIn) := named.identify answers place .portInput
    ((gear.ports.lookup (utf8 "in")).getD 0) inName
  let inWritten := withIn.write answers (.registerPort place .portInput)
    ⟨inID, .portInput, machineID, mixerID, inName, [], .port gearID⟩
  let outName := gear.name ++ utf8 ".out"
  let (outID, withOut) := inWritten.identify answers place .portOutput
    ((gear.ports.lookup (utf8 "out")).getD 0) outName
  let outWritten := withOut.write answers (.registerPort place .portOutput)
    ⟨outID, .portOutput, machineID, mixerID, outName, [], .port gearID⟩
  let ports := [(utf8 "in", inID), (utf8 "out", outID)]
  let written := outWritten.write answers (.registerGear place)
    ⟨gearID, .gear, machineID, mixerID, gear.name, [],
      .gear gear.type (configText gear.config (utf8 "mode"))
        (configText gear.config (utf8 "bind")) (configText gear.config (utf8 "connect"))
        scenarioID ports⟩
  ({ gear with id := gearID, ports := ports }, written)

def registerGears (place : ℕ) : List GearSpec → Registration → List GearSpec × Registration
  | [], reg => ([], reg)
  | gear :: gears, reg =>
      let (registered, next) :=
        registerGear answers mixerID scenarioID machines place gear reg
      let (rest, last) := registerGears (place + 1) gears next
      (registered :: rest, last)

/-- The closure `resolvePortID`.  Of two gears of one name the later one counts. -/
def resolvePortID (gears : List GearSpec) (endpoint : Text) : BitVec 128 :=
  match cutLast 46 endpoint with
  | none => 0
  | some (gearName, port) =>
      match gears.reverse.find? fun gear => gear.name = gearName with
      | some gear => (gear.ports.lookup port).getD 0
      | none => 0

/-- The machine of the first gear with the name of the wire's source. -/
def sourceMachine (gears : List GearSpec) (source : Text) : BitVec 128 :=
  let gearName := ((cutLast 46 source).map Prod.fst).getD source
  match gears.find? fun gear => gear.name = gearName with
  | some gear => machineOf machines gear
  | none => 0

def registerWire (gears : List GearSpec) (place : ℕ) (wire : WireSpec)
    (reg : Registration) : WireSpec × Registration :=
  let (wireID, named) :=
    if wire.id ≠ 0 then (wire.id, reg) else reg.nextEntityID answers .wire
  let written := named.write answers (.registerWire place)
    ⟨wireID, .wire, sourceMachine machines gears wire.fromRef, mixerID,
      wire.fromRef ++ utf8 "->" ++ wire.toRef, [],
      .wire (resolvePortID gears wire.fromRef) (resolvePortID gears wire.toRef) scenarioID⟩
  ({ wire with id := wireID }, written)

def registerWires (gears : List GearSpec) (place : ℕ) :
    List WireSpec → Registration → List WireSpec × Registration
  | [], reg => ([], reg)
  | wire :: wires, reg =>
      let (registered, next) :=
        registerWire answers mixerID scenarioID machines gears place wire reg
      let (rest, last) := registerWires gears (place + 1) wires next
      (registered :: rest, last)

/-- The machines of the Racks the scenario names.  A Mixer that restores its scenario
leaves out a Rack it does not find. -/
def resolveRacks (restoring : Bool) (place : ℕ) :
    List RackTarget → List (Text × BitVec 128) → Except Text (List (Text × BitVec 128))
  | [], found => .ok found
  | rack :: racks, found =>
      if rack.name = [] then resolveRacks restoring (place + 1) racks found
      else
        match answers.error (.waitForRack place) with
        | none =>
            resolveRacks restoring (place + 1) racks
              ((rack.name, answers.machineID place) :: found)
        | some failure =>
            if restoring then resolveRacks restoring (place + 1) racks found
            else .error (utf8 "failed to register scenario: rack " ++ rack.name ++
              utf8 " not found: " ++ failure)

/-- The row of the scenario itself. -/
def scenarioRow (scenario : Scenario) : Row :=
  ⟨scenarioID, .scenario, 0, mixerID, scenario.givenName, scenario.version,
    .scenario scenario.gears.length scenario.wires.length⟩

/-- `registerScenarioEntities`: the table as it is left, and the scenario with its
identities unless it fails. -/
def registerScenarioEntities (restoring : Bool) (scenario : Scenario) (table : List Row) :
    List Row × Except Text Scenario :=
  let (scenarioID, started) := (Registration.mk table 0).nextEntityID answers .scenario
  match answers.error .registerScenario with
  | some failure => (started.table, .error (utf8 "failed to register scenario: " ++ failure))
  | none =>
      let begun : Registration := { started with
        table := putRow (scenarioRow mixerID scenarioID scenario) started.table }
      match resolveRacks answers restoring 0 scenario.racks [] with
      | .error failure => (begun.table, .error failure)
      | .ok machines =>
          let (gears, withGears) :=
            registerGears answers mixerID scenarioID machines 0 scenario.gears begun
          let (wires, withWires) :=
            registerWires answers mixerID scenarioID machines gears 0 scenario.wires withGears
          (withWires.table, .ok { scenario with gears := gears, wires := wires })

end

/-- The rows of scenarios stay. -/
def KeepsScenarios (before after : List Row) : Prop :=
  ∀ row ∈ before, row.type = .scenario → row ∈ after

lemma KeepsScenarios.refl (table : List Row) : KeepsScenarios table table := fun _ hrow _ => hrow

lemma KeepsScenarios.trans {first second third : List Row}
    (hfirst : KeepsScenarios first second) (hsecond : KeepsScenarios second third) :
    KeepsScenarios first third :=
  fun row hrow htype => hsecond row (hfirst row hrow htype) htype

section

variable {answers : Answers} {mixerID scenarioID : BitVec 128}
  {machines : List (Text × BitVec 128)}

lemma mem_putRow (row : Row) (table : List Row) : row ∈ putRow row table := by
  rw [putRow, List.mem_append]
  exact Or.inr (List.mem_singleton_self row)

lemma putRow_keeps {row : Row} (htype : row.type ≠ .scenario) (table : List Row) :
    KeepsScenarios table (putRow row table) := by
  intro old hold hscenario
  rw [putRow, List.mem_append, List.mem_filter]
  refine Or.inl ⟨hold, decide_eq_true ?_⟩
  intro hsame
  exact htype (hsame.2.symm.trans hscenario)

lemma identify_table (reg : Registration) (place : ℕ) (type : EntityType)
    (carried : BitVec 128) (name : Text) :
    (reg.identify answers place type carried name).2.table = reg.table := by
  rw [Registration.identify]
  split
  · rfl
  · split <;> rfl

lemma KeepsScenarios.write {before : List Row} {reg : Registration}
    {operation : Operation} {row : Row} (hkeeps : KeepsScenarios before reg.table)
    (htype : row.type ≠ .scenario) :
    KeepsScenarios before (reg.write answers operation row).table := by
  rw [Registration.write]
  cases answers.error operation with
  | some => exact hkeeps
  | none => exact hkeeps.trans (putRow_keeps htype reg.table)

lemma registerGear_keeps (place : ℕ) (gear : GearSpec) (reg : Registration) :
    KeepsScenarios reg.table
      (registerGear answers mixerID scenarioID machines place gear reg).2.table := by
  simp only [registerGear]
  -- the three writes from the last to the first, with the look-ups between them
  refine KeepsScenarios.write ?_ nofun
  refine KeepsScenarios.write ?_ nofun
  rw [identify_table]
  refine KeepsScenarios.write ?_ nofun
  rw [identify_table, identify_table]
  exact .refl _

lemma registerGears_keeps (place : ℕ) (gears : List GearSpec) (reg : Registration) :
    KeepsScenarios reg.table
      (registerGears answers mixerID scenarioID machines place gears reg).2.table := by
  induction gears generalizing place reg with
  | nil => exact .refl _
  | cons gear _ ih =>
    exact (registerGear_keeps place gear reg).trans (ih (place + 1) _)

lemma registerWire_keeps (gears : List GearSpec) (place : ℕ) (wire : WireSpec)
    (reg : Registration) :
    KeepsScenarios reg.table (registerWire answers mixerID scenarioID machines gears place wire
        reg).2.table := by
  simp only [registerWire]
  refine KeepsScenarios.write ?_ nofun
  split
  · exact .refl _
  · exact .refl _

lemma registerWires_keeps (gears : List GearSpec) (place : ℕ) (wires : List WireSpec)
    (reg : Registration) :
    KeepsScenarios reg.table (registerWires answers mixerID scenarioID machines gears place wires
        reg).2.table := by
  induction wires generalizing place reg with
  | nil => exact .refl _
  | cons wire _ ih =>
    exact (registerWire_keeps gears place wire reg).trans (ih (place + 1) _)

variable {restoring : Bool} {scenario : Scenario} {table : List Row}

/-- A registration that cannot write the row of the scenario writes nothing. -/
lemma registerScenarioEntities_of_error {failure : Text}
    (herror : answers.error .registerScenario = some failure) :
    registerScenarioEntities answers mixerID restoring scenario table =
      (table, .error (utf8 "failed to register scenario: " ++ failure)) := by
  simp only [registerScenarioEntities, herror, Registration.nextEntityID]

/-- Any other leaves a row with the identity it minted for the scenario, whether it ends
with an error or not. -/
lemma registerScenarioEntities_leaves (herror : answers.error .registerScenario = none) :
    ∃ row ∈ (registerScenarioEntities answers mixerID restoring scenario table).1,
      row.entityID = answers.nextEntityID .scenario 0 := by
  let row := scenarioRow mixerID (answers.nextEntityID .scenario 0) scenario
  have hrow : row ∈ putRow row table := mem_putRow row table
  refine ⟨row, ?_, rfl⟩
  simp only [registerScenarioEntities, herror, Registration.nextEntityID]
  cases resolveRacks answers restoring 0 scenario.racks [] with
  | error => exact hrow
  | ok =>
    apply registerWires_keeps _ 0 scenario.wires _ row _ rfl
    exact registerGears_keeps 0 scenario.gears _ row hrow rfl

end

end Fluxrig.Controller
