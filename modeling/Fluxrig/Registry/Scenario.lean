import Fluxrig.Core.Checks
import Fluxrig.Message.FluxMsg

/-!
# Scenarios and their validation

A scenario lists Rack targets, gears and wires.  `Scenario.validate` checks it in
the order of the source; what it accepts satisfies `Scenario.Valid`.
-/

namespace Fluxrig.Registry

open Fluxrig.Core Message

/-- The `deploy` entry of a gear: nothing, a Rack or group, or a value of another
type, which the source ignores. -/
inductive Deploy where
  | absent
  | target (name : Text)
  | other
  deriving DecidableEq

/-- A place gears can run on.  A nil `match` and one without labels are the same. -/
structure RackTarget where
  name : Text
  group : Text
  matchLabels : List (Text × Text)
  defaults : Option (List (Text × Value))

structure GearSpec where
  name : Text
  type : Text
  deploy : Deploy
  config : List (Text × Value)

structure WireSpec where
  fromRef : Text
  toRef : Text
  lane : Text
  deriving DecidableEq

structure Scenario where
  version : Text
  racks : List RackTarget
  gears : List GearSpec
  wires : List WireSpec

def laneHot : Text := utf8 "hot"
def laneGuaranteed : Text := utf8 "guaranteed"

/-- `target, _ := g.Deploy.(string)`. -/
def GearSpec.target (gear : GearSpec) : Text :=
  match gear.deploy with
  | .target name => name
  | _ => []

/-- An endpoint split at its dots; `rack` is empty for `gear.port`. -/
structure PortRef where
  rack : Text
  gear : Text
  port : Text
  deriving DecidableEq

def splitPortRef (ref : Text) : PortRef :=
  match splitDots ref with
  | [gear, port] => ⟨[], gear, port⟩
  | [rack, gear, port] => ⟨rack, gear, port⟩
  | gear :: rest => ⟨[], gear, [46].intercalate rest⟩
  -- `strings.Split` never returns an empty list
  | [] => ⟨[], [], []⟩

/-- The class `[a-z0-9_-]`. -/
def isNameByte (byte : UInt8) : Bool :=
  (97 ≤ byte && byte ≤ 122) || (48 ≤ byte && byte ≤ 57) || byte = 95 || byte = 45

def isValidName (name : Text) : Bool := !name.isEmpty && name.all isNameByte

/-- Two or three names with a dot between them. -/
def isValidPortRef (ref : Text) : Bool :=
  match splitDots ref with
  | [gear, port] => isValidName gear && isValidName port
  | [rack, gear, port] => isValidName rack && isValidName gear && isValidName port
  | _ => false

def firstNonEmpty (values : List Text) : Text :=
  (values.find? fun value => value ≠ []).getD []

/-- `cfg[key].(string)`. -/
def configText (config : List (Text × Value)) (key : Text) : Text :=
  match config.lookup key with
  | some (.text content) => content
  | _ => []

/-- The ports a gear declares in its configuration. -/
structure PortDecl where
  inputs : List Text
  outputs : List Text

/-- The non-empty strings of the list under `key`, in either shape of map. -/
def collectPorts (ports : Value) (key : Text) : List Text :=
  match ports.child key with
  | some (.list items) =>
      items.filterMap fun item =>
        match item with
        | .text name => if name = [] then none else some name
        | _ => none
  | _ => []

def portsFromConfig (config : List (Text × Value)) : Option PortDecl :=
  match config.lookup (utf8 "ports") with
  | none => none
  | some ports =>
      let inputs := collectPorts ports (utf8 "inputs")
      let outputs := collectPorts ports (utf8 "outputs")
      if inputs = [] ∧ outputs = [] then none else some ⟨inputs, outputs⟩

/-- `strings.Cut` at the first dot: what follows it, or all of the text. -/
def afterDot (ref : Text) : Text :=
  match ref.dropWhile fun byte => byte ≠ 46 with
  | [] => ref
  | _ :: rest => rest

/-- The gear an entry of `ports.events` reads, without its Rack. -/
def eventSource : Value → Option Text
  | .object entry =>
      let ref := match entry.lookup (utf8 "gear") with
        | some (.text ref) => ref
        | _ => []
      if afterDot ref = [] then none else some (afterDot ref)
  | _ => none

def eventSources (config : List (Text × Value)) : List Text :=
  match config.lookup (utf8 "ports") with
  | some (.object ports) =>
      match ports.lookup (utf8 "events") with
      | some (.list entries) => entries.filterMap eventSource
      | _ => []
  | _ => []

/-- Why a scenario is refused, with what the message names. -/
inductive ScenarioErr where
  | versionRequired
  | invalidRackName (name : Text)
  | duplicateRackName (name : Text)
  | invalidGroupName (name : Text)
  | duplicateGroupName (name : Text)
  | groupWithoutLabels (name : Text)
  | emptyRackEntry (index : ℕ)
  | gearNameRequired
  | invalidGearName (name : Text)
  | duplicateGearName (name : Text)
  | gearTypeRequired (name : Text)
  | unknownDeployTarget (name target : Text)
  | unknownEventSource (name source : Text)
  | missingEndpoints (index : ℕ)
  | invalidWireSource (ref : Text)
  | invalidWireTarget (ref : Text)
  | unknownLane (ref lane : Text)
  | hotWireLeavesRack (fromRef toRef srcRack dstRack : Text)
  | unknownSourceRack (ref rack : Text)
  | unknownTargetRack (ref rack : Text)
  | unknownSourceGear (ref gear : Text)
  | unknownTargetGear (ref gear : Text)
  | undeclaredOutput (ref gear port : Text) (declared : List Text)
  | undeclaredInput (ref gear port : Text) (declared : List Text)

/-- The names of Racks and groups seen so far. -/
structure Targets where
  rackNames : List Text
  groups : List Text

/-- Whether a name is that of a Rack or a group. -/
def Targets.defines (targets : Targets) (name : Text) : Prop :=
  name ∈ targets.rackNames ∨ name ∈ targets.groups

instance (targets : Targets) (name : Text) : Decidable (targets.defines name) :=
  inferInstanceAs (Decidable (_ ∨ _))

def checkRack (index : ℕ) (targets : Targets) (rack : RackTarget) : Except ScenarioErr Targets :=
  if rack.name ≠ [] then
    if isValidName rack.name = false then .error (.invalidRackName rack.name)
    else if rack.name ∈ targets.rackNames then .error (.duplicateRackName rack.name)
    else .ok { targets with rackNames := rack.name :: targets.rackNames }
  else if rack.group ≠ [] then
    if isValidName rack.group = false then .error (.invalidGroupName rack.group)
    else if rack.group ∈ targets.groups then .error (.duplicateGroupName rack.group)
    else if rack.matchLabels = [] then .error (.groupWithoutLabels rack.group)
    else .ok { targets with groups := rack.group :: targets.groups }
  else if rack.defaults.isNone then .error (.emptyRackEntry index)
  else .ok targets

def checkRacks (index : ℕ) (targets : Targets) : List RackTarget → Except ScenarioErr Targets
  | [] => .ok targets
  | rack :: rest => do
      let next ← checkRack index targets rack
      checkRacks (index + 1) next rest

/-- What the check of the gears collects. -/
structure GearTable where
  names : List Text
  deployTarget : List (Text × Text)
  declaredPorts : List (Text × PortDecl)

/-- Record the target of a gear that names one. -/
def pinGear (deploy : List (Text × Text)) (gear : GearSpec) : List (Text × Text) :=
  match gear.deploy with
  | .target name => putField gear.name name deploy
  | _ => deploy

def declarePorts (declared : List (Text × PortDecl)) (gear : GearSpec) : List (Text × PortDecl) :=
  match portsFromConfig gear.config with
  | some ports => putField gear.name ports declared
  | none => declared

def GearTable.add (table : GearTable) (gear : GearSpec) : GearTable where
  names := gear.name :: table.names
  deployTarget := pinGear table.deployTarget gear
  declaredPorts := declarePorts table.declaredPorts gear

/-- A string target is looked up only when the scenario lists Racks. -/
def checkDeploy (hasExplicitRacks : Bool) (targets : Targets) (gear : GearSpec) :
    Except ScenarioErr Unit :=
  match gear.deploy with
  | .target name =>
      if hasExplicitRacks = true ∧ ¬ targets.defines name then
        .error (.unknownDeployTarget gear.name name)
      else .ok ()
  | _ => .ok ()

def checkGear (hasExplicitRacks : Bool) (targets : Targets) (table : GearTable)
    (gear : GearSpec) : Except ScenarioErr GearTable :=
  if gear.name = [] then .error .gearNameRequired
  else if isValidName gear.name = false then .error (.invalidGearName gear.name)
  else if gear.name ∈ table.names then .error (.duplicateGearName gear.name)
  else if gear.type = [] then .error (.gearTypeRequired gear.name)
  else do
    checkDeploy hasExplicitRacks targets gear
    .ok (table.add gear)

def checkGears (hasExplicitRacks : Bool) (targets : Targets) (table : GearTable) :
    List GearSpec → Except ScenarioErr GearTable
  | [] => .ok table
  | gear :: rest => do
      let next ← checkGear hasExplicitRacks targets table gear
      checkGears hasExplicitRacks targets next rest

/-- Every gear that another one reads events from has to exist. -/
def checkEvents (names : List Text) : List GearSpec → Except ScenarioErr Unit
  | [] => .ok ()
  | gear :: rest =>
      match (eventSources gear.config).find? fun source => source ∉ names with
      | some source => .error (.unknownEventSource gear.name source)
      | none => checkEvents names rest

/-- `m[gear]` for a Go map of strings: the empty string when it is missing. -/
def deployed (gearDeploy : List (Text × Text)) (gear : Text) : Text :=
  (gearDeploy.lookup gear).getD []

/-- The declared ports that leave out `port`, if there are any. -/
def undeclared (declared : Option PortDecl) (ports : PortDecl → List Text) (port : Text) :
    Option (List Text) :=
  match declared with
  | none => none
  | some decl => if ports decl ≠ [] ∧ port ∉ ports decl then some (ports decl) else none

/-- The Rack an endpoint names, or else the one its gear is pinned to. -/
def PortRef.pinned (gearDeploy : List (Text × Text)) (ref : PortRef) : Text :=
  firstNonEmpty [ref.rack, deployed gearDeploy ref.gear]

def WireSpec.source (wire : WireSpec) : PortRef := splitPortRef wire.fromRef

def WireSpec.target (wire : WireSpec) : PortRef := splitPortRef wire.toRef

/-- A hot wire between two different Racks. -/
def WireSpec.leavesRack (gearDeploy : List (Text × Text)) (wire : WireSpec) : Prop :=
  wire.lane = laneHot ∧ wire.source.pinned gearDeploy ≠ [] ∧
    wire.target.pinned gearDeploy ≠ [] ∧
    wire.source.pinned gearDeploy ≠ wire.target.pinned gearDeploy

instance (gearDeploy : List (Text × Text)) (wire : WireSpec) :
    Decidable (wire.leavesRack gearDeploy) :=
  inferInstanceAs (Decidable (_ ∧ _))

def checkWire (targets : Targets) (table : GearTable) (index : ℕ) (wire : WireSpec) :
    Except ScenarioErr Unit :=
  if wire.fromRef = [] ∨ wire.toRef = [] then .error (.missingEndpoints index)
  else if isValidPortRef wire.fromRef = false then .error (.invalidWireSource wire.fromRef)
  else if isValidPortRef wire.toRef = false then .error (.invalidWireTarget wire.toRef)
  else if wire.lane ≠ [] ∧ wire.lane ≠ laneHot ∧ wire.lane ≠ laneGuaranteed then
    .error (.unknownLane wire.fromRef wire.lane)
  else if wire.leavesRack table.deployTarget then
    .error (.hotWireLeavesRack wire.fromRef wire.toRef
      (wire.source.pinned table.deployTarget) (wire.target.pinned table.deployTarget))
  else if wire.source.rack ≠ [] ∧ ¬ targets.defines wire.source.rack then
    .error (.unknownSourceRack wire.fromRef wire.source.rack)
  else if wire.target.rack ≠ [] ∧ ¬ targets.defines wire.target.rack then
    .error (.unknownTargetRack wire.toRef wire.target.rack)
  else if wire.source.gear ∉ table.names then
    .error (.unknownSourceGear wire.fromRef wire.source.gear)
  else if wire.target.gear ∉ table.names then
    .error (.unknownTargetGear wire.toRef wire.target.gear)
  else match undeclared (table.declaredPorts.lookup wire.source.gear) PortDecl.outputs
      wire.source.port with
    | some declared =>
        .error (.undeclaredOutput wire.fromRef wire.source.gear wire.source.port declared)
    | none =>
        match undeclared (table.declaredPorts.lookup wire.target.gear) PortDecl.inputs
            wire.target.port with
        | some declared =>
            .error (.undeclaredInput wire.toRef wire.target.gear wire.target.port declared)
        | none => .ok ()

def checkWires (targets : Targets) (table : GearTable) (index : ℕ) :
    List WireSpec → Except ScenarioErr Unit
  | [] => .ok ()
  | wire :: rest => do
      checkWire targets table index wire
      checkWires targets table (index + 1) rest

def Scenario.validate (sc : Scenario) : Except ScenarioErr Unit :=
  if sc.version = [] then .error .versionRequired
  else do
    let targets ← checkRacks 0 ⟨[], []⟩ sc.racks
    let table ← checkGears (!sc.racks.isEmpty) targets ⟨[], [], []⟩ sc.gears
    checkEvents table.names sc.gears
    checkWires targets table 0 sc.wires

/-- `deployMap` of the runtime, and what the validation collects in
`deployTarget`: the target of each gear that names one. -/
def Scenario.deployMap (sc : Scenario) : List (Text × Text) :=
  sc.gears.foldl pinGear []

/-- What the routes of a scenario rely on in one of its wires. -/
structure WireSpec.Valid (sc : Scenario) (wire : WireSpec) : Prop where
  source_valid : isValidPortRef wire.fromRef = true
  target_valid : isValidPortRef wire.toRef = true
  lane_known : wire.lane = [] ∨ wire.lane = laneHot ∨ wire.lane = laneGuaranteed
  hot_inside : ¬ wire.leavesRack sc.deployMap
  source_gear : wire.source.gear ∈ sc.gears.map GearSpec.name
  target_gear : wire.target.gear ∈ sc.gears.map GearSpec.name

/-- What a validated scenario guarantees. -/
structure Scenario.Valid (sc : Scenario) : Prop where
  names_nodup : (sc.gears.map GearSpec.name).Nodup
  names_valid : ∀ gear ∈ sc.gears, isValidName gear.name = true
  wires_valid : ∀ wire ∈ sc.wires, wire.Valid sc

variable {targets : Targets} {table : GearTable} {gear : GearSpec} {gears : List GearSpec}
  {sc : Scenario}

lemma checkGear_ok {hasExplicitRacks : Bool} {next : GearTable}
    (hok : checkGear hasExplicitRacks targets table gear = .ok next) :
    isValidName gear.name = true ∧ gear.name ∉ table.names ∧ next = table.add gear := by
  simp only [checkGear, guard_eq_ok, bind_eq_ok, Except.ok.injEq] at hok
  obtain ⟨_, hname, hfresh, _, _, _, hnext⟩ := hok
  exact ⟨eq_true_of_ne_false hname, hfresh, hnext.symm⟩

lemma checkGears_ok {hasExplicitRacks : Bool} {final : GearTable}
    (hok : checkGears hasExplicitRacks targets table gears = .ok final)
    (hnodup : table.names.Nodup) :
    final.names.Nodup ∧ final.names = (gears.map GearSpec.name).reverse ++ table.names ∧
      final.deployTarget = gears.foldl pinGear table.deployTarget ∧
      ∀ gear ∈ gears, isValidName gear.name = true := by
  induction gears generalizing table with
  | nil =>
    rw [checkGears, Except.ok.injEq] at hok
    subst hok
    exact ⟨hnodup, rfl, rfl, nofun⟩
  | cons _ _ ih =>
    rw [checkGears, bind_eq_ok] at hok
    obtain ⟨next, hgear, hrest⟩ := hok
    obtain ⟨hname, hfresh, hnext⟩ := checkGear_ok hgear
    subst hnext
    obtain ⟨hfinal, hnames, htargets, hvalid⟩ := ih hrest (List.nodup_cons.mpr ⟨hfresh, hnodup⟩)
    refine ⟨hfinal, ?_, htargets, List.forall_mem_cons.mpr ⟨hname, hvalid⟩⟩
    rw [hnames, List.map_cons, List.reverse_cons, List.append_assoc]
    rfl

lemma checkWire_ok {index : ℕ} {wire : WireSpec}
    (hok : checkWire targets table index wire = .ok ())
    (hnames : ∀ name ∈ table.names, name ∈ sc.gears.map GearSpec.name)
    (htargets : table.deployTarget = sc.deployMap) : wire.Valid sc := by
  rw [checkWire, htargets] at hok
  simp only [guard_eq_ok] at hok
  obtain ⟨_, hsource, htarget, hlane, hhot, _, _, hfromGear, htoGear, _⟩ := hok
  exact
    { source_valid := eq_true_of_ne_false hsource
      target_valid := eq_true_of_ne_false htarget
      lane_known := by
        by_contra hunknown
        simp only [not_or] at hunknown
        exact hlane hunknown
      hot_inside := hhot
      source_gear := hnames _ (not_not.mp hfromGear)
      target_gear := hnames _ (not_not.mp htoGear) }

lemma checkWires_ok (hnames : ∀ name ∈ table.names, name ∈ sc.gears.map GearSpec.name)
    (htargets : table.deployTarget = sc.deployMap) {index : ℕ} {wires : List WireSpec}
    (hok : checkWires targets table index wires = .ok ()) :
    ∀ wire ∈ wires, wire.Valid sc := by
  induction wires generalizing index with
  | nil => exact nofun
  | cons _ _ ih =>
    rw [checkWires, bind_eq_ok] at hok
    obtain ⟨_, hwire, hrest⟩ := hok
    exact List.forall_mem_cons.mpr ⟨checkWire_ok hwire hnames htargets, ih hrest⟩

/-- What `validate` accepts is valid. -/
lemma validate_ok (hok : sc.validate = .ok ()) : sc.Valid := by
  simp only [Scenario.validate, guard_eq_ok, bind_eq_ok] at hok
  obtain ⟨_, targets, _, table, hgears, _, _, hwires⟩ := hok
  obtain ⟨hnodup, hnames, htargets, hvalid⟩ := checkGears_ok hgears List.nodup_nil
  rw [List.append_nil] at hnames
  have hknown : ∀ name ∈ table.names, name ∈ sc.gears.map GearSpec.name := by
    intro name hname
    rw [hnames] at hname
    exact List.mem_reverse.mp hname
  exact
    { names_nodup := by rwa [hnames, List.nodup_reverse] at hnodup
      names_valid := hvalid
      wires_valid := checkWires_ok hknown htargets hwires }

lemma deployed_pinGear (deploy : List (Text × Text)) (gear : GearSpec) {other : Text}
    (hother : other ≠ gear.name) :
    deployed (pinGear deploy gear) other = deployed deploy other := by
  unfold pinGear
  split
  · simp [deployed, lookup_putField, hother]
  · rfl

lemma deployed_foldl_of_notMem {name : Text} (hname : name ∉ gears.map GearSpec.name)
    (deploy : List (Text × Text)) :
    deployed (gears.foldl pinGear deploy) name = deployed deploy name := by
  induction gears generalizing deploy with
  | nil => rfl
  | cons gear _ ih =>
    rw [List.map_cons, List.mem_cons, not_or] at hname
    rw [List.foldl_cons, ih hname.2, deployed_pinGear deploy gear hname.1]

lemma deployed_foldl (hnodup : (gears.map GearSpec.name).Nodup) (hgear : gear ∈ gears)
    {deploy : List (Text × Text)} (hfresh : deployed deploy gear.name = []) :
    deployed (gears.foldl pinGear deploy) gear.name = gear.target := by
  induction gears generalizing deploy with
  | nil => nomatch hgear
  | cons head _ ih =>
    rw [List.map_cons, List.nodup_cons] at hnodup
    rw [List.foldl_cons]
    rcases List.mem_cons.mp hgear with hhead | hrest
    · subst hhead
      rw [deployed_foldl_of_notMem hnodup.1]
      unfold pinGear GearSpec.target
      split
      · simp [deployed, lookup_putField]
      · exact hfresh
    · have hother : gear.name ≠ head.name := by
        intro heq
        exact hnodup.1 (heq ▸ List.mem_map_of_mem hrest)
      apply ih hnodup.2 hrest
      rw [deployed_pinGear deploy head hother]
      exact hfresh

end Fluxrig.Registry
