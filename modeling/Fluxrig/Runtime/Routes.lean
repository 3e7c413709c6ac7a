import Fluxrig.Registry.Scenario
import Fluxrig.Runtime.Drain
import Fluxrig.Runtime.Lane

/-!
# Routes of a scenario on one Rack

Three functions read the wires of a scenario: `busEmitSubjects` decides which
emissions also go to the bus, `scenarioNeedsBus` whether the Rack needs one, and
the wiring of `applyScenario` where each consumer subscribes.  What the gears themselves
read from the bus once they are started, none of the three looks at.
-/

namespace Fluxrig.Runtime

open Fluxrig.Core Message Registry

/-- The name of a Rack.  In an endpoint and in a deploy map the empty string stands
for "no Rack", so it is not a name. -/
structure RackName where
  text : Text
  nonempty : text ≠ []

/-- `flux.msg.<rack>.<gear>.<port>`. -/
def subject (rack gear port : Text) : Text :=
  utf8 "flux.msg." ++ (rack ++ 46 :: (gear ++ 46 :: port))

def wireOnLane (wire : WireSpec) (sourceRack rack : Text) : Bool :=
  sourceRack = rack && wire.lane ≠ laneGuaranteed

section

variable (gearDeploy : List (Text × Text)) (rack : Text) (wire : WireSpec)

def emitsHere : Prop :=
  wire.source.rack = rack ∨
    (wire.source.rack = [] ∧
      (deployed gearDeploy wire.source.gear = rack ∨ deployed gearDeploy wire.source.gear = []))

def sourcePinned : Prop :=
  wire.source.rack ≠ [] ∨ deployed gearDeploy wire.source.gear ≠ []

def consumerElsewhere : Prop :=
  (wire.target.rack ≠ [] ∧ wire.target.rack ≠ rack) ∨
    (wire.target.rack = [] ∧ deployed gearDeploy wire.target.gear ≠ rack)

def consumedHere : Prop :=
  (wire.target.rack = [] ∨ wire.target.rack = rack) ∧
    (deployed gearDeploy wire.target.gear = [] ∨ deployed gearDeploy wire.target.gear = rack)

/-- An emission of the wire's source on this Rack also goes to the bus. -/
def emitsToBus : Prop :=
  emitsHere gearDeploy rack wire ∧
    (wire.lane = laneGuaranteed ∨
      (sourcePinned gearDeploy wire ∧ consumerElsewhere gearDeploy rack wire))

instance : Decidable (emitsHere gearDeploy rack wire) :=
  inferInstanceAs (Decidable (_ ∨ _))

instance : Decidable (sourcePinned gearDeploy wire) :=
  inferInstanceAs (Decidable (_ ∨ _))

instance : Decidable (consumerElsewhere gearDeploy rack wire) :=
  inferInstanceAs (Decidable (_ ∨ _))

instance : Decidable (consumedHere gearDeploy rack wire) :=
  inferInstanceAs (Decidable (_ ∧ _))

instance : Decidable (emitsToBus gearDeploy rack wire) :=
  inferInstanceAs (Decidable (_ ∧ _))

/-- The Rack whose subject a consumer on this Rack listens to. -/
def sourceRack : Text :=
  firstNonEmpty [wire.source.rack, deployed gearDeploy wire.source.gear, rack]

end

variable (sc : Scenario) (rack : Text) (gearDeploy : List (Text × Text))

def busEmitSubjects : List Text :=
  (sc.wires.filter fun wire => emitsToBus gearDeploy rack wire).map fun wire =>
    subject rack wire.source.gear wire.source.port

def scenarioNeedsBus : Bool :=
  !(busEmitSubjects sc rack gearDeploy).isEmpty ||
    sc.wires.any fun wire =>
      consumedHere gearDeploy rack wire && !wireOnLane wire (sourceRack gearDeploy rack wire) rack

/-- Whether a Rack creates a gear: one that names no Rack runs on every Rack. -/
def runsOn (rack : Text) (gear : GearSpec) : Prop :=
  gear.target = [] ∨ gear.target = rack

instance (rack : Text) (gear : GearSpec) : Decidable (runsOn rack gear) :=
  inferInstanceAs (Decidable (_ ∨ _))

/-- `m.activeGears[name]`: a later gear of the same name replaces an earlier one. -/
def activeGear (sc : Scenario) (rack name : Text) : Option GearSpec :=
  sc.gears.reverse.find? fun gear => runsOn rack gear ∧ gear.name = name

/-- The consumer of a wire, listening on the lane or on the bus. -/
structure Subscription where
  wire : WireSpec
  subject : Text
  onLane : Bool

/-- The subscription of a wire: an explicit Rack wins, then the deploy target of the
source gear, then this Rack. -/
def subscriptionOf (sc : Scenario) (rack : Text) (wire : WireSpec) : Subscription where
  wire := wire
  subject := subject (sourceRack sc.deployMap rack wire) wire.source.gear wire.source.port
  onLane := wireOnLane wire (sourceRack sc.deployMap rack wire) rack

/-- The port a wire arrives at. -/
def inPort (wire : WireSpec) : Text :=
  if wire.target.port = [] then utf8 "in" else wire.target.port

/-- A gear without named inputs is wired to one. -/
structure ActivationErr where
  wire : WireSpec
  inPort : Text

/-- Wire up one consumer.  `ported` tells which gear types take named inputs. -/
def wireUp (ported : Text → Bool) (sc : Scenario) (rack : Text) (wire : WireSpec) :
    Except ActivationErr (Option Subscription) :=
  if wire.target.rack ≠ [] ∧ wire.target.rack ≠ rack then .ok none
  else match activeGear sc rack wire.target.gear with
    | none => .ok none
    | some gear =>
        if ported gear.type = false ∧ utf8 "in_" <+: inPort wire then
          .error ⟨wire, inPort wire⟩
        else .ok (some (subscriptionOf sc rack wire))

def wireUpAll (ported : Text → Bool) (sc : Scenario) (rack : Text) :
    List WireSpec → Except ActivationErr (List Subscription)
  | [] => .ok []
  | wire :: rest => do
      let made ← wireUp ported sc rack wire
      let others ← wireUpAll ported sc rack rest
      .ok (made.toList ++ others)

/-- What a gear itself reads from the bus once it is started: the bucket `$KV.<bucket>.>`
that a coat-check daemon watches, or the durable events of a gear. -/
inductive GearFeed where
  | bucket (name : Text)
  | events (gear : Text)

/-- The gear that an entry of `ports.events` names, with its Rack.  `Init` has refused an
entry without one. -/
def eventRef : Value → Option Text
  | .object entry => some (configText entry (utf8 "gear"))
  | _ => none

/-- `parseEventSources`. -/
def eventRefs (config : List (Text × Value)) : List Text :=
  match config.lookup (utf8 "ports") with
  | some (.object ports) =>
      match ports.lookup (utf8 "events") with
      | some (.list entries) => entries.filterMap eventRef
      | _ => []
  | _ => []

/-- What `Start` of a gear subscribes to.  `Init` has refused a daemon without a bucket. -/
def feeds (gear : GearSpec) : List GearFeed :=
  if gear.type = utf8 "coatcheck" then
    let bucket := configText gear.config (utf8 "bucket")
    if configText gear.config (utf8 "mode") = utf8 "daemon" ∧ bucket ≠ [] then [.bucket bucket]
    else []
  else if gear.type = utf8 "bento" then (eventRefs gear.config).map .events
  else []

/-- What an activation leaves on the Rack. -/
structure Activation where
  rack : Text
  busSubjects : List Text
  subscriptions : List Subscription
  feeds : List GearFeed

/-- `ApplyScenario` once every gear of the Rack is created and initialised: the consumers
are wired and the gears started. -/
def applyScenario (ported : Text → Bool) (sc : Scenario) (rack : Text) :
    Except ActivationErr Activation := do
  let subscriptions ← wireUpAll ported sc rack sc.wires
  .ok ⟨rack, busEmitSubjects sc rack sc.deployMap, subscriptions,
    (sc.gears.filter fun gear => runsOn rack gear).flatMap feeds⟩

/-- `publishPort` up to its bus leg: the call of the bus leg it makes after the
lane answered, if any. -/
def publishPort (activation : Activation) (gear port : Text) (delivered : Except LaneErr ℕ) :
    Option Step :=
  match delivered with
  | .error _ => none
  | .ok _ =>
      if subject activation.rack gear port ∈ activation.busSubjects then
        some (.call (subject activation.rack gear port) .message)
      else none

variable {sc : Scenario} {rack name : Text} {ported : Text → Bool}

lemma mem_busEmitSubjects {gearDeploy : List (Text × Text)} :
    name ∈ busEmitSubjects sc rack gearDeploy ↔
      ∃ wire ∈ sc.wires, emitsToBus gearDeploy rack wire ∧
        subject rack wire.source.gear wire.source.port = name := by
  simp only [busEmitSubjects, List.mem_map, List.mem_filter, decide_eq_true_eq, and_assoc]

lemma subscriptionOf_onLane_iff {wire : WireSpec} : (subscriptionOf sc rack wire).onLane = true ↔
      sourceRack sc.deployMap rack wire = rack ∧ wire.lane ≠ laneGuaranteed := by
  simp only [subscriptionOf, wireOnLane, Bool.and_eq_true, decide_eq_true_eq]

lemma firstNonEmpty_cons (value : Text) (rest : List Text) :
    firstNonEmpty (value :: rest) = if value = [] then firstNonEmpty rest else value := by
  by_cases hvalue : value = []
  · simp [firstNonEmpty, hvalue]
  · simp [firstNonEmpty, hvalue]

lemma firstNonEmpty_nil : firstNonEmpty [] = [] := rfl

lemma sourceRack_eq (gearDeploy : List (Text × Text)) (rack : Text) (wire : WireSpec) :
    sourceRack gearDeploy rack wire =
      if wire.source.pinned gearDeploy = [] then rack else wire.source.pinned gearDeploy := by
  simp only [sourceRack, PortRef.pinned, firstNonEmpty_cons, firstNonEmpty_nil]
  split_ifs <;> simp_all

lemma activeGear_some {gear : GearSpec} (hactive : activeGear sc rack name = some gear) :
    gear ∈ sc.gears ∧ runsOn rack gear ∧ gear.name = name := by
  have hmem := List.mem_of_find?_eq_some hactive
  have hfound := List.find?_some hactive
  rw [List.mem_reverse] at hmem
  rw [decide_eq_true_eq] at hfound
  exact ⟨hmem, hfound⟩

section

variable (hvalid : sc.Valid)

include hvalid

/-- A gear of a valid scenario is active where its target allows it. -/
lemma activeGear_isSome_iff (hname : name ∈ sc.gears.map GearSpec.name) :
    (activeGear sc rack name).isSome = true ↔
      deployed sc.deployMap name = [] ∨ deployed sc.deployMap name = rack := by
  obtain ⟨gear, hgear, hgearName⟩ := List.mem_map.mp hname
  subst hgearName
  have hdeployed : deployed sc.deployMap gear.name = gear.target :=
    deployed_foldl hvalid.names_nodup hgear rfl
  rw [hdeployed]
  constructor
  · intro hactive
    obtain ⟨found, hfound⟩ := Option.isSome_iff_exists.mp hactive
    obtain ⟨hmem, hruns, hsame⟩ := activeGear_some hfound
    rw [← List.inj_on_of_nodup_map hvalid.names_nodup hmem hgear hsame]
    exact hruns
  · intro hruns
    rw [activeGear, List.find?_isSome]
    exact ⟨gear, List.mem_reverse.mpr hgear, decide_eq_true ⟨hruns, rfl⟩⟩

/-- Without an error a wire is subscribed exactly where it is consumed. -/
lemma wireUp_ok {wire : WireSpec} (hwire : wire ∈ sc.wires) {made : Option Subscription}
    (hok : wireUp ported sc rack wire = .ok made) :
    made = if consumedHere sc.deployMap rack wire then
      some (subscriptionOf sc rack wire) else none := by
  have hactive : (activeGear sc rack wire.target.gear).isSome = true ↔ _ :=
    activeGear_isSome_iff hvalid (hvalid.wires_valid wire hwire).target_gear
  rw [wireUp] at hok
  split at hok
  · rename_i helsewhere
    rw [Except.ok.injEq] at hok
    rw [← hok, if_neg]
    intro hconsumed
    exact hconsumed.1.elim helsewhere.1 helsewhere.2
  · split at hok
    · rename_i hnone
      rw [Except.ok.injEq] at hok
      rw [← hok, if_neg]
      intro hconsumed
      rw [consumedHere, ← hactive, hnone] at hconsumed
      exact absurd hconsumed.2 Bool.false_ne_true
    · rename_i gear hsome
      rw [guard_eq_ok, Except.ok.injEq] at hok
      have hconsumed : consumedHere sc.deployMap rack wire := by
        rw [consumedHere, ← hactive, hsome]
        exact ⟨by tauto, rfl⟩
      rw [← hok.2, if_pos hconsumed]

lemma wireUpAll_ok {wires : List WireSpec} (hwires : ∀ wire ∈ wires, wire ∈ sc.wires)
    {subscriptions : List Subscription}
    (hok : wireUpAll ported sc rack wires = .ok subscriptions) :
    subscriptions = (wires.filter fun wire => consumedHere sc.deployMap rack wire).map
      (subscriptionOf sc rack) := by
  induction wires generalizing subscriptions with
  | nil =>
    rw [wireUpAll, Except.ok.injEq] at hok
    exact hok.symm
  | cons wire _ ih =>
    rw [List.forall_mem_cons] at hwires
    simp only [wireUpAll, bind_eq_ok, Except.ok.injEq] at hok
    obtain ⟨made, hmade, others, hothers, hsubscriptions⟩ := hok
    rw [← hsubscriptions, ih hwires.2 hothers, wireUp_ok hvalid hwires.1 hmade]
    by_cases hconsumed : consumedHere sc.deployMap rack wire
    · simp [hconsumed]
    · simp [hconsumed]

/-- An activation subscribes the consumers of this Rack, wire by wire, and starts its
gears. -/
lemma applyScenario_ok {activation : Activation}
    (hok : applyScenario ported sc rack = .ok activation) : activation =
      { rack := rack
        busSubjects := busEmitSubjects sc rack sc.deployMap
        subscriptions :=
          (sc.wires.filter fun wire => consumedHere sc.deployMap rack wire).map
            (subscriptionOf sc rack)
        feeds := (sc.gears.filter fun gear => runsOn rack gear).flatMap feeds } := by
  simp only [applyScenario, bind_eq_ok, Except.ok.injEq] at hok
  obtain ⟨subscriptions, hsubscriptions, hactivation⟩ := hok
  rw [← hactivation, wireUpAll_ok hvalid (fun _ hwire => hwire) hsubscriptions]

end

end Fluxrig.Runtime
