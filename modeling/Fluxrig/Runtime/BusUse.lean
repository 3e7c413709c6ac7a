import Fluxrig.Runtime.Agreement
import Fluxrig.Runtime.Custody

/-!
# Who stays off the bus

A Rack that `scenarioNeedsBus` lets run without a bus uses none for its wires; a gear
that reads from the bus itself is not looked at.  A subject with hot wires only stays off
the bus unless a pinned source has a consumer that runs on every Rack: the other Racks then
listen to it on the bus.
-/

namespace Fluxrig.Runtime

open Fluxrig.Core Message Registry

section

variable {cfg : OutboxSettings} {rack next : Rack} {step : Step}

/-- What an emission is never changes; only a call adds one. -/
lemma Move.kinds (hmove : Move cfg rack step next) :
    next.emissions.map Emission.kind = rack.emissions.map Emission.kind ++ match step with
      | .call _ kind => [kind]
      | _ => [] := by
  have hadvance : ∀ {id : ℕ} {emission : Emission} (stage : Stage),
      rack.emissions[id]? = some emission →
      (rack.emissions.set id { emission with stage := stage }).map Emission.kind =
        rack.emissions.map Emission.kind ++ [] := by
    intro id emission stage hemission
    rw [List.append_nil, List.map_set]
    apply List.ext_getElem?
    intro place
    rw [List.getElem?_set]
    split
    · rename_i hplace
      rw [← hplace, List.getElem?_map, hemission, List.length_map]
      obtain ⟨hlt, _⟩ := List.getElem?_eq_some_iff.mp hemission
      rw [if_pos hlt]
      rfl
    · rfl
  cases hmove with
  | call => exact List.map_append
  | advance hemission | enqueue hemission | accept hemission | finish hemission =>
    exact hadvance _ hemission
  | rest | kick | absent | turn | late | cancel => exact (List.append_nil _).symm

/-- What a drain sends is an item of its pass. -/
lemma Turn.sent_mem_carries {ended : Bool} {box after : Outbox} {phase next : Phase}
    {item : Item} (hturn : Turn cfg ended box phase (some item) next after) :
    item ∈ phase.carries := by
  cases hturn
  exact List.mem_cons_self

/-- What a step adds to the list of what the bus accepted is an emission. -/
lemma Move.sent (hmove : Move cfg rack step next) (hcustody : Custody rack)
    (hsent : ∀ sent ∈ rack.sent, sent.id < rack.emissions.length) :
    ∀ sent ∈ next.sent, sent.id < next.emissions.length := by
  have hgrows : rack.emissions.length ≤ next.emissions.length := by
    have hlength := congrArg List.length hmove.kinds
    rw [List.length_append, List.length_map, List.length_map] at hlength
    omega
  suffices hnew : ∀ sent ∈ next.sent, sent.id < rack.emissions.length from
    fun sent hmem => (hnew sent hmem).trans_le hgrows
  cases hmove with
  | accept hemission =>
    intro sent hmem
    rcases List.mem_append.mp hmem with hold | hnew
    · exact hsent sent hold
    · rw [List.mem_singleton.mp hnew]
      exact (List.getElem?_eq_some_iff.mp hemission).1
  | turn hdrain hturn =>
    intro sent hmem
    rcases List.mem_append.mp hmem with hold | hnew
    · exact hsent sent hold
    · rw [Option.mem_toList, Option.map_eq_some_iff] at hnew
      obtain ⟨item, rfl, rfl⟩ := hnew
      obtain ⟨emission, hemission, _⟩ := (hcustody.carried _
        (List.mem_of_getElem? hdrain) item hturn.sent_mem_carries).emitted
      exact (List.getElem?_eq_some_iff.mp hemission).1
  | _ => exact hsent

lemma sent_rackAt (cfg : OutboxSettings) (steps : List Step) (time : ℕ) :
    ∀ sent ∈ (rackAt cfg steps time).sent,
      sent.id < (rackAt cfg steps time).emissions.length := by
  apply @rackAt_induction cfg steps
    fun rack => ∀ sent ∈ rack.sent, sent.id < rack.emissions.length
  · exact nofun
  · intro now step next _ hmove hsent
    exact hmove.sent (custody_rackAt cfg steps now) hsent

/-- The steps of a Rack call the bus leg for no other messages than those
`publishPort` hands to it. -/
def EmittedBy (activation : Activation) (steps : List Step) : Prop :=
  ∀ name, Step.call name .message ∈ steps →
    ∃ gear port delivered, publishPort activation gear port delivered = some (.call name .message)

/-- The Rack neither sent nor holds a message; what it sends and parks are events. -/
structure EventsOnly (rack : Rack) : Prop where
  parked : ∀ item ∈ rack.outbox.items, item.kind = .event
  sent : ∀ sent ∈ rack.sent, ∃ emission,
    rack.emissions[sent.id]? = some emission ∧ emission.kind = .event

lemma eventsOnly_of_no_call {steps : List Step}
    (hnone : ∀ name, Step.call name .message ∉ steps) (time : ℕ) :
    EventsOnly (rackAt cfg steps time) := by
  have hevents : ∀ kind ∈ (rackAt cfg steps time).emissions.map Emission.kind, kind = .event := by
    apply @rackAt_induction cfg steps
      fun rack => ∀ kind ∈ rack.emissions.map Emission.kind, kind = .event
    · exact nofun
    · intro now step next hstep hmove hbefore kind hkind
      rw [hmove.kinds, List.mem_append] at hkind
      rcases hkind with hold | hnew
      · exact hbefore kind hold
      · cases step with
        | call name called =>
          rw [List.mem_singleton.mp hnew]
          cases called with
          | event => rfl
          | message => exact absurd (List.mem_of_getElem? hstep) (hnone name)
        | proceed | kick | drain | cancel => nomatch hnew
  have hevent : ∀ (id : ℕ) (emission : Emission),
      (rackAt cfg steps time).emissions[id]? = some emission →
      emission.kind = .event := by
    intro id emission hemission
    exact hevents _ (List.mem_map_of_mem (List.mem_of_getElem? hemission))
  constructor
  · intro item hitem
    obtain ⟨emission, hemission, _, hkind, _⟩ :=
      ((custody_rackAt cfg steps time).queued item hitem).emitted
    rw [← hkind]
    exact hevent _ emission hemission
  · intro sent hsent
    have hlt := sent_rackAt cfg steps time sent hsent
    exact ⟨_, List.getElem?_eq_getElem hlt, hevent _ _ (List.getElem?_eq_getElem hlt)⟩

end

lemma publishPort_of_no_subjects {activation : Activation}
    (hempty : activation.busSubjects = []) (gear port : Text)
    (delivered : Except LaneErr ℕ) : publishPort activation gear port delivered = none := by
  cases delivered with
  | error => rfl
  | ok => rw [publishPort, hempty, if_neg List.not_mem_nil]

/-- The Rack subscribes to nothing on the bus, publishes nothing to it and parks no message
for it. -/
structure Activation.Offline (activation : Activation) : Prop where
  wires : ∀ subscription ∈ activation.subscriptions, subscription.onLane = true
  gears : activation.feeds = []
  emits : ∀ gear port delivered, publishPort activation gear port delivered = none
  runs : ∀ cfg steps time, EmittedBy activation steps → EventsOnly (rackAt cfg steps time)

/-- A coat-check daemon that watches a bucket, or a Bento gear that reads events. -/
def ReadsBus (gear : GearSpec) : Prop :=
  gear.type = utf8 "coatcheck" ∧ configText gear.config (utf8 "mode") = utf8 "daemon" ∧
      configText gear.config (utf8 "bucket") ≠ [] ∨
    gear.type = utf8 "bento" ∧ eventRefs gear.config ≠ []

instance (gear : GearSpec) : Decidable (ReadsBus gear) := inferInstanceAs (Decidable (_ ∨ _))

lemma feeds_eq_nil_iff {gear : GearSpec} : feeds gear = [] ↔ ¬ ReadsBus gear := by
  have hkinds : utf8 "coatcheck" ≠ utf8 "bento" := by decide
  rw [feeds, ReadsBus]
  by_cases hcoatcheck : gear.type = utf8 "coatcheck"
  · simp [hcoatcheck, hkinds]
  · by_cases hbento : gear.type = utf8 "bento" <;> simp [hcoatcheck, hbento, hkinds.symm]

/-- Two gears of one Rack with a wire between them. -/
def insideOneRack : Scenario where
  version := utf8 "1"
  racks := [⟨utf8 "r1", [], [], none⟩]
  gears := [⟨utf8 "g", utf8 "io", .target (utf8 "r1"), []⟩,
    ⟨utf8 "h", utf8 "io", .target (utf8 "r1"), []⟩]
  wires := [⟨utf8 "g.out", utf8 "h.in", []⟩]

/-- A coat-check daemon alone on its Rack. -/
def daemonAlone : Scenario where
  version := utf8 "1"
  racks := [⟨utf8 "r1", [], [], none⟩]
  gears := [⟨utf8 "d", utf8 "coatcheck", .target (utf8 "r1"),
    [(utf8 "mode", .text (utf8 "daemon")), (utf8 "bucket", .text (utf8 "coats"))]⟩]
  wires := []

/-- The source of the wire emits on the subject, on some Rack. -/
def Carries (sc : Scenario) (wire : WireSpec) (name : Text) : Prop :=
  ∃ rack : RackName, emitsHere sc.deployMap rack.text wire ∧ emitted rack wire = name

/-- No Rack publishes the subject to the bus or listens to it there, and a message
emitted on it has no bus leg. -/
structure Deployment.OffBus {sc : Scenario} (plan : Deployment sc) (name : Text) : Prop where
  emits : ∀ rack ∈ plan.racks, name ∉ (plan.activation rack).busSubjects
  listens : ∀ rack ∈ plan.racks,
    ∀ subscription ∈ (plan.activation rack).subscriptions,
      subscription.subject = name → subscription.onLane = true
  stays : ∀ rack ∈ plan.racks, ∀ gear port delivered,
    subject rack.text gear port = name →
      publishPort (plan.activation rack) gear port delivered = none

/-- A pinned source with a consumer that runs on every Rack. -/
def SpreadConsumer (sc : Scenario) (wire : WireSpec) : Prop :=
  sourcePinned sc.deployMap wire ∧ wire.target.pinned sc.deployMap = []

section

variable {sc : Scenario} {wire : WireSpec} {rack : RackName}

lemma pinned_eq (gearDeploy : List (Text × Text)) (ref : PortRef) :
    ref.pinned gearDeploy = if ref.rack = [] then deployed gearDeploy ref.gear else ref.rack := by
  simp only [PortRef.pinned, firstNonEmpty_cons, firstNonEmpty_nil]
  split_ifs <;> simp_all

/-- A pinned source that emits on a Rack is pinned to it. -/
lemma pinned_of_emitsHere (hpinned : sourcePinned sc.deployMap wire)
    (hemits : emitsHere sc.deployMap rack.text wire) :
    wire.source.pinned sc.deployMap = rack.text := by
  rw [pinned_eq]
  rcases hemits with hnamed | ⟨hnone, hdeploy⟩
  · rw [hnamed, if_neg rack.nonempty]
  · rw [if_pos hnone]
    rcases hpinned with hnamed | hsource
    · exact absurd hnone hnamed
    · exact hdeploy.resolve_right hsource

/-- A consumer pinned to a Rack is not elsewhere for it. -/
lemma not_consumerElsewhere (htarget : wire.target.pinned sc.deployMap = rack.text) :
    ¬ consumerElsewhere sc.deployMap rack.text wire := by
  rw [pinned_eq] at htarget
  rintro (⟨hnamed, hother⟩ | ⟨hnone, hother⟩)
  · rw [if_neg hnamed] at htarget
    exact hother htarget
  · rw [if_pos hnone] at htarget
    exact hother htarget

/-- A pinned consumer of this Rack is pinned to it. -/
lemma pinned_of_consumedHere (hpinned : wire.target.pinned sc.deployMap ≠ [])
    (hconsumed : consumedHere sc.deployMap rack.text wire) :
    wire.target.pinned sc.deployMap = rack.text := by
  rw [pinned_eq] at hpinned ⊢
  by_cases hnone : wire.target.rack = []
  · rw [if_pos hnone] at hpinned ⊢
    exact hconsumed.2.resolve_left hpinned
  · rw [if_neg hnone]
    exact hconsumed.1.resolve_left hnone

/-- A pinned source of a hot wire has its pinned consumer on the same Rack. -/
lemma pinned_eq_of_hot (hvalid : wire.Valid sc) (hhot : wire.lane = laneHot)
    (hsource : wire.source.pinned sc.deployMap ≠ [])
    (htarget : wire.target.pinned sc.deployMap ≠ []) :
    wire.source.pinned sc.deployMap = wire.target.pinned sc.deployMap := by
  by_contra hdiffer
  exact hvalid.hot_inside ⟨hhot, hsource, htarget, hdiffer⟩

lemma laneHot_ne_laneGuaranteed : laneHot ≠ laneGuaranteed := by decide

section

variable (hvalid : wire.Valid sc) (hhot : wire.lane = laneHot)
  (hspread : ¬ SpreadConsumer sc wire)

include hvalid hhot hspread

/-- A hot wire does not take its subject to the bus, unless it spreads. -/
lemma not_emitsToBus_of_hot : ¬ emitsToBus sc.deployMap rack.text wire := by
  rintro ⟨hemits, hguaranteed | ⟨hpinned, helsewhere⟩⟩
  · exact laneHot_ne_laneGuaranteed (hhot.symm.trans hguaranteed)
  · have hsource := pinned_of_emitsHere hpinned hemits
    have hsame := pinned_eq_of_hot hvalid hhot (hsource ▸ rack.nonempty)
      fun htarget => hspread ⟨hpinned, htarget⟩
    exact not_consumerElsewhere (hsame.symm.trans hsource) helsewhere

/-- The consumer of a hot wire listens to the lane, unless the wire spreads. -/
lemma onLane_of_hot (hconsumed : consumedHere sc.deployMap rack.text wire) :
    (subscriptionOf sc rack.text wire).onLane = true := by
  rw [subscriptionOf_onLane_iff]
  constructor
  · by_contra hother
    have hpinned := sourcePinned_of_sourceRack_ne hother
    have htarget : wire.target.pinned sc.deployMap ≠ [] := fun hnone => hspread ⟨hpinned, hnone⟩
    rw [sourceRack_eq] at hother
    by_cases hsource : wire.source.pinned sc.deployMap = []
    · exact hother (if_pos hsource)
    · rw [if_neg hsource, pinned_eq_of_hot hvalid hhot hsource htarget] at hother
      exact hother (pinned_of_consumedHere htarget hconsumed)
  · rw [hhot]
    exact laneHot_ne_laneGuaranteed

end

lemma sourceRack_ne_nil : sourceRack sc.deployMap rack.text wire ≠ [] := by
  rw [sourceRack_eq]
  split
  · exact rack.nonempty
  · assumption

/-- A subject with hot wires only stays off the bus of every deployment exactly when
none of its wires has a pinned source and a consumer on every Rack. -/
theorem hotSubject_offBus_iff (hvalidate : sc.validate = .ok ()) {name : Text}
    (hhot : ∀ wire ∈ sc.wires, Carries sc wire name → wire.lane = laneHot) :
    (∀ plan : Deployment sc, plan.OffBus name) ↔
      ∀ wire ∈ sc.wires, Carries sc wire name → ¬ SpreadConsumer sc wire := by
  have hvalid := validate_ok hvalidate
  constructor
  · intro hoff wire hwire hcarries hspread
    obtain ⟨rack, hemits, hname⟩ := hcarries
    obtain ⟨plan, hracks⟩ := exists_deployment sc [rack]
    have hrack : rack ∈ plan.racks := by simp [hracks]
    apply (hoff plan).emits rack hrack
    rw [plan.busSubjects_eq hvalid hrack, mem_busEmitSubjects]
    refine ⟨wire, hwire, ⟨hemits, Or.inr ⟨hspread.1, ?_⟩⟩, hname⟩
    -- the consumer runs on the other Racks too
    have hnone := hspread.2
    rw [pinned_eq] at hnone
    by_cases htarget : wire.target.rack = []
    · rw [if_pos htarget] at hnone
      exact Or.inr ⟨htarget, hnone ▸ rack.nonempty.symm⟩
    · rw [if_neg htarget] at hnone
      exact absurd hnone htarget
  · intro hspread plan
    have hemits : ∀ rack ∈ plan.racks, name ∉ (plan.activation rack).busSubjects := by
      intro rack hrack hmem
      rw [plan.busSubjects_eq hvalid hrack, mem_busEmitSubjects] at hmem
      obtain ⟨wire, hwire, htoBus, hname⟩ := hmem
      have hcarries : Carries sc wire name := ⟨rack, htoBus.1, hname⟩
      exact not_emitsToBus_of_hot (hvalid.wires_valid wire hwire)
        (hhot wire hwire hcarries) (hspread wire hwire hcarries) htoBus
    constructor
    · exact hemits
    · intro rack hrack subscription hmem hname
      rw [plan.mem_subscriptions hvalid hrack] at hmem
      obtain ⟨wire, hwire, hconsumed, heq⟩ := hmem
      subst heq
      have hcarries : Carries sc wire name :=
        ⟨⟨_, sourceRack_ne_nil⟩, emitsHere_sourceRack rack.text, hname⟩
      exact onLane_of_hot (hvalid.wires_valid wire hwire) (hhot wire hwire hcarries)
        (hspread wire hwire hcarries) hconsumed
    · intro rack hrack gear port delivered hname
      have hactivation := applyScenario_ok hvalid (plan.activated rack hrack)
      have hnotMem := hemits rack hrack
      cases delivered with
      | error => rfl
      | ok =>
        have hrackName : (plan.activation rack).rack = rack.text := by
          rw [hactivation]
        rw [publishPort, hrackName, hname, if_neg hnotMem]

end

/-- A hot wire from a gear on `r1` to a consumer with the given target. -/
def hotWire (consumer : Deploy) : Scenario where
  version := utf8 "1"
  racks := [⟨utf8 "r1", [], [], none⟩, ⟨utf8 "r2", [], [], none⟩]
  gears := [⟨utf8 "g", utf8 "io", .target (utf8 "r1"), []⟩, ⟨utf8 "h", utf8 "io", consumer, []⟩]
  wires := [⟨utf8 "g.out", utf8 "h.in", laneHot⟩]

theorem hotWire_offBus : (hotWire (.target (utf8 "r1"))).validate = .ok () ∧
      ∀ plan : Deployment (hotWire (.target (utf8 "r1"))),
        plan.OffBus (utf8 "flux.msg.r1.g.out") := by
  refine ⟨rfl, (hotSubject_offBus_iff rfl ?_).mpr ?_⟩
  · intro wire hwire _
    rw [List.mem_singleton.mp hwire]
  · intro wire hwire _ hspread
    rw [List.mem_singleton.mp hwire] at hspread
    exact absurd hspread.2 (by decide)

/-- With the consumer on every Rack, `r1` publishes to the bus and `r2` listens. -/
def hotSpread : Deployment (hotWire .absent) where
  racks := [rackOne, rackTwo]
  ported _ _ := false
  activation rack :=
    { rack := rack.text
      busSubjects := if rack.text = utf8 "r1" then [utf8 "flux.msg.r1.g.out"] else []
      subscriptions :=
        [⟨⟨utf8 "g.out", utf8 "h.in", laneHot⟩, utf8 "flux.msg.r1.g.out", rack.text = utf8 "r1"⟩]
      feeds := [] }
  activated := by
    intro rack hrack
    rw [List.mem_pair] at hrack
    rcases hrack with rfl | rfl <;> rfl

theorem hotSpread_onBus : (hotWire .absent).validate = .ok () ∧
      (∀ wire ∈ (hotWire .absent).wires, wire.lane = laneHot) ∧
      ¬ hotSpread.OffBus (utf8 "flux.msg.r1.g.out") := by
  refine ⟨rfl, by decide, ?_⟩
  intro hoff
  exact hoff.emits rackOne List.mem_cons_self List.mem_cons_self

end Fluxrig.Runtime
