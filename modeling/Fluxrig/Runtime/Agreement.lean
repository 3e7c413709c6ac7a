import Fluxrig.Runtime.Routes

/-!
# Publishers and subscribers agree

A consumer listens where its wire says the source runs; an emission goes where the
wires of its own Rack send it.  The two sides are computed on different Racks, and
they agree on a wire unless its endpoint names another Rack than the one the source
gear is deployed on.
-/

namespace Fluxrig.Runtime

open Fluxrig.Core Message Registry

/-- Racks that run a scenario, each with its activation.  `ported` tells which gear
types of a Rack take named inputs. -/
structure Deployment (sc : Scenario) where
  racks : List RackName
  ported : RackName → Text → Bool
  activation : RackName → Activation
  activated : ∀ rack ∈ racks, applyScenario (ported rack) sc rack.text = .ok (activation rack)

/-- A Rack runs a gear. -/
def RunsGear (sc : Scenario) (rack : RackName) (gear : Text) : Prop :=
  (activeGear sc rack.text gear).isSome = true

/-- The wire addresses the consumer on this Rack. -/
def Addresses (sc : Scenario) (wire : WireSpec) (rack : RackName) : Prop :=
  (wire.target.rack = [] ∨ wire.target.rack = rack.text) ∧ RunsGear sc rack wire.target.gear

/-- The source gear runs on `source`, and this is the instance that the consumer on
`rack` is wired to.  A gear that runs on every Rack has its own subject on each, so
of its instances only the one the endpoint names counts, or else the one on the
consumer's own Rack. -/
def Feeds (sc : Scenario) (wire : WireSpec) (source rack : RackName) : Prop :=
  RunsGear sc source wire.source.gear ∧
    (deployed sc.deployMap wire.source.gear = [] →
      source.text = firstNonEmpty [wire.source.rack, rack.text])

/-- The subject that the source port of a wire emits on. -/
def emitted (source : RackName) (wire : WireSpec) : Text :=
  subject source.text wire.source.gear wire.source.port

/-- An emission reaches the subscription through the memory of one Rack. -/
def LanePath (source rack : RackName) (subscription : Subscription) : Prop :=
  subscription.onLane = true ∧ source.text = rack.text ∧
    subscription.subject = emitted source subscription.wire

/-- An emission is published to the bus and the subscription listens there. -/
def BusPath (source : Activation) (name : RackName) (subscription : Subscription) : Prop :=
  subscription.onLane = false ∧ emitted name subscription.wire ∈ source.busSubjects ∧
    subscription.subject = emitted name subscription.wire

/-- The two sides of every wire agree.  Paths are counted wire by wire: two wires between the
same ports, on different lanes, have two paths and deliver twice. -/
structure Deployment.Agrees {sc : Scenario} (plan : Deployment sc) : Prop where
  bus : ∀ rack ∈ plan.racks,
    ∀ subscription ∈ (plan.activation rack).subscriptions,
      subscription.onLane = false → ∀ source ∈ plan.racks,
      source.text ≠ rack.text → Feeds sc subscription.wire source rack →
      subscription.subject ∈ (plan.activation source).busSubjects
  lane : ∀ rack ∈ plan.racks,
    ∀ subscription ∈ (plan.activation rack).subscriptions,
      subscription.onLane = true → RunsGear sc rack subscription.wire.source.gear
  path : ∀ wire ∈ sc.wires, ∀ rack ∈ plan.racks,
    Addresses sc wire rack →
    ∀ source ∈ plan.racks, Feeds sc wire source rack →
      (∃ subscription ∈ (plan.activation rack).subscriptions, subscription.wire = wire) ∧
      ∀ subscription ∈ (plan.activation rack).subscriptions,
        subscription.wire = wire →
        Xor (LanePath source rack subscription)
          (BusPath (plan.activation source) source subscription)

/-- Some Rack can run the consumer that the wire addresses. -/
def Consumable (sc : Scenario) (wire : WireSpec) : Prop :=
  wire.target.rack = [] ∨ deployed sc.deployMap wire.target.gear = [] ∨
    wire.target.rack = deployed sc.deployMap wire.target.gear

/-- The source endpoint names no other Rack than the one its gear is deployed on. -/
def SourceConsistent (sc : Scenario) (wire : WireSpec) : Prop :=
  wire.source.rack = [] ∨ deployed sc.deployMap wire.source.gear = [] ∨
    wire.source.rack = deployed sc.deployMap wire.source.gear

instance (sc : Scenario) (wire : WireSpec) : Decidable (Consumable sc wire) :=
  inferInstanceAs (Decidable (_ ∨ _))

instance (sc : Scenario) (wire : WireSpec) : Decidable (SourceConsistent sc wire) :=
  inferInstanceAs (Decidable (_ ∨ _))

section

variable {sc : Scenario} {wire : WireSpec} {source rack : RackName}

lemma runsGear_source_iff (hvalid : sc.Valid) (hwire : wire ∈ sc.wires) :
    RunsGear sc source wire.source.gear ↔ deployed sc.deployMap wire.source.gear = [] ∨
        deployed sc.deployMap wire.source.gear = source.text :=
  activeGear_isSome_iff hvalid (hvalid.wires_valid wire hwire).source_gear

lemma addresses_iff (hvalid : sc.Valid) (hwire : wire ∈ sc.wires) :
    Addresses sc wire rack ↔ consumedHere sc.deployMap rack.text wire := by
  rw [Addresses, RunsGear,
    activeGear_isSome_iff hvalid (hvalid.wires_valid wire hwire).target_gear, consumedHere]

lemma consumable_of_consumedHere (hconsumed : consumedHere sc.deployMap rack.text wire) :
    Consumable sc wire := by
  rcases hconsumed with ⟨hnone | hrack, hunpinned | hpinned⟩
  · exact Or.inl hnone
  · exact Or.inl hnone
  · exact Or.inr (Or.inl hunpinned)
  · exact Or.inr (Or.inr (hrack.trans hpinned.symm))

/-- On a consistent wire the consumer listens to the Rack that feeds it. -/
lemma sourceRack_of_feeds (hvalid : sc.Valid) (hwire : wire ∈ sc.wires)
    (hconsistent : SourceConsistent sc wire) (hfeeds : Feeds sc wire source rack) :
    sourceRack sc.deployMap rack.text wire = source.text := by
  have hruns := (runsGear_source_iff hvalid hwire).mp hfeeds.1
  by_cases hdeploy : deployed sc.deployMap wire.source.gear = []
  · rw [hfeeds.2 hdeploy, sourceRack, hdeploy]
    simp only [firstNonEmpty_cons, if_true]
  · have hpinned := hruns.resolve_left hdeploy
    rw [sourceRack, firstNonEmpty_cons, firstNonEmpty_cons, if_neg hdeploy, hpinned]
    rcases hconsistent with hnone | hunpinned | hsame
    · rw [if_pos hnone]
    · exact absurd hunpinned hdeploy
    · rw [hsame, hpinned]
      split <;> rfl

/-- The Rack a consumer listens to emits the wire. -/
lemma emitsHere_sourceRack (rack : Text) :
    emitsHere sc.deployMap (sourceRack sc.deployMap rack wire) wire := by
  rw [sourceRack, firstNonEmpty_cons, firstNonEmpty_cons]
  by_cases hrack : wire.source.rack = []
  · rw [if_pos hrack]
    by_cases hdeploy : deployed sc.deployMap wire.source.gear = []
    · exact Or.inr ⟨hrack, Or.inr hdeploy⟩
    · rw [if_neg hdeploy]
      exact Or.inr ⟨hrack, Or.inl rfl⟩
  · rw [if_neg hrack]
    exact Or.inl rfl

/-- A consumer that listens to another Rack is elsewhere for that Rack. -/
lemma consumerElsewhere_of_consumedHere (hconsumed : consumedHere sc.deployMap rack.text wire)
    (hother : source.text ≠ rack.text) :
    consumerElsewhere sc.deployMap source.text wire := by
  by_cases hrack : wire.target.rack = []
  · right
    refine ⟨hrack, ?_⟩
    rcases hconsumed.2 with hunpinned | hpinned
    · rw [hunpinned]
      exact source.nonempty.symm
    · rw [hpinned]
      exact hother.symm
  · left
    refine ⟨hrack, ?_⟩
    rw [hconsumed.1.resolve_left hrack]
    exact hother.symm

lemma sourcePinned_of_sourceRack_ne {rack : Text}
    (hother : sourceRack sc.deployMap rack wire ≠ rack) :
    sourcePinned sc.deployMap wire := by
  by_contra hunpinned
  rw [sourcePinned, not_or, not_not, not_not] at hunpinned
  apply hother
  rw [sourceRack, hunpinned.1, hunpinned.2]
  simp only [firstNonEmpty_cons, firstNonEmpty_nil, if_true]
  split
  · symm
    assumption
  · rfl

/-- What is not on the lane is on the bus of the Rack the consumer listens to. -/
lemma emitsToBus_of_not_onLane (hconsumed : consumedHere sc.deployMap rack.text wire)
    (hsource : sourceRack sc.deployMap rack.text wire = source.text)
    (hbus : (subscriptionOf sc rack.text wire).onLane = false) :
    emitsToBus sc.deployMap source.text wire := by
  have hemits := @emitsHere_sourceRack sc wire rack.text
  rw [hsource] at hemits
  refine ⟨hemits, ?_⟩
  by_cases hlane : wire.lane = laneGuaranteed
  · exact Or.inl hlane
  · right
    have hother : source.text ≠ rack.text := by
      intro hsame
      rw [subscriptionOf_onLane_iff.mpr ⟨hsource.trans hsame, hlane⟩] at hbus
      exact absurd hbus.symm Bool.false_ne_true
    have hpinned : sourcePinned sc.deployMap wire := by
      apply sourcePinned_of_sourceRack_ne
      rw [hsource]
      exact hother
    exact ⟨hpinned, consumerElsewhere_of_consumedHere hconsumed hother⟩

/-- A lane subscription on a consistent wire is on a Rack that runs the source. -/
lemma runsGear_of_onLane (hvalid : sc.Valid) (hwire : wire ∈ sc.wires)
    (hconsistent : SourceConsistent sc wire)
    (hlane : (subscriptionOf sc rack.text wire).onLane = true) :
    RunsGear sc rack wire.source.gear := by
  have hhere := (subscriptionOf_onLane_iff.mp hlane).1
  rw [runsGear_source_iff hvalid hwire]
  by_cases hdeploy : deployed sc.deployMap wire.source.gear = []
  · exact Or.inl hdeploy
  · right
    rw [sourceRack, firstNonEmpty_cons, firstNonEmpty_cons, if_neg hdeploy] at hhere
    rcases hconsistent with hnone | hunpinned | hsame
    · rw [if_pos hnone] at hhere
      exact hhere
    · exact absurd hunpinned hdeploy
    · rw [hsame, if_neg hdeploy] at hhere
      exact hhere

lemma Deployment.mem_subscriptions (hvalid : sc.Valid)
    (plan : Deployment sc) {rack : RackName} (hrack : rack ∈ plan.racks)
    {subscription : Subscription} :
    subscription ∈ (plan.activation rack).subscriptions ↔
      ∃ wire ∈ sc.wires, consumedHere sc.deployMap rack.text wire ∧
        subscription = subscriptionOf sc rack.text wire := by
  rw [applyScenario_ok hvalid (plan.activated rack hrack)]
  simp only [List.mem_map, List.mem_filter, decide_eq_true_eq, and_assoc, @eq_comm _ subscription]

lemma Deployment.busSubjects_eq (hvalid : sc.Valid)
    (plan : Deployment sc) {rack : RackName} (hrack : rack ∈ plan.racks) :
    (plan.activation rack).busSubjects = busEmitSubjects sc rack.text sc.deployMap := by
  rw [applyScenario_ok hvalid (plan.activated rack hrack)]

lemma wireUpAll_ported (sc : Scenario) (rack : Text) (wires : List WireSpec) :
    ∃ subscriptions, wireUpAll (fun _ => true) sc rack wires = .ok subscriptions := by
  induction wires with
  | nil => exact ⟨[], rfl⟩
  | cons wire _ ih =>
    obtain ⟨others, hothers⟩ := ih
    have hwire : ∃ made, wireUp (fun _ => true) sc rack wire = .ok made := by
      rw [wireUp]
      split
      · exact ⟨none, rfl⟩
      · split
        · exact ⟨none, rfl⟩
        · exact ⟨_, rfl⟩
    obtain ⟨made, hmade⟩ := hwire
    refine ⟨made.toList ++ others, ?_⟩
    rw [wireUpAll, hmade, hothers]
    rfl

/-- With gears that take named inputs a scenario can be activated. -/
lemma exists_applyScenario (sc : Scenario) (rack : Text) :
    ∃ activation, applyScenario (fun _ => true) sc rack = .ok activation := by
  obtain ⟨subscriptions, hsubscriptions⟩ := wireUpAll_ported sc rack sc.wires
  rw [applyScenario, hsubscriptions]
  exact ⟨_, rfl⟩

lemma exists_deployment (sc : Scenario) (racks : List RackName) :
    ∃ plan : Deployment sc, plan.racks = racks := by
  choose activation hactivation using fun rack : RackName =>
    exists_applyScenario sc rack.text
  exact ⟨⟨racks, fun _ _ => true, activation, fun rack _ => hactivation rack⟩, rfl⟩

/-- On consistent wires the two sides agree. -/
lemma agrees_of_consistent (hvalid : sc.Valid)
    (hconsistent : ∀ wire ∈ sc.wires, Consumable sc wire →
      SourceConsistent sc wire) (plan : Deployment sc) :
    plan.Agrees where
  bus := by
    intro rack hrack subscription hmem hbus source hsource hother hfeeds
    rw [plan.mem_subscriptions hvalid hrack] at hmem
    obtain ⟨wire, hwire, hconsumed, heq⟩ := hmem
    subst heq
    have hfrom := sourceRack_of_feeds hvalid hwire
      (hconsistent wire hwire (consumable_of_consumedHere hconsumed)) hfeeds
    rw [plan.busSubjects_eq hvalid hsource, mem_busEmitSubjects]
    refine ⟨wire, hwire, emitsToBus_of_not_onLane hconsumed hfrom hbus, ?_⟩
    rw [subscriptionOf, hfrom]
  lane := by
    intro rack hrack subscription hmem hlane
    rw [plan.mem_subscriptions hvalid hrack] at hmem
    obtain ⟨wire, hwire, hconsumed, heq⟩ := hmem
    subst heq
    exact runsGear_of_onLane hvalid hwire
      (hconsistent wire hwire (consumable_of_consumedHere hconsumed)) hlane
  path := by
    intro wire hwire rack hrack haddresses source hsource hfeeds
    rw [addresses_iff hvalid hwire] at haddresses
    have hfrom := sourceRack_of_feeds hvalid hwire
      (hconsistent wire hwire (consumable_of_consumedHere haddresses)) hfeeds
    constructor
    · refine ⟨subscriptionOf sc rack.text wire, ?_, rfl⟩
      rw [plan.mem_subscriptions hvalid hrack]
      exact ⟨wire, hwire, haddresses, rfl⟩
    · intro subscription hmem hsame
      rw [plan.mem_subscriptions hvalid hrack] at hmem
      obtain ⟨other, hother, hconsumed, heq⟩ := hmem
      have hwires : other = wire := by
        rw [← hsame, heq]
        rfl
      subst hwires heq
      have hsubject : (subscriptionOf sc rack.text other).subject = emitted source other := by
        rw [subscriptionOf, emitted, hfrom]
      by_cases hlane : (subscriptionOf sc rack.text other).onLane = true
      · left
        have hhere := hfrom.symm.trans (subscriptionOf_onLane_iff.mp hlane).1
        refine ⟨⟨hlane, hhere, hsubject⟩, ?_⟩
        intro hbus
        rw [hbus.1] at hlane
        exact absurd hlane Bool.false_ne_true
      · right
        rw [Bool.not_eq_true] at hlane
        constructor
        · refine ⟨hlane, ?_, hsubject⟩
          rw [plan.busSubjects_eq hvalid hsource, mem_busEmitSubjects]
          exact ⟨other, hother, emitsToBus_of_not_onLane hconsumed hfrom hlane, rfl⟩
        · intro hpath
          rw [hpath.1] at hlane
          exact absurd hlane.symm Bool.false_ne_true

/-- A Rack on which a consumable wire has its consumer. -/
lemma exists_consumer {wire : WireSpec} (hconsumable : Consumable sc wire) (other : RackName) :
    ∃ rack : RackName, consumedHere sc.deployMap rack.text wire := by
  by_cases hdeploy : deployed sc.deployMap wire.target.gear = []
  · by_cases hrack : wire.target.rack = []
    · exact ⟨other, Or.inl hrack, Or.inl hdeploy⟩
    · exact ⟨⟨_, hrack⟩, Or.inr rfl, Or.inl hdeploy⟩
  · refine ⟨⟨_, hdeploy⟩, ?_, Or.inr rfl⟩
    rcases hconsumable with hnone | hunpinned | hsame
    · exact Or.inl hnone
    · exact absurd hunpinned hdeploy
    · exact Or.inr hsame

/-- Publishers and subscribers agree on every deployment of a validated scenario
exactly when no source endpoint of a wire with a consumer names another Rack than
the one its gear is deployed on. -/
theorem deployments_agree_iff (hvalidate : sc.validate = .ok ()) :
    (∀ plan : Deployment sc, plan.Agrees) ↔
      ∀ wire ∈ sc.wires, Consumable sc wire → SourceConsistent sc wire := by
  have hvalid := validate_ok hvalidate
  constructor
  · intro hagrees wire hwire hconsumable
    by_contra hinconsistent
    simp only [SourceConsistent, not_or] at hinconsistent
    obtain ⟨hnamed, hdeploy, hdiffer⟩ := hinconsistent
    -- the gear runs on `home`, and the endpoint names another Rack
    have hhome : ∃ home : RackName, home.text = deployed sc.deployMap wire.source.gear :=
      ⟨⟨_, hdeploy⟩, rfl⟩
    obtain ⟨home, hhome⟩ := hhome
    obtain ⟨rack, hconsumed⟩ := exists_consumer hconsumable home
    obtain ⟨plan, hracks⟩ := exists_deployment sc [rack, home]
    have hrack : rack ∈ plan.racks := by simp [hracks]
    have hfeeds : Feeds sc wire home rack :=
      ⟨(runsGear_source_iff hvalid hwire).mpr (Or.inr hhome.symm),
        fun hunpinned => absurd hunpinned hdeploy⟩
    obtain ⟨⟨subscription, hmem, hsame⟩, hpath⟩ := (hagrees plan).path wire hwire
      rack hrack ((addresses_iff hvalid hwire).mpr hconsumed) home (by simp [hracks]) hfeeds
    have hsubject : subscription.subject = emitted home wire := by
      rcases hpath subscription hmem hsame with ⟨hlane, _⟩ | ⟨hbus, _⟩
      · rw [hlane.2.2, hsame]
      · rw [hbus.2.2, hsame]
    rw [plan.mem_subscriptions hvalid hrack] at hmem
    obtain ⟨other, _, _, heq⟩ := hmem
    have hwires : other = wire := by
      rw [← hsame, heq]
      rfl
    subst hwires heq
    have hrackEq := List.append_cancel_right (List.append_cancel_left hsubject)
    apply hdiffer
    rw [← hhome, ← hrackEq]
    simp only [sourceRack, firstNonEmpty_cons, if_neg hnamed]
  · intro hconsistent
    exact agrees_of_consistent hvalid hconsistent

end

def rackOne : RackName := ⟨utf8 "r1", by decide⟩
def rackTwo : RackName := ⟨utf8 "r2", by decide⟩

/-- A source on `r2`, its consumer on `r1`, and one wire from the given endpoint. -/
def crossing (fromRef : Text) : Scenario where
  version := utf8 "1"
  racks := [⟨utf8 "r1", [], [], none⟩, ⟨utf8 "r2", [], [], none⟩]
  gears := [⟨utf8 "g", utf8 "io", .target (utf8 "r2"), []⟩,
    ⟨utf8 "h", utf8 "io", .target (utf8 "r1"), []⟩]
  wires := [⟨fromRef, utf8 "h.in", []⟩]

theorem crossing_agrees : (crossing (utf8 "g.out")).validate = .ok () ∧
      ∀ plan : Deployment (crossing (utf8 "g.out")), plan.Agrees :=
  ⟨rfl, (deployments_agree_iff rfl).mpr (by decide)⟩

/-- The endpoint `r1.g.out` of a gear on `r2`: the consumer listens to the lane of
`r1`, which does not run the gear, and `r2` publishes nothing. -/
def misplacedSource : Deployment (crossing (utf8 "r1.g.out")) where
  racks := [rackOne, rackTwo]
  ported _ _ := false
  activation rack :=
    { rack := rack.text
      busSubjects := []
      subscriptions :=
        if rack.text = utf8 "r1" then
          [⟨⟨utf8 "r1.g.out", utf8 "h.in", []⟩, utf8 "flux.msg.r1.g.out", true⟩]
        else []
      feeds := [] }
  activated := by
    intro rack hrack
    rw [List.mem_pair] at hrack
    rcases hrack with rfl | rfl <;> rfl

theorem misplacedSource_disagrees :
    (crossing (utf8 "r1.g.out")).validate = .ok () ∧ ¬ misplacedSource.Agrees := by
  refine ⟨rfl, ?_⟩
  intro hagrees
  have hruns := hagrees.lane rackOne List.mem_cons_self _ List.mem_cons_self rfl
  exact absurd hruns (by unfold RunsGear; decide)

end Fluxrig.Runtime
