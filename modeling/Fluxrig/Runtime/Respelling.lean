import Fluxrig.Core.Related
import Fluxrig.Registry.Endpoint
import Fluxrig.Runtime.Bindings

/-!
# Respelled endpoints

`gear.port` and `rack.gear.port`, with the Rack the gear is deployed on, name the
same port.  The walk finds the default output of a gear only under its short
spelling, so the binding of a port depends on the spelling exactly when some
spelling lets its walk arrive through a gear that has both.
-/

namespace Fluxrig.Runtime

open Fluxrig.Core Message Registry

/-- The same port, with or without the Rack its gear is deployed on. -/
structure RespelledRef (gearDeploy : List (Text × Text)) (ref other : PortRef) : Prop where
  gear_eq : other.gear = ref.gear
  port_eq : other.port = ref.port
  rack : other.rack = ref.rack ∨
    ((ref.rack = [] ∨ ref.rack = deployed gearDeploy ref.gear) ∧
      (other.rack = [] ∨ other.rack = deployed gearDeploy ref.gear))

structure RespelledWire (gearDeploy : List (Text × Text)) (wire other : WireSpec) : Prop where
  source : RespelledRef gearDeploy wire.source other.source
  target : RespelledRef gearDeploy wire.target other.target
  source_valid : isValidPortRef other.fromRef = true
  target_valid : isValidPortRef other.toRef = true
  lane_eq : other.lane = wire.lane

/-- Any endpoints of the wires are respelled, and nothing else changes. -/
structure Respelling (sc other : Scenario) : Prop where
  version_eq : other.version = sc.version
  racks_eq : other.racks = sc.racks
  gears_eq : other.gears = sc.gears
  wires : List.Forall₂ (RespelledWire sc.deployMap) sc.wires other.wires

/-- The endpoints of all wires are accepted texts. -/
def Spelled (sc : Scenario) : Prop :=
  ∀ wire ∈ sc.wires, isValidPortRef wire.fromRef = true ∧ isValidPortRef wire.toRef = true

lemma spelled_of_valid {sc : Scenario} (hvalid : sc.Valid) : Spelled sc := fun wire hwire =>
    ⟨(hvalid.wires_valid wire hwire).source_valid, (hvalid.wires_valid wire hwire).target_valid⟩

section

variable {gearDeploy : List (Text × Text)}

lemma RespelledRef.refl (ref : PortRef) : RespelledRef gearDeploy ref ref :=
  ⟨rfl, rfl, Or.inl rfl⟩

lemma RespelledRef.trans {ref middle other : PortRef}
    (hfirst : RespelledRef gearDeploy ref middle)
    (hsecond : RespelledRef gearDeploy middle other) : RespelledRef gearDeploy ref other := by
  refine ⟨hsecond.gear_eq.trans hfirst.gear_eq, hsecond.port_eq.trans hfirst.port_eq, ?_⟩
  have hrack := hsecond.rack
  rw [hfirst.gear_eq] at hrack
  rcases hfirst.rack with hsame | ⟨hleft, hmiddle⟩
  · rw [hsame] at hrack
    exact hrack
  · rcases hrack with hsame | ⟨_, hright⟩
    · rw [hsame]
      exact Or.inr ⟨hleft, hmiddle⟩
    · exact Or.inr ⟨hleft, hright⟩

lemma RespelledRef.symm {ref other : PortRef} (hrespelled : RespelledRef gearDeploy ref other) :
    RespelledRef gearDeploy other ref := by
  refine ⟨hrespelled.gear_eq.symm, hrespelled.port_eq.symm, ?_⟩
  rw [hrespelled.gear_eq]
  exact hrespelled.rack.imp Eq.symm And.symm

lemma RespelledWire.refl {wire : WireSpec} (hsource : isValidPortRef wire.fromRef = true)
    (htarget : isValidPortRef wire.toRef = true) : RespelledWire gearDeploy wire wire :=
  ⟨.refl _, .refl _, hsource, htarget, rfl⟩

lemma RespelledWire.trans {wire middle other : WireSpec}
    (hfirst : RespelledWire gearDeploy wire middle)
    (hsecond : RespelledWire gearDeploy middle other) :
    RespelledWire gearDeploy wire other :=
  ⟨hfirst.source.trans hsecond.source, hfirst.target.trans hsecond.target,
    hsecond.source_valid, hsecond.target_valid, hsecond.lane_eq.trans hfirst.lane_eq⟩

end

section

variable {sc other : Scenario}

lemma Respelling.refl (hspelled : Spelled sc) : Respelling sc sc :=
  ⟨rfl, rfl, rfl, List.forall₂_same.mpr fun wire hwire =>
    .refl (hspelled wire hwire).1 (hspelled wire hwire).2⟩

lemma Respelling.deployMap_eq (hrespelling : Respelling sc other) :
    other.deployMap = sc.deployMap := by
  rw [Scenario.deployMap, Scenario.deployMap, hrespelling.gears_eq]

lemma Respelling.trans {third : Scenario} (hfirst : Respelling sc other)
    (hsecond : Respelling other third) : Respelling sc third := by
  have hwires := hsecond.wires
  rw [hfirst.deployMap_eq] at hwires
  refine ⟨hsecond.version_eq.trans hfirst.version_eq,
    hsecond.racks_eq.trans hfirst.racks_eq, hsecond.gears_eq.trans hfirst.gears_eq, ?_⟩
  apply forall₂_trans _ hfirst.wires hwires
  intro wire middle respelled hleft hright
  exact hleft.trans hright

lemma Respelling.spelled (hrespelling : Respelling sc other) : Spelled other := by
  intro wire hwire
  obtain ⟨_, _, hrespelled⟩ := forall₂_mem_right hrespelling.wires hwire
  exact ⟨hrespelled.source_valid, hrespelled.target_valid⟩

end

variable (sc : Scenario)

/-- The gear has a long spelling. -/
def Respellable (gear : Text) : Prop :=
  isValidName (deployed sc.deployMap gear) = true

/-- A wire from the default output of a gear, in either spelling. -/
def DefaultOutput (gear : Text) (wire : WireSpec) : Prop :=
  wire.source.gear = gear ∧ wire.source.port = outPort ∧
    (wire.source.rack = [] ∨ wire.source.rack = deployed sc.deployMap gear)

instance (gear : Text) (wire : WireSpec) : Decidable (DefaultOutput sc gear wire) :=
  inferInstanceAs (Decidable (_ ∧ _))

/-- Some spelling lets the walk go from one gear to the next.  Among the wires of a
gear with two spellings any one can be the only short one; the wires of another gear
stay as they are. -/
def Follows (gear after : Text) : Prop :=
  (Respellable sc gear ∧
      ∃ wire ∈ sc.wires, DefaultOutput sc gear wire ∧ wire.target.gear = after) ∨
    (¬ Respellable sc gear ∧ nextGear sc gear = some after)

/-- The short spelling of the default output. -/
def shortOut (gear : Text) : PortRef := ⟨[], gear, outPort⟩

lemma isValidName_outPort : isValidName outPort = true := by decide

lemma shortOut_valid {gear : Text} (hgear : isValidName gear = true) : (shortOut gear).Valid :=
  ⟨Or.inl rfl, hgear, isValidName_outPort⟩

section

variable {sc other : Scenario} {gear : Text} {wire spelled : WireSpec}

/-- The lookup by text finds the wires with the short spelling. -/
lemma nextGear_eq (hspelled : Spelled sc) (hgear : isValidName gear = true) : nextGear sc gear =
      only ((sc.wires.filter fun wire => wire.source = shortOut gear).map
        fun wire => wire.target.gear) := by
  have hfilter : (sc.wires.filter fun wire => wire.fromRef = gear ++ 46 :: outPort) =
      sc.wires.filter fun wire => wire.source = shortOut gear := by
    apply List.filter_congr
    intro wire hwire
    rw [decide_eq_decide]
    exact eq_render_iff (hspelled wire hwire).1 (shortOut_valid hgear)
  rw [nextGear, wiresFrom, hfilter, List.map_map]
  rfl

lemma defaultOutput_of_source (hsource : wire.source = shortOut gear) :
    DefaultOutput sc gear wire := by
  rw [DefaultOutput, hsource]
  exact ⟨rfl, rfl, Or.inl rfl⟩

lemma DefaultOutput.source_eq (hdefault : DefaultOutput sc gear wire)
    (hrack : wire.source.rack = []) : wire.source = shortOut gear :=
  PortRef.mk.injEq .. |>.mpr ⟨hrack, hdefault.1, hdefault.2.1⟩

/-- Respelled, the wire still leaves the default output. -/
lemma DefaultOutput.respelled (hdefault : DefaultOutput sc gear wire)
    (hsource : RespelledRef sc.deployMap wire.source spelled.source) :
    DefaultOutput sc gear spelled := by
  refine ⟨hsource.gear_eq.trans hdefault.1, hsource.port_eq.trans hdefault.2.1, ?_⟩
  rcases hsource.rack with hsame | ⟨_, hright⟩
  · rw [hsame]
    exact hdefault.2.2
  · rw [hdefault.1] at hright
    exact hright

lemma only_eq_some_iff {Item : Type*} {items : List Item} {item : Item} :
    only items = some item ↔ items = [item] := by
  rcases items with _ | ⟨head, _ | ⟨_, _⟩⟩
  · exact ⟨nofun, nofun⟩
  · simp [only]
  · exact ⟨nofun, nofun⟩

lemma exists_of_nextGear (hspelled : Spelled sc) (hgear : isValidName gear = true)
    {after : Text} (hnext : nextGear sc gear = some after) :
    ∃ wire ∈ sc.wires, wire.source = shortOut gear ∧ wire.target.gear = after := by
  rw [nextGear_eq hspelled hgear, only_eq_some_iff] at hnext
  have hmem : after ∈ (sc.wires.filter fun wire => wire.source = shortOut gear).map
      fun wire => wire.target.gear := by
    rw [hnext]
    exact List.mem_singleton_self after
  obtain ⟨wire, hwire, htarget⟩ := List.mem_map.mp hmem
  rw [List.mem_filter, decide_eq_true_eq] at hwire
  exact ⟨wire, hwire.1, hwire.2, htarget⟩

/-- The short spelling of a gear without a long one stays. -/
lemma source_shortOut (hsource : RespelledRef sc.deployMap wire.source spelled.source)
    (hvalid : isValidPortRef spelled.fromRef = true) (hgear : ¬ Respellable sc gear)
    (heq : wire.source = shortOut gear) : spelled.source = shortOut gear := by
  have hdefault := (defaultOutput_of_source heq).respelled hsource
  apply hdefault.source_eq
  rcases hdefault.2.2 with hnil | hhome
  · exact hnil
  -- the Rack that the endpoint may name is no name
  rcases (splitPortRef_valid hvalid).1.rack with hnil | hname
  · exact hnil
  · rw [← WireSpec.source, hhome] at hname
    exact absurd hname hgear

/-- Only the short default outputs of a gear matter to where it leads. -/
lemma nextGear_congr {relation : WireSpec → WireSpec → Prop} (hspelled : Spelled sc)
    (hother : Spelled other) (hname : isValidName gear = true)
    (hwires : List.Forall₂ relation sc.wires other.wires)
    (htargets : ∀ {wire respelled}, relation wire respelled →
      wire.target.gear = respelled.target.gear)
    (hsources : ∀ wire ∈ sc.wires, ∀ respelled, relation wire respelled →
      (wire.source = shortOut gear ↔ respelled.source = shortOut gear)) :
    nextGear other gear = nextGear sc gear := by
  rw [nextGear_eq hspelled hname, nextGear_eq hother hname]
  congr 1
  symm
  refine map_eq_of_forall₂ htargets (forall₂_filter hwires ?_)
  intro wire hwire respelled hrespelled
  rw [decide_eq_decide]
  exact hsources wire hwire respelled hrespelled

/-- A gear without a long spelling leads where it led. -/
lemma nextGear_respelling (hspelled : Spelled sc)
    (hrespelling : Respelling sc other) (hname : isValidName gear = true)
    (hgear : ¬ Respellable sc gear) : nextGear other gear = nextGear sc gear := by
  apply nextGear_congr hspelled hrespelling.spelled hname hrespelling.wires
  · exact fun hrespelled => hrespelled.target.gear_eq.symm
  · intro wire hwire respelled hrespelled
    exact ⟨source_shortOut hrespelled.source hrespelled.source_valid hgear,
      source_shortOut hrespelled.source.symm (hspelled wire hwire).1 hgear⟩

/-- What a respelled scenario leads to, some spelling leads to. -/
lemma follows_of_nextGear (hspelled : Spelled sc)
    (hrespelling : Respelling sc other) (hname : isValidName gear = true)
    {after : Text} (hnext : nextGear other gear = some after) :
    Follows sc gear after := by
  by_cases hgear : Respellable sc gear
  · left
    refine ⟨hgear, ?_⟩
    obtain ⟨respelled, hmem, hsource, htarget⟩ :=
      exists_of_nextGear hrespelling.spelled hname hnext
    obtain ⟨wire, hwire, hrespelled⟩ := forall₂_mem_right hrespelling.wires hmem
    have hdefault := (defaultOutput_of_source hsource).respelled hrespelled.source.symm
    refine ⟨wire, hwire, hdefault, ?_⟩
    rw [← htarget, hrespelled.target.gear_eq]
  · right
    rw [← nextGear_respelling hspelled hrespelling hname hgear]
    exact ⟨hgear, hnext⟩

end

/-- The wire with another Rack in its source endpoint. -/
def respellSource (rack : Text) (wire : WireSpec) : WireSpec :=
  { wire with fromRef := PortRef.render { wire.source with rack := rack } }

/-- The long spelling of the default output of a gear; other wires are left alone. -/
def spellLong (sc : Scenario) (gear : Text) (wire : WireSpec) : WireSpec :=
  if DefaultOutput sc gear wire then
    respellSource (deployed sc.deployMap gear) wire
  else wire

section

variable {sc : Scenario} {gear : Text} {wire : WireSpec}

lemma respellSource_source {rack : Text} (hvalid : isValidPortRef wire.fromRef = true)
    (hrack : rack = [] ∨ isValidName rack = true) :
    (respellSource rack wire).source = { wire.source with rack := rack } ∧
      isValidPortRef (respellSource rack wire).fromRef = true := by
  have hparts := (splitPortRef_valid hvalid).1
  exact splitPortRef_render ⟨hrack, hparts.gear, hparts.port⟩

/-- The default output may be spelled either way. -/
lemma respelledWire_respellSource {rack : Text}
    (hspelled : isValidPortRef wire.fromRef = true ∧ isValidPortRef wire.toRef = true)
    (hdefault : DefaultOutput sc gear wire)
    (hrack : rack = [] ∨ isValidName rack = true)
    (hhome : rack = [] ∨ rack = deployed sc.deployMap gear) :
    RespelledWire sc.deployMap wire (respellSource rack wire) := by
  obtain ⟨hsource, hvalid⟩ := respellSource_source hspelled.1 hrack
  refine ⟨?_, .refl _, hvalid, hspelled.2, rfl⟩
  rw [hsource]
  refine ⟨rfl, rfl, Or.inr ?_⟩
  rw [hdefault.1]
  exact ⟨hdefault.2.2, hhome⟩

/-- The wire as it is, or a default output of the gear in one of its spellings. -/
def SpelledAt (sc : Scenario) (gear : Text) (wire respelled : WireSpec) : Prop :=
  respelled = wire ∨ DefaultOutput sc gear wire ∧
    ∃ rack, (rack = [] ∨ rack = deployed sc.deployMap gear) ∧ respelled = respellSource rack wire

lemma spelledAt_spellLong (wire : WireSpec) :
    SpelledAt sc gear wire (spellLong sc gear wire) := by
  rw [spellLong]
  split
  · rename_i hdefault
    exact Or.inr ⟨hdefault, _, Or.inr rfl, rfl⟩
  · exact Or.inl rfl

lemma spellLong_source_ne (hgear : Respellable sc gear)
    (hvalid : isValidPortRef wire.fromRef = true) :
    (spellLong sc gear wire).source ≠ shortOut gear := by
  rw [spellLong]
  split
  · rw [(respellSource_source hvalid (Or.inr hgear)).1]
    intro heq
    exact isValidName_ne_nil hgear (congrArg PortRef.rack heq)
  · rename_i hnot
    exact fun heq => hnot (defaultOutput_of_source heq)

lemma filter_spellLong (hgear : Respellable sc gear) {wires : List WireSpec}
    (hvalid : ∀ wire ∈ wires, isValidPortRef wire.fromRef = true) :
    ((wires.map (spellLong sc gear)).filter fun wire =>
      wire.source = shortOut gear) = [] := by
  rw [List.filter_eq_nil_iff]
  intro respelled hmem
  obtain ⟨wire, hwire, heq⟩ := List.mem_map.mp hmem
  rw [← heq, decide_eq_true_eq]
  exact spellLong_source_ne hgear (hvalid wire hwire)

section

variable (hspelled : Spelled sc)

include hspelled

/-- Spellings of the default outputs of one gear keep where the others lead. -/
lemma respelling_of_spelledAt (hgear : Respellable sc gear) {wires : List WireSpec}
    (hwires : List.Forall₂ (SpelledAt sc gear) sc.wires wires) :
    Respelling sc { sc with wires := wires } ∧
      ∀ another, isValidName another = true → another ≠ gear →
        nextGear { sc with wires := wires } another = nextGear sc another := by
  have hnames : ∀ rack, rack = [] ∨ rack = deployed sc.deployMap gear →
      rack = [] ∨ isValidName rack = true := by
    rintro rack (hnil | rfl)
    · exact Or.inl hnil
    · exact Or.inr hgear
  have hrespelling : Respelling sc { sc with wires := wires } := by
    refine ⟨rfl, rfl, rfl, ((List.forall₂_and_left _ _).mpr ⟨hspelled, hwires⟩).imp ?_⟩
    rintro wire respelled ⟨hvalid, rfl | ⟨hdefault, rack, hhome, rfl⟩⟩
    · exact .refl hvalid.1 hvalid.2
    · exact respelledWire_respellSource hvalid hdefault (hnames rack hhome) hhome
  refine ⟨hrespelling, ?_⟩
  intro another hanother hother
  apply nextGear_congr hspelled hrespelling.spelled hanother hwires
  · rintro wire respelled (rfl | ⟨_, rack, _, rfl⟩) <;> rfl
  rintro wire hwire respelled (rfl | ⟨hdefault, rack, hhome, rfl⟩)
  · exact Iff.rfl
  have hsource := (respellSource_source (hspelled wire hwire).1 (hnames rack hhome)).1
  constructor
  · exact fun heq => absurd ((congrArg PortRef.gear heq).symm.trans hdefault.1) hother
  · rw [hsource]
    exact fun heq => absurd ((congrArg PortRef.gear heq).symm.trans hdefault.1) hother

/-- One spelling leaves exactly one short default output of a gear, any of them. -/
lemma exists_single_output (hname : isValidName gear = true) (hgear : Respellable sc gear)
    (hwire : wire ∈ sc.wires) (hdefault : DefaultOutput sc gear wire) :
    ∃ other, Respelling sc other ∧ nextGear other gear = some wire.target.gear ∧
      ∀ another, isValidName another = true → another ≠ gear →
        nextGear other another = nextGear sc another := by
  obtain ⟨before, after, hwires⟩ := List.append_of_mem hwire
  have hvalid : ∀ each ∈ before ++ wire :: after, isValidPortRef each.fromRef = true :=
    fun each heach => (hspelled each (hwires ▸ heach)).1
  rw [List.forall_mem_append, List.forall_mem_cons] at hvalid
  have hshort : (respellSource [] wire).source = shortOut gear := by
    rw [(respellSource_source hvalid.2.1 (Or.inl rfl)).1]
    change (⟨[], wire.source.gear, wire.source.port⟩ : PortRef) = _
    rw [hdefault.1, hdefault.2.1]
    rfl
  have hlong : ∀ wires : List WireSpec,
      List.Forall₂ (SpelledAt sc gear) wires (wires.map (spellLong sc gear)) := by
    intro wires
    rw [List.forall₂_map_right_iff, List.forall₂_same]
    exact fun each _ => spelledAt_spellLong each
  have hspelling : List.Forall₂ (SpelledAt sc gear) sc.wires (before.map (spellLong sc gear) ++
        respellSource [] wire :: after.map (spellLong sc gear)) := by
    rw [hwires]
    apply List.rel_append (hlong before)
    exact .cons (Or.inr ⟨hdefault, [], Or.inl rfl, rfl⟩) (hlong after)
  obtain ⟨hrespelling, hothers⟩ := respelling_of_spelledAt hspelled hgear hspelling
  refine ⟨_, hrespelling, ?_, hothers⟩
  rw [nextGear_eq hrespelling.spelled hname]
  simp only [List.filter_append, List.filter_cons, filter_spellLong hgear hvalid.1,
    filter_spellLong hgear hvalid.2.2, hshort, decide_true, if_true, List.nil_append]
  rfl

/-- One spelling leaves no short default output of a gear. -/
lemma exists_no_output (hname : isValidName gear = true) (hgear : Respellable sc gear) :
    ∃ other, Respelling sc other ∧ nextGear other gear = none ∧
      ∀ another, isValidName another = true → another ≠ gear →
        nextGear other another = nextGear sc another := by
  have hspelling : List.Forall₂ (SpelledAt sc gear) sc.wires
      (sc.wires.map (spellLong sc gear)) := by
    rw [List.forall₂_map_right_iff, List.forall₂_same]
    exact fun each _ => spelledAt_spellLong each
  obtain ⟨hrespelling, hothers⟩ := respelling_of_spelledAt hspelled hgear hspelling
  refine ⟨_, hrespelling, ?_, hothers⟩
  rw [nextGear_eq hrespelling.spelled hname,
    filter_spellLong hgear fun each heach => (hspelled each heach).1]
  rfl

end

end

/-- Some spelling lets the walk from a gear arrive through a gear that has a long
spelling: a chain of at most `maxWalkDepth` different local transparent gears. -/
def Fragile (sc : Scenario) (rackName : Text) (terminusOf : Text → TerminusKind)
    (gear : Text) : Prop :=
  ∃ passed binding,
    Route (station sc rackName terminusOf) (Follows sc) gear passed binding ∧
      passed.Nodup ∧ passed.length ≤ maxWalkDepth ∧
      ∃ middle ∈ passed, Respellable sc middle

section

variable {sc other : Scenario} {rackName : Text} {terminusOf : Text → TerminusKind}
  {gear : Text} {passed : List Text} {binding : PortBinding}

lemma station_respelling (hrespelling : Respelling sc other) :
    station other rackName terminusOf = station sc rackName terminusOf := by
  funext gear
  rw [station, station, specOf, specOf, hrespelling.gears_eq, hrespelling.deployMap_eq]

lemma isValidName_of_passes (hvalid : sc.Valid)
    (hpasses : station sc rackName terminusOf gear = .passes) :
    isValidName gear = true := by
  obtain ⟨spec, hspec, hname⟩ := List.mem_map.mp (mem_names_of_passes hpasses)
  rw [← hname]
  exact hvalid.names_valid spec hspec

/-- A path that some spellings allow step by step is the path of one spelling. -/
lemma exists_spelling (hvalid : sc.Valid)
    (hroute : Route (station sc rackName terminusOf) (Follows sc) gear passed
      binding) (hnodup : passed.Nodup) :
    ∃ other, Respelling sc other ∧ Route (station sc rackName terminusOf)
        (fun here after => nextGear other here = some after) gear passed binding := by
  have hspelled := spelled_of_valid hvalid
  induction hroute with
  | arrive hends => exact ⟨sc, .refl hspelled, .arrive hends⟩
  | @pass node after rest binding hpasses hfollows _ ih =>
    rw [List.nodup_cons] at hnodup
    obtain ⟨middle, hmiddle, hrest⟩ := ih hnodup.2
    have hname := isValidName_of_passes hvalid hpasses
    rcases hfollows with ⟨hnode, wire, hwire, hdefault, htarget⟩ | ⟨hnode, hnext⟩
    · -- spell the wires of `node` so that the chosen one is the only short one
      obtain ⟨chosen, hchosen, hrespelled⟩ := forall₂_mem_right hmiddle.wires.flip hwire
      have hdeploy := hmiddle.deployMap_eq
      have hchosenDefault : DefaultOutput middle node chosen := by
        rw [DefaultOutput, hdeploy]
        exact hdefault.respelled hrespelled.source
      have hnodeMiddle : Respellable middle node := by
        rw [Respellable, hdeploy]
        exact hnode
      obtain ⟨final, hfinal, hnext, hothers⟩ := exists_single_output hmiddle.spelled hname
        hnodeMiddle hchosen hchosenDefault
      rw [hrespelled.target.gear_eq, htarget] at hnext
      refine ⟨final, hmiddle.trans hfinal, .pass hpasses hnext (hrest.mono ?_)⟩
      intro here hhere next hedge
      rw [hothers here (isValidName_of_passes hvalid (hrest.passes here hhere))
        fun heq => hnodup.1 (heq ▸ hhere)]
      exact hedge
    · refine ⟨middle, hmiddle, .pass hpasses ?_ hrest⟩
      rw [nextGear_respelling hspelled hmiddle hname hnode]
      exact hnext

/-- Without a fragile path the walks of all spellings arrive alike. -/
lemma follow_of_not_fragile (hvalid : sc.Valid) {left right : Scenario}
    (hleft : Respelling sc left) (hright : Respelling sc right)
    (hsturdy : ¬ Fragile sc rackName terminusOf gear)
    (hfollow : follow (station sc rackName terminusOf) (nextGear left)
      (maxWalkDepth + 1) gear = some binding) :
    follow (station sc rackName terminusOf) (nextGear right)
      (maxWalkDepth + 1) gear = some binding := by
  have hspelled := spelled_of_valid hvalid
  obtain ⟨passed, hroute, hlt⟩ := follow_eq_some_iff.mp hfollow
  have hnames : ∀ here ∈ passed, isValidName here = true :=
    fun here hhere => isValidName_of_passes hvalid (hroute.passes here hhere)
  have hfixed : ∀ here ∈ passed, ¬ Respellable sc here := by
    intro here hhere hrespellable
    apply hsturdy
    refine ⟨passed, binding, hroute.mono ?_, hroute.nodup, Nat.le_of_lt_succ hlt,
      here, hhere, hrespellable⟩
    intro middle hmiddle after hnext
    exact follows_of_nextGear hspelled hleft (hnames middle hmiddle) hnext
  refine follow_eq_some_iff.mpr ⟨passed, hroute.mono ?_, hlt⟩
  intro here hhere after hnext
  rw [nextGear_respelling hspelled hright (hnames here hhere) (hfixed here hhere)]
  rw [nextGear_respelling hspelled hleft (hnames here hhere) (hfixed here hhere)] at hnext
  exact hnext

/-- The wires of a port are those of the other spelling. -/
lemma portWires_respelling (hrespelling : Respelling sc other) (gear port : Text) :
    List.Forall₂ (RespelledWire sc.deployMap) (portWires sc rackName gear port)
      (portWires other rackName gear port) := by
  apply forall₂_filter hrespelling.wires
  intro wire _ respelled hrespelled
  rw [decide_eq_decide]
  simp only [boundHere, hrespelling.deployMap_eq, hrespelled.source.gear_eq,
    hrespelled.source.port_eq]

/-- The binding of a port with one wire, in any spelling. -/
lemma bindingOf_single (hrespelling : Respelling sc other) {port : Text}
    {wire : WireSpec} (hwires : portWires sc rackName gear port = [wire]) :
    (computeBindings other rackName terminusOf).lookup (gear, port) =
      some ((follow (station sc rackName terminusOf) (nextGear other)
        (maxWalkDepth + 1) wire.target.gear).getD .unbound) := by
  have hrelated := @portWires_respelling sc other rackName hrespelling gear port
  rw [hwires] at hrelated
  rw [lookup_computeBindings]
  generalize portWires other rackName gear port = wires at hrelated
  cases hrelated with
  | cons hrespelled hnil =>
    cases hnil
    rw [bindingOf, walk_eq_follow, station_respelling hrespelling]
    rw [← hrespelled.target.gear_eq]
    rfl

/-- The bindings of a validated scenario do not depend on the spelling of its
endpoints exactly when no output port with a single wire leads to a fragile path. -/
theorem bindings_respelled_iff (hvalidate : sc.validate = .ok ()) (rackName : Text)
    (terminusOf : Text → TerminusKind) :
    (∀ other, Respelling sc other → ∀ gear port,
        (computeBindings other rackName terminusOf).lookup (gear, port) =
          (computeBindings sc rackName terminusOf).lookup (gear, port)) ↔
      ∀ gear port wire, portWires sc rackName gear port = [wire] →
        ¬ Fragile sc rackName terminusOf wire.target.gear := by
  have hvalid := validate_ok hvalidate
  have hself := Respelling.refl (spelled_of_valid hvalid)
  constructor
  · intro hsame gear port wire hwires hfragile
    obtain ⟨passed, binding, hroute, hnodup, hlength, middle, hmem, hrespellable⟩ := hfragile
    -- one spelling binds the port, another one loses the way at `middle`
    obtain ⟨bound, hbound, hpath⟩ := exists_spelling hvalid hroute hnodup
    have hname := isValidName_of_passes hvalid (hroute.passes middle hmem)
    have hlong : Respellable bound middle := by
      rw [Respellable, hbound.deployMap_eq]
      exact hrespellable
    obtain ⟨lost, hlost, hnone, hothers⟩ := exists_no_output hbound.spelled hname hlong
    have harrives : follow (station sc rackName terminusOf) (nextGear bound)
        (maxWalkDepth + 1) wire.target.gear = some binding :=
      follow_eq_some_iff.mpr ⟨passed, hpath, Nat.lt_succ_of_le hlength⟩
    have hfails := hpath.follow_cut hmem hnone
      (fun here hhere => hothers here (isValidName_of_passes hvalid (hroute.passes here hhere)))
      (maxWalkDepth + 1)
    have hequal := (hsame bound hbound gear port).trans
      (hsame lost (hbound.trans hlost) gear port).symm
    rw [bindingOf_single hbound hwires, bindingOf_single (hbound.trans hlost) hwires, harrives,
      hfails] at hequal
    exact Route.result_ne_unbound hroute (Option.some.inj hequal)
  · intro hsturdy other hother gear port
    have hrelated := @portWires_respelling sc other rackName hother gear port
    rw [lookup_computeBindings, lookup_computeBindings]
    cases hwires : portWires sc rackName gear port with
    | nil =>
      rw [hwires] at hrelated
      rw [List.forall₂_nil_left_iff.mp hrelated]
      rfl
    | cons wire rest =>
      cases rest with
      | nil =>
        rw [← lookup_computeBindings, bindingOf_single hother hwires, ← hwires,
          ← lookup_computeBindings, bindingOf_single hself hwires]
        have hfollow : follow (station sc rackName terminusOf) (nextGear other)
            (maxWalkDepth + 1) wire.target.gear =
            follow (station sc rackName terminusOf) (nextGear sc)
              (maxWalkDepth + 1) wire.target.gear := by
          apply Option.ext
          intro binding
          exact ⟨follow_of_not_fragile hvalid hother hself (hsturdy gear port wire hwires),
            follow_of_not_fragile hvalid hself hother (hsturdy gear port wire hwires)⟩
        rw [hfollow]
      | cons =>
        rw [hwires] at hrelated
        generalize portWires other rackName gear port = respelled at hrelated
        cases hrelated with
        | cons _ hrest =>
          cases hrest
          rfl

end

/-- A source, a codec and an I/O gear on one Rack, with the given wires. -/
def codecChain (wires : List WireSpec) : Scenario where
  version := utf8 "1"
  racks := [⟨utf8 "r1", [], [], none⟩]
  gears := [⟨utf8 "a", utf8 "codec", .target (utf8 "r1"), []⟩,
    ⟨utf8 "c", utf8 "codec", .target (utf8 "r1"), []⟩,
    ⟨utf8 "b", utf8 "io", .target (utf8 "r1"), []⟩]
  wires := wires

def ioTypes (gearType : Text) : TerminusKind :=
  if gearType = utf8 "io" then .io else .transparent

/-- The I/O gear right behind the source. -/
def directWire : Scenario := codecChain [⟨utf8 "a.out", utf8 "b.in", []⟩]

/-- The codec in between, its output in either spelling. -/
def shortCodec : Scenario :=
  codecChain [⟨utf8 "a.out", utf8 "c.in", []⟩, ⟨utf8 "c.out", utf8 "b.in", []⟩]

def longCodec : Scenario :=
  codecChain [⟨utf8 "a.out", utf8 "c.in", []⟩, ⟨utf8 "r1.c.out", utf8 "b.in", []⟩]

theorem directWire_respelled :
    directWire.validate = .ok () ∧ ∀ other, Respelling directWire other → ∀ gear port,
      (computeBindings other (utf8 "r1") ioTypes).lookup (gear, port) =
        (computeBindings directWire (utf8 "r1") ioTypes).lookup (gear, port) := by
  refine ⟨rfl, (bindings_respelled_iff rfl (utf8 "r1") ioTypes).mpr ?_⟩
  intro gear port wire hwires hfragile
  have hwire : wire ∈ portWires directWire (utf8 "r1") gear port :=
    hwires ▸ List.mem_singleton_self wire
  rw [List.mem_singleton.mp (List.mem_filter.mp hwire).1] at hfragile
  obtain ⟨passed, binding, hroute, _, _, middle, hmem, _⟩ := hfragile
  cases hroute with
  | arrive => nomatch hmem
  | pass hpasses => nomatch hpasses

/-- Written with its Rack, the output of the codec is not found. -/
theorem longCodec_unbound : shortCodec.validate = .ok () ∧ longCodec.validate = .ok () ∧
      Respelling shortCodec longCodec ∧
      (computeBindings shortCodec (utf8 "r1") ioTypes).lookup (utf8 "a", utf8 "out") =
        some (.io (utf8 "b")) ∧
      (computeBindings longCodec (utf8 "r1") ioTypes).lookup (utf8 "a", utf8 "out") =
        some .unbound := by
  refine ⟨rfl, rfl, ⟨rfl, rfl, rfl, ?_⟩, rfl, rfl⟩
  refine .cons (.refl rfl rfl) (.cons ⟨⟨rfl, rfl, ?_⟩, .refl _, rfl, rfl, rfl⟩ .nil)
  exact Or.inr ⟨Or.inl rfl, Or.inr rfl⟩

end Fluxrig.Runtime
