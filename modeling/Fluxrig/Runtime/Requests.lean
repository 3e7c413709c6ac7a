import Fluxrig.Runtime.Custody

/-!
# Drain requests

A request for a drain starts one, or makes the running one go over the queue
once more.  Either way the queue is looked at as a whole after the request, at
the latest when the drain has taken a number of steps that its phase bounds, and
no emission is accepted from the outbox twice.
-/

namespace Fluxrig.Runtime

open Fluxrig.Core Message

/-- The emissions the bus accepted from a drain. -/
def Rack.drained (rack : Rack) : List ℕ :=
  (rack.sent.filter Sent.byDrain).map Sent.id

def Phase.publishing : Phase → Option Item
  | .publish _ item _ => some item
  | _ => none

def Phase.settling : Phase → Option Item
  | .settle _ item _ => some item
  | _ => none

/-- What a drain got accepted is on its way out and has left the queue, or the running drain
is about to take it out; what a drain publishes has not been accepted. -/
structure Once (rack : Rack) : Prop where
  nodup : rack.drained.Nodup
  known : ∀ id ∈ rack.drained, id < rack.emissions.length
  leaving : ∀ id ∈ rack.drained, ∀ emission, rack.emissions[id]? = some emission →
    emission.stage.leaving = true
  gone : ∀ item ∈ rack.outbox.items, item.id ∈ rack.drained → rack.outbox.draining = true ∧
    ∀ (index : ℕ) (drain : Drain), rack.drains[index]? = some drain → drain.running = true →
      drain.phase.settling.map Item.id = some item.id
  fresh : ∀ (index : ℕ) (drain : Drain) (item : Item), rack.drains[index]? = some drain →
    drain.phase.publishing = some item → item.id ∉ rack.drained

section

variable {cfg : OutboxSettings} {rack next : Rack}

lemma Once.kickDrain (honce : Once rack) : Once rack.kickDrain := by
  obtain ⟨hnodup, hknown, hleaving, hgone, hfresh⟩ := honce
  cases hdraining : rack.outbox.draining with
  | true =>
    rw [kickDrain_of_draining hdraining]
    exact ⟨hnodup, hknown, hleaving, hgone, hfresh⟩
  | false =>
    rw [kickDrain_of_idle hdraining]
    refine ⟨hnodup, hknown, hleaving, ?_, ?_⟩
    · grind [Rack.drained]
    · simp only [Rack.drained] at *
      grind [Phase.publishing]

variable {sent : Option Item} {box : Outbox}

lemma drained_turned {index : ℕ} {ended : Bool} {phase : Phase} :
    (rack.turned index ended sent phase box).drained =
      rack.drained ++ (sent.map Item.id).toList := by
  cases sent <;> simp [Rack.drained, Rack.turned]

lemma drained_append_direct (id : ℕ) (subject : Text)
    (hsent : next.sent = rack.sent ++ [⟨id, subject, false⟩]) :
    next.drained = rack.drained := by
  rw [Rack.drained, hsent, List.filter_append]
  exact congrArg (List.map Sent.id) (List.append_nil _)

@[simp]
lemma emissions_turned {index : ℕ} {ended : Bool} {phase : Phase} :
    (rack.turned index ended sent phase box).emissions = rack.emissions := rfl

lemma mem_remove {item other : Item} {dropped : Bool} (hnodup : (box.items.map Item.id).Nodup)
    (hmem : other ∈ (box.remove item dropped).items) : other ∈ box.items ∧ other.id ≠ item.id := by
  rw [remove_items] at hmem
  have hid := @List.mem_map_of_mem _ _ _ _ Item.id hmem
  rw [eraseP_same, hnodup.mem_erase_iff] at hid
  exact ⟨List.eraseP_sublist.mem hmem, hid.1⟩

variable {index : ℕ} {ended : Bool} {phase later : Phase} {item : Item} {box : Outbox}

/-- A turn after which nothing in the queue has been accepted. -/
lemma Once.quiet (honce : Once rack) (hqueue : ∀ item ∈ box.items, item.id ∉ rack.drained)
    (hlater : ∀ item, later.publishing = some item → item.id ∉ rack.drained) :
    Once (rack.turned index ended none later box) where
  nodup := by simpa [drained_turned] using honce.nodup
  known := by simpa [drained_turned] using honce.known
  leaving := by simpa [drained_turned] using honce.leaving
  gone item hmem hid := absurd (by simpa [drained_turned] using hid) (hqueue item hmem)
  fresh place drain item hdrain hpublishes := by
    simp only [drained_turned, Option.map_none, Option.toList_none, List.append_nil]
    rcases Config.getElem?_set_cases hdrain with ⟨_, hnew⟩ | ⟨_, hold⟩
    · rw [hnew] at hpublishes
      exact hlater item hpublishes
    · exact honce.fresh place drain item hold hpublishes

/-- While the running drain settles nothing, nothing in the queue has been accepted. -/
lemma Once.not_drained (honce : Once rack) (hdrain : rack.drains[index]? = some ⟨phase, ended⟩)
    (hruns : (Drain.mk phase ended).running = true) (hphase : phase.settling = none) :
    ∀ item ∈ rack.outbox.items, item.id ∉ rack.drained := by
  intro item hmem hid
  have hsettles := (honce.gone item hmem hid).2 index _ hdrain hruns
  rw [hphase] at hsettles
  nomatch hsettles

lemma Once.accept (honce : Once rack) (hcustody : Custody rack) {pass : Pass} {tries : ℕ}
    (hdrain : rack.drains[index]? = some ⟨.publish pass item tries, ended⟩) :
    Once (rack.turned index ended (some item) (.settle pass item false) rack.outbox) := by
  have hknown := honce.known
  have hfresh := honce.fresh index _ item hdrain rfl
  have hqueue := honce.not_drained hdrain rfl rfl
  have hlast := hcustody.single.last
  simp only [Rack.Runs] at hlast
  obtain ⟨emission, hemission, _, _, hleaving⟩ :=
    (hcustody.carried _ (List.mem_of_getElem? hdrain) item List.mem_cons_self).emitted
  constructor <;> simp only [drained_turned, Option.map_some, Option.toList_some]
  · grind [honce.nodup]
  · grind [emissions_turned]
  · grind [honce.leaving, emissions_turned]
  · grind [Rack.turned, Phase.settling, Drain.running]
  · grind [Rack.turned, Phase.publishing, Drain.running]

lemma Once.turned (honce : Once rack) (hcustody : Custody rack)
    (hdrain : rack.drains[index]? = some ⟨phase, ended⟩)
    (hturn : Turn cfg ended rack.outbox phase sent later box) :
    Once (rack.turned index ended sent later box) := by
  cases hturn with
  | accept => exact honce.accept hcustody hdrain
  | settle pass item dropped =>
    refine honce.quiet ?_ (by simp [Phase.publishing])
    intro other hmem hid
    obtain ⟨hqueued, hother⟩ := mem_remove hcustody.nodup hmem
    have hsettles := (honce.gone other hqueued hid).2 index _ hdrain rfl
    exact hother (Option.some.inj hsettles).symm
  | queued _ _ _ hholds =>
    have hqueue := honce.not_drained hdrain rfl rfl
    refine honce.quiet hqueue ?_
    grind [Phase.publishing, Outbox.holds, Item.same]
  | idle =>
    have hsame : rack.drains.set index ⟨.done, ended⟩ = rack.drains :=
      List.ext_getElem? (by grind)
    simpa [Rack.turned, hsame] using honce
  | _ => exact honce.quiet (honce.not_drained hdrain rfl rfl) (by simp [Phase.publishing])

lemma Once.move {step : Step} (hmove : Move cfg rack step next)
    (hcustody : Custody rack) (honce : Once rack) : Once next := by
  have hadvance : ∀ id emission stage, rack.emissions[id]? = some emission →
      (emission.stage.leaving = true → stage.leaving = true) →
      Once (rack.advance id emission stage) := by
    obtain ⟨hnodup, hknown, hleaving, hgone, hfresh⟩ := honce
    intro id emission stage hemission hstage
    refine ⟨hnodup, ?_, ?_, hgone, hfresh⟩
    · grind [Rack.advance, Rack.drained]
    · simp only [Rack.drained] at *
      grind [Rack.advance]
  cases hmove with
  | rest | absent | late => exact honce
  | call =>
    obtain ⟨hnodup, hknown, hleaving, hgone, hfresh⟩ := honce
    refine ⟨hnodup, ?_, ?_, hgone, hfresh⟩
    all_goals
      simp only [Rack.drained] at *
      grind [Rack.call]
  | advance hemission hadvances =>
    exact hadvance _ _ _ hemission (by simp [hadvances.not_leaving])
  | @enqueue id _ emission stage box hemission henqueues =>
    have hstays := henqueues.not_leaving
    obtain ⟨hnodup, hknown, hleaving, hgone, hfresh⟩ :=
      hadvance id emission stage hemission (by simp [hstays])
    obtain ⟨kept, hkept, hitems, _⟩ := henqueues.items_eq
    refine ⟨hnodup, hknown, hleaving, ?_, hfresh⟩
    intro item hmem hid
    rw [hitems, List.mem_append, List.mem_singleton] at hmem
    rcases hmem with hold | rfl
    · rw [henqueues.draining_eq]
      exact hgone item (hkept.mem hold) hid
    · have hnot := honce.leaving id hid emission hemission
      rw [hstays] at hnot
      exact absurd hnot Bool.false_ne_true
  | @accept id _ emission hemission hstage =>
    have hdrained := @drained_append_direct (rack.advance id emission .accepted)
      { rack.advance id emission .accepted with
        sent := rack.sent ++ [⟨id, emission.subject, false⟩] } id emission.subject rfl
    obtain ⟨hnodup, hknown, hleaving, hgone, hfresh⟩ :=
      hadvance id emission .accepted hemission (by simp [hstage, Stage.leaving])
    rw [← hdrained] at hnodup hknown hleaving hgone hfresh
    exact ⟨hnodup, hknown, hleaving, hgone, hfresh⟩
  | finish hemission => exact (hadvance _ _ _ hemission fun _ => rfl).kickDrain
  | kick => exact honce.kickDrain
  | turn hdrain hturn => exact honce.turned hcustody hdrain hturn
  | cancel hdrain =>
    obtain ⟨hnodup, hknown, hleaving, hgone, hfresh⟩ := honce
    refine ⟨hnodup, hknown, hleaving, ?_, ?_⟩
    all_goals
      simp only [Rack.drained] at *
      grind [Drain.running]

end

lemma drained_nodup (cfg : OutboxSettings) (steps : List Step) (time : ℕ) :
    (rackAt cfg steps time).drained.Nodup := by
  have hboth : Custody (rackAt cfg steps time) ∧ Once (rackAt cfg steps time) := by
    apply @rackAt_invariant cfg steps fun rack => Custody rack ∧ Once rack
    · exact ⟨custody_rackAt cfg [] 0, List.nodup_nil, nofun, nofun, nofun, nofun⟩
    · intro rack step next hmove ⟨hcustody, honce⟩
      exact ⟨hcustody.move hmove, honce.move hmove hcustody⟩
  exact hboth.2.nodup

/-- The step calls `beginDrain`. -/
def Rack.Requests (rack : Rack) (step : Step) : Prop :=
  step = .kick ∨ ∃ id answer emission ok, step = .proceed id answer ∧
    rack.emissions[id]? = some emission ∧ emission.stage = .kicking ok

/-- A drain takes a snapshot of the whole queue. -/
def Rack.Snapshots (rack next : Rack) : Prop :=
  ∃ (index : ℕ) (ended : Bool), rack.drains[index]? = some ⟨.snapshot, ended⟩ ∧
    next.drains[index]? = some ⟨.items ⟨rack.outbox.items, [], 0⟩, ended⟩

/-- After `early` and up to `late` a snapshot was taken, the queue was empty, or the
context of the running drain had ended. -/
inductive Served (cfg : OutboxSettings) (steps : List Step) (early late : ℕ) : Prop where
  | snapshot (time : ℕ) (hafter : early < time) (hbefore : time < late)
      (htaken : (rackAt cfg steps time).Snapshots (rackAt cfg steps (time + 1)))
  | empty (time : ℕ) (hafter : early < time) (hbefore : time ≤ late)
      (hempty : (rackAt cfg steps time).outbox.items = [])
  | ended (time index : ℕ) (phase : Phase) (hafter : early < time) (hbefore : time ≤ late)
      (hended : (rackAt cfg steps time).Runs index ⟨phase, true⟩)

def Step.isTurn (index : ℕ) : Step → Bool
  | .drain place _ => place = index
  | _ => false

/-- The steps that drain `index` takes from `early` on and before `late`. -/
def turns (steps : List Step) (index early late : ℕ) : ℕ :=
  ((steps.take late).drop early).countP (Step.isTurn index)

/-- A bound on the steps a drain takes before its next snapshot: at most
`retries + 1` rounds of a look at the context, a look at the queue and a publish for
each item of the pass. -/
def Phase.left (retries : ℕ) : Phase → ℕ
  | .done => 0
  | .stopping => 1
  | .snapshot => 1
  | .top => 2
  | .endPass => 3
  | .items pass => pass.rest.length * (3 * retries + 5) + 4
  | .attempt pass _ tries =>
      3 * (retries - tries) + 4 + (pass.rest.length * (3 * retries + 5) + 4)
  | .checking pass _ tries =>
      3 * (retries - tries) + 3 + (pass.rest.length * (3 * retries + 5) + 4)
  | .publish pass _ tries =>
      3 * (retries - tries) + 2 + (pass.rest.length * (3 * retries + 5) + 4)
  | .settle pass _ _ => 1 + (pass.rest.length * (3 * retries + 5) + 4)

/-- The drain is about to take a snapshot. -/
def Phase.looks : Phase → Bool
  | .top | .snapshot => true
  | _ => false

/-- The drain goes on. -/
def Phase.goes : Phase → Bool
  | .stopping | .done => false
  | _ => true

lemma Phase.left_pos {retries : ℕ} {phase : Phase} (hgoes : phase.goes = true) :
    0 < phase.left retries := by
  cases phase <;> first | exact absurd hgoes Bool.false_ne_true | (rw [Phase.left]; omega)

variable {cfg : OutboxSettings} {box after : Outbox} {phase : Phase} {sent : Option Item}
  {steps : List Step} {index early late : ℕ}

/-- A turn towards the next snapshot.  A drain whose context has not ended stops
only after a fruitless pass without another request. -/
lemma Turn.nearer {next : Phase} (hturn : Turn cfg false box phase sent next after)
    (hgoes : phase.goes = true) (hdue : phase.looks = true ∨ box.again = true) :
    phase = .snapshot ∨ (next.goes = true ∧ next.left cfg.retries < phase.left cfg.retries ∧
        (next.looks = true ∨ after.again = true)) := by
  cases hturn with
  | stop hended | interrupt _ _ _ _ hended =>
    exact absurd hended Bool.false_ne_true
  | look | repeats | again => exact Or.inr ⟨rfl, by simp only [Phase.left]; omega, Or.inl rfl⟩
  | stopped | idle => exact absurd hgoes Bool.false_ne_true
  | empty | snapshot => exact Or.inl rfl
  | giveUp hquiet =>
    rcases hdue with hlooks | hagain
    · exact absurd hlooks Bool.false_ne_true
    · rw [hquiet] at hagain
      exact absurd hagain Bool.false_ne_true
  | settle pass item dropped =>
    have hagain : box.again = true := hdue.resolve_left Bool.false_ne_true
    have hafter : (box.remove item dropped).again = true := by
      rw [Outbox.remove]
      split <;> exact hagain
    exact Or.inr ⟨rfl, by simp only [Phase.left]; omega, Or.inr hafter⟩
  | skip item rest held forwarded hheld | turn item rest held forwarded hfree =>
    have hagain : box.again = true := hdue.resolve_left Bool.false_ne_true
    refine Or.inr ⟨rfl, ?_, Or.inr hagain⟩
    simp only [Phase.left, List.length_cons, Nat.add_mul]
    omega
  | fruitless | abandon | check | queued | evicted | accept | invalid | retry | refuse =>
    have hagain : box.again = true := hdue.resolve_left Bool.false_ne_true
    refine Or.inr ⟨rfl, ?_, Or.inr hagain⟩
    simp only [Phase.left, Pass.hold, List.length_nil, Nat.zero_mul]
    omega

lemma Turn.of_snapshot {ended : Bool} {next : Phase}
    (hturn : Turn cfg ended box .snapshot sent next after) (hitems : box.items ≠ []) :
    next = .items ⟨box.items, [], 0⟩ := by
  cases hturn with
  | empty hempty => exact absurd hempty hitems
  | snapshot => rfl

/-- A drain stops only for its context. -/
lemma Turn.to_stopping {ended : Bool}
    (hturn : Turn cfg ended box phase sent .stopping after) : ended = true := by
  cases hturn with
  | stop hended | interrupt _ _ _ _ hended => exact hended

section

variable {cfg : OutboxSettings} {rack next : Rack} {step : Step}

variable {drain : Drain}

/-- The drains after a request: those before, and a new one if none ran. -/
lemma drains_kickDrain {place : ℕ} (hdrain : rack.kickDrain.drains[place]? = some drain) :
    rack.drains[place]? = some drain ∨ (rack.drains[place]? = none ∧ drain = ⟨.top, false⟩) := by
  cases hdraining : rack.outbox.draining with
  | true =>
    rw [kickDrain_of_draining hdraining] at hdrain
    exact Or.inl hdrain
  | false =>
    rw [kickDrain_of_idle hdraining] at hdrain
    rcases Config.getElem?_concat hdrain with hold | ⟨hplace, hnew⟩
    · exact Or.inl hold
    · rw [hplace]
      exact Or.inr ⟨List.getElem?_eq_none le_rfl, hnew⟩

lemma drains_length_kickDrain (rack : Rack) :
    rack.drains.length ≤ rack.kickDrain.drains.length := by
  rw [Rack.kickDrain]
  split
  · exact (List.sublist_append_left _ _).length_le
  · exact le_rfl

section

variable (hmove : Move cfg rack step next)

include hmove

/-- What becomes of a drain in one step: it is new, at most its context changes, or
it takes a turn. -/
lemma Move.drains {place : ℕ} (hdrain : next.drains[place]? = some drain) :
    (rack.drains[place]? = none ∧ drain = ⟨.top, false⟩) ∨
    (∃ before, rack.drains[place]? = some before ∧ drain.phase = before.phase ∧
      (before.ended = true → drain.ended = true) ∧ step.isTurn place = false) ∨
    (∃ phase sent, rack.drains[place]? = some ⟨phase, drain.ended⟩ ∧ step.isTurn place = true ∧
      Turn cfg drain.ended rack.outbox phase sent drain.phase next.outbox) := by
  have hsame : rack.drains[place]? = some drain → step.isTurn place = false →
      ∃ before, rack.drains[place]? = some before ∧ drain.phase = before.phase ∧
        (before.ended = true → drain.ended = true) ∧ step.isTurn place = false :=
    fun hbefore hother => ⟨drain, hbefore, rfl, id, hother⟩
  cases hmove with
  | call | rest | advance | enqueue | accept | late => exact Or.inr (Or.inl (hsame hdrain rfl))
  | finish | kick =>
    rcases drains_kickDrain hdrain with hold | hnew
    · exact Or.inr (Or.inl (hsame hold rfl))
    · exact Or.inl hnew
  | absent hnone =>
    refine Or.inr (Or.inl (hsame hdrain (decide_eq_false ?_)))
    intro hplace
    rw [hplace, hdrain] at hnone
    nomatch hnone
  | turn hbefore hturn =>
    rcases Config.getElem?_set_cases hdrain with ⟨rfl, rfl⟩ | ⟨hplace, hold⟩
    · exact Or.inr (Or.inr ⟨_, _, hbefore, decide_eq_true rfl, hturn⟩)
    · exact Or.inr (Or.inl (hsame hold (decide_eq_false (Ne.symm hplace))))
  | cancel hbefore =>
    rcases Config.getElem?_set_cases hdrain with ⟨rfl, rfl⟩ | ⟨_, hold⟩
    · exact Or.inr (Or.inl ⟨_, hbefore, rfl, fun _ => rfl, rfl⟩)
    · exact Or.inr (Or.inl (hsame hold rfl))

lemma Move.drains_length : rack.drains.length ≤ next.drains.length := by
  cases hmove with
  | finish | kick => exact drains_length_kickDrain _
  | turn | cancel => exact List.length_set.ge
  | _ => exact le_rfl

/-- A request stays noted as long as the running drain takes no turn. -/
lemma Move.again (hsingle : Single rack) (hruns : rack.Runs index drain)
    (hother : step.isTurn index = false) (hagain : rack.outbox.again = true) :
    next.outbox.again = true := by
  have hdraining := (hsingle.last index drain hruns).2
  cases hmove with
  | enqueue _ henqueues => exact henqueues.again_eq.trans hagain
  | @finish id _ emission ok =>
    have hbusy : (rack.advance id emission (.returned ok)).outbox.draining = true := hdraining
    rw [kickDrain_of_draining hbusy]
  | kick => rw [kickDrain_of_draining hdraining]
  | @turn place _ phase _ ended _ _ hdrain hturn =>
    have hne : place ≠ index := of_decide_eq_false hother
    have hdone : (Drain.mk phase ended).running = false := by
      by_contra hrunning
      rw [Bool.not_eq_false] at hrunning
      exact hne (hsingle.unique ⟨hdrain, hrunning⟩ hruns)
    obtain ⟨_, hbox, _⟩ := hturn.of_done hdone
    rw [hbox]
    exact hagain
  | _ => exact hagain

end

/-- The drain is on its way to a snapshot that serves an earlier request. -/
structure Waiting (rack : Rack) (index : ℕ) (phase : Phase) : Prop where
  drain : rack.drains[index]? = some ⟨phase, false⟩
  goes : phase.goes = true
  due : phase.looks = true ∨ rack.outbox.again = true

lemma Phase.running_of_goes {ended : Bool} (hgoes : phase.goes = true) :
    (Drain.mk phase ended).running = true := by
  cases phase <;> first | rfl | exact absurd hgoes Bool.false_ne_true

/-- One step of the wait: the request is served now, or the drain has come nearer
to the snapshot if the step was its own. -/
lemma Waiting.move (hmove : Move cfg rack step next) (hsingle : Single rack)
    (hwaiting : Waiting rack index phase) :
    rack.outbox.items = [] ∨ rack.Snapshots next ∨
    (∃ later, next.Runs index ⟨later, true⟩) ∨
    ∃ later, Waiting next index later ∧
      later.left cfg.retries + (if step.isTurn index then 1 else 0) ≤ phase.left cfg.retries := by
  have hruns : rack.Runs index ⟨phase, false⟩ :=
    ⟨hwaiting.drain, Phase.running_of_goes hwaiting.goes⟩
  obtain ⟨hlt, _⟩ := List.getElem?_eq_some_iff.mp hwaiting.drain
  have hlt' := lt_of_lt_of_le hlt hmove.drains_length
  obtain ⟨⟨later, ended⟩, hlater⟩ : ∃ drain, next.drains[index]? = some drain :=
    ⟨_, List.getElem?_eq_getElem hlt'⟩
  rcases hmove.drains hlater with
    ⟨hnone, _⟩ | ⟨before, hbefore, hphase, _, hother⟩ | ⟨before, sent, hbefore, hown, hturn⟩
  · rw [hwaiting.drain] at hnone
    nomatch hnone
  · -- Another step: at most the context of the drain ends.
    rw [hwaiting.drain, Option.some.injEq] at hbefore
    rw [← hbefore] at hphase
    subst hphase
    right
    right
    cases ended with
    | true => exact Or.inl ⟨later, hlater, Phase.running_of_goes hwaiting.goes⟩
    | false =>
      refine Or.inr ⟨later, ⟨hlater, hwaiting.goes, ?_⟩, ?_⟩
      · exact hwaiting.due.imp_right (hmove.again hsingle hruns hother)
      · rw [hother]
        exact le_rfl
  · rw [hwaiting.drain, Option.some.injEq, Drain.mk.injEq] at hbefore
    obtain ⟨hphase, hended⟩ := hbefore
    subst hphase hended
    rcases hturn.nearer hwaiting.goes hwaiting.due with hsnapshot | ⟨hgoes, hleft, hdue⟩
    · subst hsnapshot
      change Turn cfg false rack.outbox .snapshot sent later _ at hturn
      by_cases hempty : rack.outbox.items = []
      · exact Or.inl hempty
      · rw [hturn.of_snapshot hempty] at hlater
        exact Or.inr (Or.inl ⟨index, false, hwaiting.drain, hlater⟩)
    · refine Or.inr (Or.inr (Or.inr ⟨later, ⟨hlater, hgoes, hdue⟩, ?_⟩))
      rw [hown]
      exact hleft

lemma ended_of_stopping (cfg : OutboxSettings) (steps : List Step) (time : ℕ) :
    ∀ drain ∈ (rackAt cfg steps time).drains, drain.phase = .stopping → drain.ended = true := by
  refine @rackAt_invariant cfg steps
    (fun rack => ∀ drain ∈ rack.drains, drain.phase = .stopping → drain.ended = true)
    (fun _ hmem => absurd hmem List.not_mem_nil) ?_ time
  intro rack step next hmove hstops drain hmem hstopping
  obtain ⟨place, hdrain⟩ := List.mem_iff_getElem?.mp hmem
  rcases hmove.drains hdrain with
    ⟨_, hnew⟩ | ⟨before, hbefore, hphase, hended, _⟩ | ⟨phase, sent, _, _, hturn⟩
  · rw [hnew] at hstopping
    nomatch hstopping
  · have hwas := hstops before (List.mem_of_getElem? hbefore) (hphase ▸ hstopping)
    exact hended hwas
  · rw [hstopping] at hturn
    exact hturn.to_stopping

/-- After a request a drain runs which is due to take a snapshot, unless its context
has ended. -/
lemma Rack.Requests.starts (cfg : OutboxSettings) (hsingle : Single rack)
    (hrequests : rack.Requests step) :
    ∃ index drain, (rack.take cfg step).Runs index drain ∧
      (drain.phase.looks = true ∨ (rack.take cfg step).outbox.again = true) := by
  have hkick : ∀ {base : Rack}, Single base → ∃ index drain, base.kickDrain.Runs index drain ∧
        (drain.phase.looks = true ∨ base.kickDrain.outbox.again = true) := by
    intro base hbase
    cases hdraining : base.outbox.draining with
    | true =>
      obtain ⟨index, drain, hruns⟩ := hbase.active hdraining
      rw [kickDrain_of_draining hdraining]
      exact ⟨index, drain, hruns, Or.inr rfl⟩
    | false =>
      rw [kickDrain_of_idle hdraining]
      exact ⟨base.drains.length, ⟨.top, false⟩, ⟨List.getElem?_concat_length, rfl⟩, Or.inl rfl⟩
  rcases hrequests with hstep | ⟨id, answer, emission, ok, hstep, hemission, hstage⟩
  · rw [hstep]
    exact hkick hsingle
  · have heq : rack.take cfg step = (rack.advance id emission (.returned ok)).kickDrain := by
      obtain ⟨subject, kind, stage, older⟩ := emission
      subst hstage
      rw [hstep, Rack.take, Rack.proceed, hemission]
    rw [heq]
    exact hkick (hsingle.of_frame rfl rfl)

end

lemma turns_self (steps : List Step) (index time : ℕ) : turns steps index time time = 0 := by
  rw [turns, List.drop_eq_nil_of_le (List.length_take_le time steps)]
  rfl

lemma turns_succ {step : Step} (hle : early ≤ late) (hstep : steps[late]? = some step) :
    turns steps index early (late + 1) =
      turns steps index early late + if step.isTurn index then 1 else 0 := by
  obtain ⟨hlt, _⟩ := List.getElem?_eq_some_iff.mp hstep
  have hlength : early ≤ (steps.take late).length := by
    rw [List.length_take_of_le hlt.le]
    exact hle
  rw [turns, turns, List.take_add_one, hstep, Option.toList_some,
    List.drop_append_of_le_length hlength, List.countP_append, List.countP_singleton]

lemma turns_succ_of_none (hstep : steps[late]? = none) :
    turns steps index early (late + 1) = turns steps index early late := by
  rw [turns, turns, List.take_add_one, hstep, Option.toList_none, List.append_nil]

lemma Served.mono (hserved : Served cfg steps early late) :
    Served cfg steps early (late + 1) := by
  cases hserved with
  | snapshot time hafter hbefore htaken =>
    exact .snapshot time hafter (Nat.lt_succ_of_lt hbefore) htaken
  | empty time hafter hbefore hempty =>
    exact .empty time hafter (Nat.le_succ_of_le hbefore) hempty
  | ended time index phase hafter hbefore hended =>
    exact .ended time index phase hafter (Nat.le_succ_of_le hbefore) hended

/-- The wait over a run: by induction on the time that has passed. -/
lemma served_or_waiting {request : ℕ}
    (hwaiting : Waiting (rackAt cfg steps (request + 1)) index phase)
    (hlate : request + 1 ≤ late) :
    Served cfg steps request late ∨
    ∃ later, Waiting (rackAt cfg steps late) index later ∧
      later.left cfg.retries + turns steps index (request + 1) late ≤ phase.left cfg.retries := by
  induction late, hlate using Nat.le_induction with
  | base =>
    right
    refine ⟨phase, hwaiting, ?_⟩
    rw [turns_self]
    exact le_rfl
  | succ time hle ih =>
    rcases ih with hserved | ⟨now, hnow, hbound⟩
    · exact Or.inl hserved.mono
    · cases hstep : steps[time]? with
      | none =>
        right
        rw [rackAt, stateAt_succ_of_none hstep, turns_succ_of_none hstep]
        exact ⟨now, hnow, hbound⟩
      | some step =>
        rcases hnow.move (move_rackAt hstep) (custody_rackAt cfg steps time).single with
          hempty | hsnapshot | ⟨later, hended⟩ | ⟨later, hlater, hleft⟩
        · exact Or.inl (.empty time hle (Nat.le_succ time) hempty)
        · exact Or.inl (.snapshot time hle (Nat.lt_succ_self time) hsnapshot)
        · exact Or.inl (.ended (time + 1) index later (Nat.lt_succ_of_lt hle) le_rfl hended)
        · refine Or.inr ⟨later, hlater, ?_⟩
          rw [turns_succ hle hstep]
          omega

/-- A request is served once the drain that runs after it has taken the steps its
phase bounds. -/
lemma request_served {request : ℕ} {step : Step} (hstep : steps[request]? = some step)
    (hrequests : (rackAt cfg steps request).Requests step) :
    ∃ index drain, (rackAt cfg steps (request + 1)).Runs index drain ∧ ∀ late, request < late →
        drain.phase.left cfg.retries ≤ turns steps index (request + 1) late →
        Served cfg steps request late := by
  have hnext : rackAt cfg steps (request + 1) =
      (rackAt cfg steps request).take cfg step := stateAt_succ hstep
  obtain ⟨index, ⟨phase, ended⟩, hruns, hdue⟩ :=
    hrequests.starts cfg (custody_rackAt cfg steps request).single
  rw [← hnext] at hruns hdue
  refine ⟨index, ⟨phase, ended⟩, hruns, ?_⟩
  intro late hlate hturns
  cases ended with
  | true => exact .ended (request + 1) index phase (Nat.lt_succ_self request) hlate hruns
  | false =>
    have hgoes : phase.goes = true := by
      cases phase with
      | stopping =>
        exact absurd (ended_of_stopping cfg steps (request + 1) _
          (List.mem_of_getElem? hruns.1) rfl) Bool.false_ne_true
      | done => exact absurd hruns.2 Bool.false_ne_true
      | _ => rfl
    rcases served_or_waiting ⟨hruns.1, hgoes, hdue⟩ hlate with hserved | ⟨later, hlater, hbound⟩
    · exact hserved
    · have hpos := @Phase.left_pos cfg.retries later hlater.goes
      change phase.left cfg.retries ≤ _ at hturns
      omega

/-- At most one drain runs at any time; every request is followed by a snapshot of
the queue, an empty queue or the end of the running drain's context, at the latest
after a bounded number of steps of the running drain; and drains get every
emission accepted at most once. -/
theorem drain_requests (cfg : OutboxSettings) (steps : List Step) :
    (∀ time index other drain drain', (rackAt cfg steps time).Runs index drain →
      (rackAt cfg steps time).Runs other drain' → index = other) ∧
    (∀ request step, steps[request]? = some step → (rackAt cfg steps request).Requests step →
      ∃ index drain, (rackAt cfg steps (request + 1)).Runs index drain ∧ ∀ late, request < late →
          drain.phase.left cfg.retries ≤ turns steps index (request + 1) late →
          Served cfg steps request late) ∧
    ∀ time, (rackAt cfg steps time).drained.Nodup := by
  refine ⟨?_, ?_, drained_nodup cfg steps⟩
  · intro time index other drain drain' hruns hruns'
    exact (custody_rackAt cfg steps time).single.unique hruns hruns'
  · intro request step hstep hrequests
    exact request_served hstep hrequests

end Fluxrig.Runtime
