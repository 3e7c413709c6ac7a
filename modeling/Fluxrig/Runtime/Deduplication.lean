import Fluxrig.Bus.Nats
import Fluxrig.Conductor.Replay
import Fluxrig.Iso8583.Keys
import Fluxrig.Runtime.Custody

/-!
# Message ids on the bus

The stream drops a message that arrives under an id it has just seen.  `Publish` builds
the id from the message's identity, the number of its hops and the subject, and
`publishPort` clones what a gear hands to it, gives it an identity if it has none and adds
a hop.  All attempts to publish one emission use one id.  Two emissions on one subject
use different ids as long as no gear hands over, for a subject, a message with the
identity and the number of hops of an earlier one, which is what the conductor does when
it replays a response.
-/

namespace Fluxrig.Runtime

open Fluxrig.Core Message

/-- What a call of `publishPort` works with: the gear's message, the identity that
`NextFluxID` returns unless it fails, and the hop. -/
structure Handed where
  msg : FluxMsg
  generated : Option (BitVec 128)
  hop : Hop

/-- The identity under which the message leaves. -/
def Handed.identity (handed : Handed) : BitVec 128 :=
  if handed.msg.fluxID = 0 then handed.generated.getD 0 else handed.msg.fluxID

/-- The clone that `publishPort` hands to the lane, the bus and the outbox. -/
def Handed.stamped (handed : Handed) : FluxMsg :=
  { handed.msg with
    fluxID := handed.identity
    path := handed.msg.path ++ [handed.hop] }

/-- The message has the identity, or gets it from `NextFluxID` because it has none. -/
def Handed.Bears (handed : Handed) (id : BitVec 128) : Prop :=
  handed.msg.fluxID = id ∨ handed.msg.fluxID = 0 ∧ handed.generated = some id

/-- The message is not one that was handed over before: it has an identity that the earlier
message does not bear, or another number of hops, or it has none and `NextFluxID` gives it
one that the earlier message does not bear. -/
def Handed.New (handed earlier : Handed) : Prop :=
  if handed.msg.fluxID = 0 then ∃ id ∈ handed.generated, ¬ earlier.Bears id
  else handed.msg.path.length = earlier.msg.path.length → ¬ earlier.Bears handed.msg.fluxID

/-- A step of the Rack.  With a call of `publishPort` comes what the gear hands over; no
other step looks at it. -/
structure Deed where
  step : Step
  handed : Handed

/-- The Rack, and what was handed over with each of its calls. -/
structure Relay where
  rack : Rack
  handed : ℕ → Handed

def Relay.take (cfg : OutboxSettings) (relay : Relay) (deed : Deed) : Relay where
  rack := relay.rack.take cfg deed.step
  handed :=
    match deed.step with
    | .call _ _ => Function.update relay.handed relay.rack.emissions.length deed.handed
    | _ => relay.handed

/-- The Rack and its messages after the first `time` steps.  At first there are no calls. -/
def relayAt (cfg : OutboxSettings) (deeds : List Deed) (time : ℕ) : Relay :=
  stateAt (fun relay deed => relay.take cfg deed)
    ⟨.new, fun _ => ⟨FluxMsg.new, none, ⟨0, 0, 0⟩⟩⟩ deeds time

/-- A gear that emits a message hands over a new one: it is not one of those handed over
for the subject before, calls that were refused apart. -/
def Relay.Fresh (relay : Relay) (deed : Deed) : Prop :=
  ∀ subject, deed.step = .call subject .message → ∀ (id : ℕ) emission,
    relay.rack.emissions[id]? = some emission → emission.subject = subject →
    emission.kind = .message → emission.stage ≠ .returned false →
      deed.handed.New (relay.handed id)

/-- The message that a step hands to the bus, by an emission or by a drain, whatever the
bus then answers. -/
def attempt (rack : Rack) : Step → Option (ℕ × Text)
  | .proceed id _ =>
      match rack.emissions[id]? with
      | some ⟨subject, .message, .publishing, _⟩ => some (id, subject)
      | _ => none
  | .drain index _ =>
      match rack.drains[index]? with
      | some ⟨.publish _ ⟨id, subject, .message⟩ _, _⟩ => some (id, subject)
      | _ => none
  | _ => none

/-- A step of the run publishes emission `id` under this message id. -/
def Published (cfg : OutboxSettings) (deeds : List Deed) (id : ℕ) (messageID : Text) : Prop :=
  ∃ time deed subject, deeds[time]? = some deed ∧
    attempt (relayAt cfg deeds time).rack deed.step = some (id, subject) ∧
    messageID = Bus.messageID ((relayAt cfg deeds time).handed id).stamped subject

/-- `publishPort` accepted emission `id` on the subject. -/
def Relay.Accepted (relay : Relay) (id : ℕ) (subject : Text) : Prop :=
  ∃ emission ∈ relay.rack.emissions[id]?, emission.subject = subject ∧
    emission.kind = .message ∧ emission.stage = .returned true

instance (relay : Relay) (id : ℕ) (subject : Text) : Decidable (relay.Accepted id subject) :=
  inferInstanceAs (Decidable (∃ emission ∈ _, _))

section

variable {rack : Rack} {id : ℕ} {subject : Text}

/-- What is published is an emission, on the subject it was called with. -/
lemma attempt_emitted (hcustody : Custody rack) {step : Step}
    (hattempt : attempt rack step = some (id, subject)) :
    ∃ emission, rack.emissions[id]? = some emission ∧ emission.subject = subject := by
  cases step with
  | proceed =>
    simp only [attempt] at hattempt
    split at hattempt
    · next found older hemission =>
        cases hattempt
        exact ⟨_, hemission, rfl⟩
    · cases hattempt
  | drain =>
    simp only [attempt] at hattempt
    split at hattempt
    · next pass place found tries ended hdrain =>
        cases hattempt
        have hknown := hcustody.carried _ (List.mem_of_getElem? hdrain) ⟨id, subject, .message⟩
          List.mem_cons_self
        obtain ⟨emission, hemission, hsubject, _⟩ := hknown.emitted
        exact ⟨emission, hemission, hsubject⟩
    · cases hattempt
  | call | kick | cancel => cases hattempt

lemma messageID_eq_iff {msg another : FluxMsg} :
    Bus.messageID msg subject = Bus.messageID another subject ↔
      msg.fluxID = another.fluxID ∧ msg.path.length = another.path.length := by
  rw [Bus.messageID, Bus.messageID]
  constructor
  · intro heq
    have hlength : (uuidString msg.fluxID).length = (uuidString another.fluxID).length := by
      rw [length_uuidString, length_uuidString]
    obtain ⟨hid, hrest⟩ := List.append_inj heq hlength
    rw [List.append_cancel_left_eq, List.append_cancel_right_eq] at hrest
    have hhops := Iso8583.sprintInt_injective hrest
    exact ⟨uuidString_injective hid, by exact_mod_cast hhops⟩
  · intro heq
    rw [heq.1, heq.2]

/-- The gears handed over two messages that cannot be told apart by identity and hops. -/
def Handed.Repeats (first second : Handed) : Prop :=
  first.identity = second.identity ∧ first.msg.path.length = second.msg.path.length

lemma messageID_stamped_eq_iff {first second : Handed} :
    Bus.messageID first.stamped subject = Bus.messageID second.stamped subject ↔
      first.Repeats second := by
  rw [messageID_eq_iff, Handed.Repeats]
  simp only [Handed.stamped, List.length_append, List.length_singleton, Nat.add_right_cancel_iff]

lemma Handed.bears_identity (handed : Handed) : handed.Bears handed.identity := by
  rw [identity, Bears]
  by_cases hnone : handed.msg.fluxID = 0
  · rw [if_pos hnone]
    cases handed.generated with
    | none => exact Or.inl hnone
    | some => exact Or.inr ⟨hnone, rfl⟩
  · rw [if_neg hnone]
    exact Or.inl rfl

lemma Handed.New.not_repeats {first second : Handed} (hnew : second.New first) :
    ¬ first.Repeats second := by
  rintro ⟨hidentity, hhops⟩
  have hbears := first.bears_identity
  rw [hidentity, Handed.identity] at hbears
  rw [Handed.New] at hnew
  by_cases hnone : second.msg.fluxID = 0
  · rw [if_pos hnone] at hbears hnew
    obtain ⟨id, hid, hnot⟩ := hnew
    rw [hid] at hbears
    exact hnot hbears
  · rw [if_neg hnone] at hbears hnew
    exact hnew hhops.symm hbears

end

section

variable {cfg : OutboxSettings} {rack next : Rack} {step : Step} {place : ℕ}
  {emission : Emission}

/-- An emission that a step leaves is one it found, or the one it calls. -/
lemma Move.emission_cases (hmove : Move cfg rack step next)
    (hemission : next.emissions[place]? = some emission) :
    (∃ before, rack.emissions[place]? = some before ∧ before.Continues emission) ∨
      place = rack.emissions.length ∧ step = .call emission.subject emission.kind := by
  by_cases hplace : place < rack.emissions.length
  · obtain ⟨same, hsame, hcontinues⟩ := hmove.extends place _ (List.getElem?_eq_getElem hplace)
    obtain rfl : same = emission := Option.some.inj (hsame.symm.trans hemission)
    exact Or.inl ⟨_, List.getElem?_eq_getElem hplace, hcontinues⟩
  · have hlt := (List.getElem?_eq_some_iff.mp hemission).1
    right
    cases hmove with
    | call => grind [Rack.call]
    | _ => simp_all [Rack.advance, Rack.kickDrain, Rack.turned]

end

section

variable {cfg : OutboxSettings} {deeds : List Deed} {relay : Relay} {deed : Deed}
  {time early late id : ℕ}

lemma Relay.handed_take (hid : id < relay.rack.emissions.length) :
    (relay.take cfg deed).handed id = relay.handed id := by
  obtain ⟨step, handed⟩ := deed
  cases step with
  | call => exact Function.update_of_ne hid.ne _ _
  | proceed | kick | drain | cancel => rfl

lemma rack_relayAt (cfg : OutboxSettings) (deeds : List Deed) (time : ℕ) :
    (relayAt cfg deeds time).rack = rackAt cfg (deeds.map Deed.step) time := by
  rw [relayAt, rackAt, stateAt, stateAt, ← List.map_take, List.foldl_map]
  exact (List.foldl_hom Relay.rack fun _ _ => rfl).symm

lemma move_relayAt (cfg : OutboxSettings) (deeds : List Deed) (time : ℕ) (step : Step) :
    Move cfg (relayAt cfg deeds time).rack step
      ((relayAt cfg deeds time).rack.take cfg step) := by
  rw [rack_relayAt]
  exact take_move (balanced_rackAt cfg _ time) step

/-- A call keeps its subject and what was handed over with it. -/
lemma call_of_le (hle : early ≤ late) {emission : Emission}
    (hemission : (relayAt cfg deeds early).rack.emissions[id]? = some emission) :
    (∃ later, (relayAt cfg deeds late).rack.emissions[id]? = some later ∧
        later.subject = emission.subject) ∧
      (relayAt cfg deeds late).handed id = (relayAt cfg deeds early).handed id := by
  refine @stateAt_from _ _ (fun relay deed => Relay.take cfg relay deed) _ deeds
    (fun relay => (∃ later, relay.rack.emissions[id]? = some later ∧
      later.subject = emission.subject) ∧ relay.handed id = _) early late
    ⟨⟨emission, hemission, rfl⟩, rfl⟩ ?_ hle
  rintro time deed - ⟨⟨now, hnow, hsubject⟩, hhanded⟩
  obtain ⟨later, hlater, hcontinues⟩ :=
    (move_relayAt cfg deeds time deed.step).extends id now hnow
  exact ⟨⟨later, hlater, hcontinues.subject_eq.trans hsubject⟩,
    (Relay.handed_take (List.getElem?_eq_some_iff.mp hnow).1).trans hhanded⟩

/-- What a step publishes is an emission, under the id of its message for its subject. -/
lemma Published.emitted {messageID : Text} (hpublished : Published cfg deeds id messageID) :
    ∃ (time : ℕ) (emission : Emission),
      (relayAt cfg deeds time).rack.emissions[id]? = some emission ∧ messageID =
        Bus.messageID ((relayAt cfg deeds time).handed id).stamped emission.subject := by
  obtain ⟨time, deed, subject, -, hattempt, hid⟩ := hpublished
  have hcustody := custody_rackAt cfg (deeds.map Deed.step) time
  rw [← rack_relayAt] at hcustody
  obtain ⟨emission, hemission, rfl⟩ := attempt_emitted hcustody hattempt
  exact ⟨time, emission, hemission, hid⟩

/-- That is so at whatever time one looks at it. -/
lemma Published.messageID_eq {messageID : Text} {emission : Emission}
    (hpublished : Published cfg deeds id messageID)
    (hemission : (relayAt cfg deeds time).rack.emissions[id]? = some emission) :
    messageID = Bus.messageID ((relayAt cfg deeds time).handed id).stamped emission.subject := by
  obtain ⟨again, found, hfound, rfl⟩ := hpublished.emitted
  obtain ⟨⟨later, hlater, hsubject⟩, hhanded⟩ := call_of_le (le_max_left time again) hemission
  obtain ⟨⟨same, hsame, hsubject'⟩, hhanded'⟩ := call_of_le (le_max_right time again) hfound
  obtain rfl : later = same := Option.some.inj (hlater.symm.trans hsame)
  rw [← hhanded, hhanded', ← hsubject, hsubject']

/-- Of two emissions on one subject the later is not the message of the earlier, unless that
was refused. -/
def Relay.Apart (relay : Relay) : Prop :=
  ∀ (id other : ℕ) (emission another : Emission), id < other →
    relay.rack.emissions[id]? = some emission → relay.rack.emissions[other]? = some another →
    emission.subject = another.subject → emission.kind = .message → another.kind = .message →
    emission.stage ≠ .returned false → ¬ (relay.handed id).Repeats (relay.handed other)

lemma Relay.Apart.take (hapart : relay.Apart) (hfresh : relay.Fresh deed)
    (hmove : Move cfg relay.rack deed.step (relay.rack.take cfg deed.step)) :
    (relay.take cfg deed).Apart := by
  intro id other emission another hlt hemission hanother hsubject hkind hkind' hstage
  have hother := hmove.emission_cases hanother
  -- the earlier of the two was there before
  have hid : id < relay.rack.emissions.length := by
    rcases hother with ⟨before, hbefore, -⟩ | ⟨rfl, -⟩
    · exact hlt.trans (List.getElem?_eq_some_iff.mp hbefore).1
    · exact hlt
  obtain ⟨before, hbefore, hcontinues⟩ :=
    (hmove.emission_cases hemission).resolve_right fun hnew => hid.ne hnew.1
  have hopen : before.stage ≠ .returned false := by
    intro hrefused
    exact hstage ((hcontinues.returned (hrefused ▸ rfl)).trans hrefused)
  rw [Relay.handed_take hid]
  rw [hcontinues.subject_eq] at hsubject
  rw [hcontinues.kind_eq] at hkind
  rcases hother with ⟨found, hfound, hfollows⟩ | ⟨rfl, hstep⟩
  · rw [Relay.handed_take (List.getElem?_eq_some_iff.mp hfound).1]
    rw [hfollows.subject_eq] at hsubject
    rw [hfollows.kind_eq] at hkind'
    exact hapart id other before found hlt hbefore hfound hsubject hkind hkind' hopen
  · rw [hkind'] at hstep
    have hhanded : (relay.take cfg deed).handed relay.rack.emissions.length = deed.handed := by
      simp [Relay.take, hstep]
    rw [hhanded]
    exact (hfresh another.subject hstep id before hbefore hsubject hkind hopen).not_repeats

end

/-- In every run all attempts to publish an emission use one id.  As long as no gear hands
over a message once more for a subject, two emissions that were accepted on one subject are
published under different ids. -/
theorem bus_ids_unique (cfg : OutboxSettings) (deeds : List Deed)
    (hfresh : ∀ time deed, deeds[time]? = some deed → (relayAt cfg deeds time).Fresh deed) :
    (∀ id messageID again, Published cfg deeds id messageID →
      Published cfg deeds id again → again = messageID) ∧
    ∀ time id other subject, id ≠ other → (relayAt cfg deeds time).Accepted id subject →
      (relayAt cfg deeds time).Accepted other subject → ∀ messageID another,
        Published cfg deeds id messageID → Published cfg deeds other another →
          messageID ≠ another := by
  constructor
  · intro id messageID again hpublished hagain
    obtain ⟨time, emission, hemission, rfl⟩ := hpublished.emitted
    exact hagain.messageID_eq hemission
  · intro time id other subject hne hid hother messageID another hpublished hanother
    wlog hlt : id < other generalizing id other messageID another with hsym
    · exact (hsym other id hne.symm hother hid another messageID hanother hpublished
        (by omega)).symm
    have hapart : (relayAt cfg deeds time).Apart :=
      stateAt_induction nofun (fun now deed hdeed hnow => hnow.take (hfresh now deed hdeed)
        (move_relayAt cfg deeds now deed.step)) time
    obtain ⟨emission, hemission, rfl, hkind, hstage⟩ := hid
    obtain ⟨later, hlater, hsubject, hkind', -⟩ := hother
    have hnot := hapart id other emission later hlt hemission hlater hsubject.symm hkind hkind'
      (by simp [hstage])
    rw [hpublished.messageID_eq hemission, hanother.messageID_eq hlater, hsubject, ne_eq,
      messageID_stamped_eq_iff]
    exact hnot

/-- In every run of a conductor, the response to a request and all its replays go to one
port and are one message.  With an identity of its own it repeats itself there. -/
theorem answers_repeat (gear : Conductor.Gear)
    (events : List (Event Conductor.Call Conductor.Input))
    {first second : Conductor.Emission} {id : Valet.TicketID}
    (hfirst : first ∈ (Conductor.reach gear events).state.emissions)
    (hsecond : second ∈ (Conductor.reach gear events).state.emissions)
    (hlive : first.purpose = .response id) (hreplay : second.purpose = .replay id) :
    second.port = first.port ∧ ∀ msg another, first.msg = some msg → second.msg = some another →
      msg.fluxID ≠ 0 → ∀ generated hop again later,
        Handed.Repeats ⟨msg, generated, hop⟩ ⟨another, again, later⟩ := by
  have hfaithful := (Conductor.faithful_reach gear events).2
  have hticket := hfaithful.emitted first hfirst id (.inl hlive)
  have hagain := hfaithful.emitted second hsecond id (.inr hreplay)
  have hport : second.port = first.port :=
    Option.some.inj (hagain.port_eq.symm.trans hticket.port_eq)
  refine ⟨hport, fun msg another hmsg hanother hidentity generated hop again later => ?_⟩
  have hsame : another = msg := by
    rw [hticket.msg_eq] at hmsg
    rw [hagain.msg_eq, hmsg] at hanother
    exact (Option.some.inj hanother).symm
  rw [hsame, Handed.Repeats, Handed.identity, Handed.identity, if_neg hidentity, if_neg hidentity]
  exact ⟨rfl, rfl⟩

/-- A request, its reply and a retransmission. -/
def retransmitted : List (Event Conductor.Call Conductor.Input) :=
  Conductor.answeredRun ++ .start (.message (utf8 "in") Conductor.sampleMsg) ::
    List.replicate 3 (.step 2 (Conductor.calm 2))

/-- What the conductor emits for them. -/
def conductorEmissions : List Conductor.Emission :=
  (Conductor.reach Conductor.sampleGear retransmitted).state.emissions

theorem retransmitted_repeats : ∃ live ∈ conductorEmissions, ∃ again ∈ conductorEmissions,
    live.purpose = .response 0 ∧ again.purpose = .replay 0 ∧ again.port = live.port := by
  have hlive := @List.mem_of_getElem? _ conductorEmissions 1 _ rfl
  have hagain := @List.mem_of_getElem? _ conductorEmissions 2 _ rfl
  exact ⟨_, hlive, _, hagain, rfl, rfl,
    (answers_repeat Conductor.sampleGear retransmitted hlive hagain rfl rfl).1⟩

def responses : List Conductor.Emission :=
  conductorEmissions.filter fun emission => emission.port = Conductor.portResponse

/-- Both responses are handed to `publishPort`. -/
def respond (id : ℕ) : Handed :=
  ⟨((responses[id]?).bind Conductor.Emission.msg).getD FluxMsg.new, none, ⟨1, 2, id⟩⟩

def responseSubject : Text := utf8 "flux.msg.rack1.conductor.out_response"

/-- The conductor hands over a message, and the bus takes it. -/
def emits (id : ℕ) (handed : Handed) : List Deed :=
  ⟨.call responseSubject .message, handed⟩ :: List.replicate 3 ⟨.proceed id .accepted, handed⟩

def emitsTwo (first second : Handed) : List Deed := emits 0 first ++ emits 1 second

def plainOutbox : OutboxSettings := ⟨1, 1, true, Nat.one_pos⟩

lemma emitsTwo_published (first second : Handed) : Published plainOutbox (emitsTwo first second) 0
        (Bus.messageID first.stamped responseSubject) ∧
      Published plainOutbox (emitsTwo first second) 1
        (Bus.messageID second.stamped responseSubject) :=
  ⟨⟨2, _, _, rfl, rfl, rfl⟩, ⟨6, _, _, rfl, rfl, rfl⟩⟩

/-- The responses to two requests. -/
def numbered (id : BitVec 128) : Handed := ⟨{ FluxMsg.new with fluxID := id }, none, ⟨1, 2, 3⟩⟩

theorem numbered_published : ∃ messageID another,
    Published plainOutbox (emitsTwo (numbered 1) (numbered 2)) 0 messageID ∧
      Published plainOutbox (emitsTwo (numbered 1) (numbered 2)) 1 another ∧
      messageID ≠ another := by
  obtain ⟨hfirst, hsecond⟩ := emitsTwo_published (numbered 1) (numbered 2)
  refine ⟨_, _, hfirst, hsecond, (bus_ids_unique plainOutbox _ ?_).2 8 0 1 responseSubject
    Nat.zero_ne_one (by decide +kernel) (by decide +kernel) _ _ hfirst hsecond⟩
  intro time deed hdeed subject hstep
  have hlt : time < 8 := (List.getElem?_eq_some_iff.mp hdeed).1
  interval_cases time
  all_goals cases hdeed
  all_goals cases hstep
  · exact nofun
  · intro id emission hemission _ _ _
    obtain rfl : id = 0 := Nat.lt_one_iff.mp (List.getElem?_eq_some_iff.mp hemission).1
    rintro - (hsame | ⟨hnone, -⟩)
    · cases hsame
    · cases hnone

/-- The live response and its replay are accepted and published under one id. -/
theorem replay_taken_for_duplicate :
    responses.map Conductor.Emission.purpose = [.response 0, .replay 0] ∧
      (relayAt plainOutbox (emitsTwo (respond 0) (respond 1)) 8).Accepted 0 responseSubject ∧
      (relayAt plainOutbox (emitsTwo (respond 0) (respond 1)) 8).Accepted 1 responseSubject ∧
      ∃ messageID, Published plainOutbox (emitsTwo (respond 0) (respond 1)) 0 messageID ∧
        Published plainOutbox (emitsTwo (respond 0) (respond 1)) 1 messageID := by
  obtain ⟨hlive, hreplay⟩ := emitsTwo_published (respond 0) (respond 1)
  refine ⟨rfl, by decide +kernel, by decide +kernel, _, hlive, ?_⟩
  rw [messageID_stamped_eq_iff.mpr ⟨rfl, rfl⟩]
  exact hreplay

end Fluxrig.Runtime
