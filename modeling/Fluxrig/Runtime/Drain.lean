import Fluxrig.Runtime.Outbox

/-!
# Emissions and drains of one Rack

The bus leg of `publishPort` and `publishEvent`, and the drain loop of the
outbox, as state machines that take one atomic step at a time: a section under
the outbox mutex, an answer of the bus, a look at the context.  Any number of
emissions and drains advance in any order.  `waitClear` only waits, so an
emission may stay in its first stage for any time.
-/

namespace Fluxrig.Runtime

open Fluxrig.Core Message

/-- What the bus answers to a publish. -/
inductive Answer where
  | accepted
  | invalid
  | refused
  | noBus
  deriving DecidableEq

/-- What an emission does next. -/
inductive Stage where
  /-- park if its subject is held -/
  | called
  /-- learn what the bus answers -/
  | publishing
  /-- park what the bus did not take -/
  | refused
  /-- look whether anything is parked -/
  | accepted
  /-- start a drain and return -/
  | kicking (ok : Bool)
  | returned (ok : Bool)
  deriving DecidableEq

def Stage.isReturned : Stage → Bool
  | returned _ => true
  | _ => false

/-- A call of `publishPort` or `publishEvent`.  Its position in the list of all
calls is the identity of what it emits.  `older` lists the emissions that had
returned when this one was called; no step reads it. -/
structure Emission where
  subject : Text
  kind : Kind
  stage : Stage
  older : List ℕ

/-- A pass over a snapshot of the queue: what is left of it, the subjects it
leaves alone, and how many items left the queue. -/
structure Pass where
  rest : List Item
  held : List Text
  forwarded : ℕ

def Pass.hold (pass : Pass) (subject : Text) : Pass :=
  { pass with held := subject :: pass.held }

/-- What a drain does next. -/
inductive Phase where
  /-- look at its context -/
  | top
  /-- stop, its context has ended -/
  | stopping
  /-- take a snapshot -/
  | snapshot
  /-- take the next item of the pass -/
  | items (pass : Pass)
  /-- look at its context before an attempt -/
  | attempt (pass : Pass) (item : Item) (tries : ℕ)
  /-- see whether the item is still queued -/
  | checking (pass : Pass) (item : Item) (tries : ℕ)
  /-- learn what the bus answers -/
  | publish (pass : Pass) (item : Item) (tries : ℕ)
  /-- take the item out of the queue -/
  | settle (pass : Pass) (item : Item) (dropped : Bool)
  /-- decide whether to go on after a pass that forwarded nothing -/
  | endPass
  | done

/-- A drain and whether its context has ended. -/
structure Drain where
  phase : Phase
  ended : Bool

namespace Drain

def running (drain : Drain) : Bool :=
  match drain.phase with
  | .done => false
  | _ => true

/-- One step of `runDrain`: the next phase and the outbox afterwards. -/
def step (cfg : OutboxSettings) (answer : Answer) (drain : Drain) (box : Outbox) :
    Phase × Outbox :=
  match drain.phase with
  | .top => (if drain.ended then .stopping else .snapshot, box)
  | .stopping => (.done, box.endDrain)
  | .snapshot =>
      if box.items = [] then (.done, box.endDrain) else (.items ⟨box.items, [], 0⟩, box)
  | .items ⟨[], _, forwarded⟩ => (if forwarded = 0 then .endPass else .top, box)
  | .items ⟨item :: rest, held, forwarded⟩ =>
      if drain.ended then (.stopping, box)
      else if cfg.ordered = true ∧ item.subject ∈ held then
        (.items ⟨rest, held, forwarded⟩, box)
      else (.attempt ⟨rest, held, forwarded⟩ item 0, box)
  | .attempt pass item tries =>
      if drain.ended then (.items (pass.hold item.subject), box)
      else (.checking pass item tries, box)
  | .checking pass item tries =>
      if box.holds item then (.publish pass item tries, box) else (.items pass, box)
  | .publish pass item tries =>
      match answer with
      | .accepted => (.settle pass item false, box)
      | .invalid => (.settle pass item true, box)
      | _ =>
          if tries < cfg.retries then (.attempt pass item (tries + 1), box)
          else (.items (pass.hold item.subject), box)
  | .settle pass item dropped =>
      (.items { pass with forwarded := pass.forwarded + 1 }, box.remove item dropped)
  | .endPass =>
      let result := box.endPass
      (if result.1 then .top else .done, result.2)
  | .done => (.done, box)

/-- The item the bus accepts in this step, if any. -/
def sends (answer : Answer) (drain : Drain) : Option Item :=
  match drain.phase, answer with
  | .publish _ item _, .accepted => some item
  | _, _ => none

end Drain

/-- An emission the bus accepted, directly or from the outbox. -/
structure Sent where
  id : ℕ
  subject : Text
  byDrain : Bool

/-- The outbox, all calls and drains so far, and what the bus accepted, in
order. -/
structure Rack where
  outbox : Outbox
  emissions : List Emission
  drains : List Drain
  sent : List Sent

namespace Rack

def new : Rack where
  outbox := .new
  emissions := []
  drains := []
  sent := []

/-- The emissions that have returned. -/
def returned (rack : Rack) : List ℕ :=
  (List.range rack.emissions.length).filter fun id =>
    (rack.emissions[id]?.map fun emission => emission.stage.isReturned).getD false

def call (rack : Rack) (subject : Text) (kind : Kind) : Rack :=
  { rack with emissions := rack.emissions ++ [⟨subject, kind, .called, rack.returned⟩] }

/-- Move emission `id` to another stage. -/
def advance (rack : Rack) (id : ℕ) (emission : Emission) (stage : Stage) : Rack :=
  { rack with emissions := rack.emissions.set id { emission with stage := stage } }

/-- `kickDrain`: a drain that runs already makes it a request for another pass. -/
def kickDrain (rack : Rack) : Rack :=
  let result := rack.outbox.beginDrain
  { rack with
    outbox := result.2
    drains := if result.1 then rack.drains ++ [⟨.top, false⟩] else rack.drains }

/-- The next step of an emission. -/
def proceed (cfg : OutboxSettings) (rack : Rack) (id : ℕ) (answer : Answer) : Rack :=
  match rack.emissions[id]? with
  | none => rack
  | some emission =>
      match emission.stage, emission.kind with
      | .called, .message =>
          let result := rack.outbox.parkIfHeld cfg emission.subject id
          { rack.advance id emission (if result.1 then .kicking true else .publishing) with
            outbox := result.2 }
      | .called, .event =>
          let result := rack.outbox.parkEventIfHeld cfg emission.subject id
          { rack.advance id emission
              (if result.1.1 then .kicking result.1.2 else .publishing) with
            outbox := result.2 }
      | .publishing, kind =>
          match answer, kind with
          | .accepted, _ =>
              { rack.advance id emission .accepted with
                sent := rack.sent ++ [⟨id, emission.subject, false⟩] }
          | .noBus, .message => rack.advance id emission (.returned false)
          | _, _ => rack.advance id emission .refused
      | .refused, .message =>
          { rack.advance id emission (.returned true) with
            outbox := rack.outbox.park cfg emission.subject id }
      | .refused, .event =>
          let result := rack.outbox.parkEvent cfg emission.subject id
          { rack.advance id emission (.returned result.1) with outbox := result.2 }
      | .accepted, _ =>
          rack.advance id emission
            (if 0 < rack.outbox.items.length then .kicking true else .returned true)
      | .kicking ok, _ => (rack.advance id emission (.returned ok)).kickDrain
      | .returned _, _ => rack

/-- The next step of a drain. -/
def drain (cfg : OutboxSettings) (rack : Rack) (index : ℕ) (answer : Answer) : Rack :=
  match rack.drains[index]? with
  | none => rack
  | some drain =>
      let result := drain.step cfg answer rack.outbox
      { rack with
        outbox := result.2
        drains := rack.drains.set index { drain with phase := result.1 }
        sent := rack.sent ++ ((drain.sends answer).map fun item =>
          ⟨item.id, item.subject, true⟩).toList }

/-- The context of a drain ends. -/
def cancel (rack : Rack) (index : ℕ) : Rack :=
  match rack.drains[index]? with
  | none => rack
  | some drain => { rack with drains := rack.drains.set index { drain with ended := true } }

end Rack

/-- A call, a step of an emission or of a drain, a drain request from outside
(`SetBus`, the retry of parked events, a shutdown), or the end of a context. -/
inductive Step where
  | call (subject : Text) (kind : Kind)
  | proceed (id : ℕ) (answer : Answer)
  | kick
  | drain (index : ℕ) (answer : Answer)
  | cancel (index : ℕ)

def Rack.take (cfg : OutboxSettings) (rack : Rack) : Step → Rack
  | .call subject kind => rack.call subject kind
  | .proceed id answer => rack.proceed cfg id answer
  | .kick => rack.kickDrain
  | .drain index answer => rack.drain cfg index answer
  | .cancel index => rack.cancel index

/-- The Rack after the first `time` steps. -/
def rackAt (cfg : OutboxSettings) (steps : List Step) (time : ℕ) : Rack :=
  stateAt (fun rack step => rack.take cfg step) .new steps time

end Fluxrig.Runtime
