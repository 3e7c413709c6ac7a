import Fluxrig.Core.Timeline
import Fluxrig.Message.FluxMsg

/-!
# The hot lane

`pkg/runtime/lane.go`: messages between the gears of one Rack through bounded
queues in memory.  Publishes, the workers of the subscriptions and calls of
`Unsubscribe` advance one atomic step at a time, in any order: a section under
the lane mutex, a channel operation, a change of the pending counter.  A `select`
takes any of its branches that is ready.
-/

namespace Fluxrig.Runtime

open Fluxrig.Core Message

/-- What the worker of a subscription does. -/
inductive Worker where
  /-- wait for the queue or the end -/
  | waiting
  /-- run the handler on a message, then count it down -/
  | handling (message : ℕ)
  | stopped
  deriving DecidableEq

/-- One wire's end of the lane.  A message is the position of its publish among all
publishes.  `removed` says that the function under `once` has completed.  `taken`,
`handled` and `discarded` record what the worker took, what of it the handler got and
what `Unsubscribe` dropped; no step reads them. -/
structure LaneSub where
  subject : Text
  size : ℕ
  queue : List ℕ
  done : Bool
  removed : Bool
  worker : Worker
  taken : List ℕ
  handled : List ℕ
  discarded : List ℕ

def LaneSub.new (subject : Text) (size : ℕ) : LaneSub where
  subject := subject
  size := size
  queue := []
  done := false
  removed := false
  worker := .waiting
  taken := []
  handled := []
  discarded := []

inductive LaneErr where
  | invalid
  | full
  | closed
  | context
  deriving DecidableEq

/-- Where a publish stands.  `rest` are the targets it has not tried. -/
inductive Sending where
  /-- take a snapshot of the targets -/
  | called
  /-- count the message for the next target -/
  | next (rest : List ℕ)
  /-- the first `select` of `enqueue` -/
  | trying (target : ℕ) (rest : List ℕ)
  /-- the second one -/
  | blocked (target : ℕ) (rest : List ℕ)
  /-- count the message down -/
  | failing (rest : List ℕ)
  | returned
  deriving DecidableEq

/-- What becomes of a message: it is refused by `Validate` or by the encoder, or it is
encoded, to bytes that can be decoded again or to bytes that cannot.  `Validate` looks at
the keys of the data only, and a text in it need not be UTF-8. -/
inductive Encoding where
  | refused
  | garbled
  | sound
  deriving DecidableEq

structure Publish where
  subject : Text
  encoding : Encoding
  sending : Sending
  delivered : List ℕ
  firstErr : Option LaneErr

/-- Where a call of `Unsubscribe` stands. -/
inductive Closing where
  /-- close `done`, once -/
  | called
  /-- leave the table -/
  | removing
  /-- wait for the worker, or until the time is up -/
  | waiting
  /-- take the next message out of the queue -/
  | emptying
  /-- count it down -/
  | received
  | returned
  deriving DecidableEq

structure Unsubscribe where
  target : ℕ
  closing : Closing

/-- `subs` lists all subscriptions ever made and `table` is `localLane.subs`, by
their positions. -/
structure Lane where
  subs : List LaneSub
  table : Text → List ℕ
  pending : ℤ
  publishes : List Publish
  unsubscribes : List Unsubscribe

/-- A ready branch of the second `select` of `enqueue`. -/
inductive Branch where
  | send
  | done
  | timer
  | context

namespace Lane

def new : Lane where
  subs := []
  table := fun _ => []
  pending := 0
  publishes := []
  unsubscribes := []

variable (lane : Lane)

def setSub (index : ℕ) (sub : LaneSub) : Lane :=
  { lane with subs := lane.subs.set index sub }

def setPublish (call : ℕ) (publish : Publish) : Lane :=
  { lane with publishes := lane.publishes.set call publish }

def setUnsubscribe (call : ℕ) (unsubscribe : Unsubscribe) : Lane :=
  { lane with unsubscribes := lane.unsubscribes.set call unsubscribe }

def addPending (delta : ℤ) : Lane :=
  { lane with pending := lane.pending + delta }

def subscribe (subject : Text) (size : ℕ) : Lane :=
  { lane with
    subs := lane.subs ++ [.new subject size]
    table := Function.update lane.table subject (lane.table subject ++ [lane.subs.length]) }

/-- The message goes into the queue of its target. -/
def send (call : ℕ) (publish : Publish) (target : ℕ) (rest : List ℕ) (sub : LaneSub) : Lane :=
  (lane.setSub target { sub with queue := sub.queue ++ [call] }).setPublish call
    { publish with
      sending := .next rest
      delivered := publish.delivered ++ [target] }

/-- `enqueue` gives up; the first failure is the one reported. -/
def fail (call : ℕ) (publish : Publish) (rest : List ℕ) (err : LaneErr) : Lane :=
  lane.setPublish call { publish with
    sending := .failing rest
    firstErr := publish.firstErr.or (some err) }

/-- The next step of a publish. -/
def publish (call : ℕ) (branch : Branch) : Lane :=
  match lane.publishes[call]? with
  | none => lane
  | some publish =>
      match publish.sending with
      | .called =>
          let targets := lane.table publish.subject
          if targets = [] then lane.setPublish call { publish with sending := .returned }
          else if publish.encoding = .refused then
            lane.setPublish call
              { publish with sending := .returned, firstErr := some .invalid }
          else lane.setPublish call { publish with sending := .next targets }
      | .next [] => lane.setPublish call { publish with sending := .returned }
      | .next (target :: rest) =>
          (lane.addPending 1).setPublish call { publish with sending := .trying target rest }
      | .trying target rest =>
          match lane.subs[target]? with
          | none => lane
          | some sub =>
              if sub.queue.length < sub.size then lane.send call publish target rest sub
              else lane.setPublish call { publish with sending := .blocked target rest }
      | .blocked target rest =>
          match lane.subs[target]? with
          | none => lane
          | some sub =>
              match branch with
              | .send =>
                  if sub.queue.length < sub.size then
                    lane.send call publish target rest sub
                  else lane
              | .done => if sub.done then lane.fail call publish rest .closed else lane
              | .timer => lane.fail call publish rest .full
              | .context => lane.fail call publish rest .context
      | .failing rest =>
          (lane.addPending (-1)).setPublish call { publish with sending := .next rest }
      | .returned => lane

/-- The bytes of a message cannot be decoded. -/
def Garbled (message : ℕ) : Prop :=
  ∃ publish ∈ lane.publishes[message]?, publish.encoding = .garbled

instance (message : ℕ) : Decidable (lane.Garbled message) :=
  inferInstanceAs (Decidable (∃ publish ∈ _, _))

/-- `deliver`: what cannot be decoded does not reach the handler. -/
def deliver (sub : LaneSub) (message : ℕ) : LaneSub :=
  if lane.Garbled message then sub else { sub with handled := sub.handled ++ [message] }

/-- The next step of a worker.  `stop` chooses between two ready branches. -/
def work (index : ℕ) (stop : Bool) : Lane :=
  match lane.subs[index]? with
  | none => lane
  | some sub =>
      match sub.worker with
      | .waiting =>
          if stop then
            if sub.done then lane.setSub index { sub with worker := .stopped } else lane
          else
            match sub.queue with
            | [] => lane
            | message :: queue => lane.setSub index { lane.deliver sub message with
                queue := queue
                worker := .handling message
                taken := sub.taken ++ [message] }
      | .handling _ => (lane.addPending (-1)).setSub index { sub with worker := .waiting }
      | .stopped => lane

/-- The next step of an `Unsubscribe`.  A second call waits for the first one to
leave the table. -/
def unsubscribe (call : ℕ) : Lane :=
  match lane.unsubscribes[call]? with
  | none => lane
  | some ⟨target, closing⟩ =>
      match lane.subs[target]? with
      | none => lane
      | some sub =>
          match closing with
          | .called =>
              if sub.done = false then
                (lane.setSub target { sub with done := true }).setUnsubscribe call
                  ⟨target, .removing⟩
              else if sub.removed then lane.setUnsubscribe call ⟨target, .waiting⟩
              else lane
          | .removing =>
              let kept := (lane.table sub.subject).filter fun other => other ≠ target
              { (lane.setSub target { sub with removed := true }).setUnsubscribe call
                  ⟨target, .waiting⟩ with
                table := Function.update lane.table sub.subject kept }
          | .waiting => lane.setUnsubscribe call ⟨target, .emptying⟩
          | .emptying =>
              match sub.queue with
              | [] => lane.setUnsubscribe call ⟨target, .returned⟩
              | message :: queue =>
                  (lane.setSub target { sub with
                    queue := queue
                    discarded := sub.discarded ++ [message] }).setUnsubscribe call
                    ⟨target, .received⟩
          | .received =>
              (lane.addPending (-1)).setUnsubscribe call ⟨target, .emptying⟩
          | .returned => lane

end Lane

/-- A new subscription or call, or the next step of one. -/
inductive LaneStep where
  | subscribe (subject : Text) (size : ℕ)
  | callPublish (subject : Text) (encoding : Encoding)
  | publish (call : ℕ) (branch : Branch)
  | work (index : ℕ) (stop : Bool)
  | callUnsubscribe (target : ℕ)
  | unsubscribe (call : ℕ)

def Lane.take (lane : Lane) : LaneStep → Lane
  | .subscribe subject size => lane.subscribe subject size
  | .callPublish subject encoding =>
      { lane with publishes := lane.publishes ++ [⟨subject, encoding, .called, [], none⟩] }
  | .publish call branch => lane.publish call branch
  | .work index stop => lane.work index stop
  | .callUnsubscribe target =>
      if target < lane.subs.length then
        { lane with unsubscribes := lane.unsubscribes ++ [⟨target, .called⟩] }
      else lane
  | .unsubscribe call => lane.unsubscribe call

/-- The lane after the first `time` steps. -/
def laneAt (steps : List LaneStep) (time : ℕ) : Lane :=
  stateAt Lane.take .new steps time

end Fluxrig.Runtime
