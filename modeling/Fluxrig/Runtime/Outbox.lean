import Fluxrig.Core.Timeline
import Fluxrig.Message.FluxMsg

/-!
# The outbox

`pkg/runtime/outbox.go`: a bounded queue of emissions the bus did not take.  Each
method below is one section under the outbox mutex.  A parked message or event is
told apart by its pointer, which is its `id` here; what it carries is never
looked at.
-/

namespace Fluxrig.Runtime

open Fluxrig.Core Message

inductive Kind where
  | message
  | event
  deriving DecidableEq

/-- One parked emission: a message or a durable event. -/
structure Item where
  id : ℕ
  subject : Text
  kind : Kind
  deriving DecidableEq

/-- Whether two items are the same emission. -/
def Item.same (item other : Item) : Bool := item.id = other.id

def defaultOutboxMaxMessages : ℕ := 10000
def defaultOutboxDrainRetries : ℕ := 3
def outboxOrderSubject : Text := utf8 "subject"
def outboxOrderNone : Text := utf8 "none"

structure OutboxSettings where
  max : ℕ
  retries : ℕ
  ordered : Bool
  max_pos : 0 < max

/-- A non-positive number selects the default. -/
def orDefault (number : ℤ) (default : ℕ) : ℕ :=
  if number ≤ 0 then default else number.toNat

lemma orDefault_pos (number : ℤ) {default : ℕ} (hdefault : 0 < default) :
    0 < orDefault number default := by
  rw [orDefault]
  split
  · exact hdefault
  next hset => exact Int.lt_toNat.mpr (not_le.mp hset)

/-- `SetOutboxConfig`; an unknown order is refused. -/
def OutboxSettings.new (maxMessages drainRetries : ℤ) (order : Text) : Option OutboxSettings :=
  if order = [] ∨ order = outboxOrderSubject ∨ order = outboxOrderNone then
    some {
      max := orDefault maxMessages defaultOutboxMaxMessages
      retries := orDefault drainRetries defaultOutboxDrainRetries
      ordered := order = [] ∨ order = outboxOrderSubject
      max_pos := orDefault_pos maxMessages (by decide) }
  else none

structure Outbox where
  items : List Item
  draining : Bool
  again : Bool
  dropped : ℕ
  parked : ℕ
  drained : ℕ

namespace Outbox

def new : Outbox where
  items := []
  draining := false
  again := false
  dropped := 0
  parked := 0
  drained := 0

/-- Whether the queue holds an emission on this subject. -/
def heldLocked (box : Outbox) (subject : Text) : Bool :=
  box.items.any fun item => item.subject = subject

def oldestEventLocked (box : Outbox) : Option Item :=
  box.items.find? fun item => item.kind = .event

/-- The entry a message takes the place of: the oldest event, or else the oldest
entry. -/
def victim (box : Outbox) : Option Item :=
  box.oldestEventLocked.or box.items.head?

/-- Drop the victim. -/
def evict (box : Outbox) : Outbox :=
  { box with
    items := if box.oldestEventLocked.isSome then
        box.items.eraseP fun item => item.kind = .event
      else box.items.tail
    dropped := box.dropped + 1 }

/-- The loop of `parkLocked`; it makes as many rounds as there are entries at
most. -/
def makeRoom (max : ℕ) : ℕ → Outbox → Outbox
  | 0, box => box
  | rounds + 1, box =>
      if max ≤ box.items.length then makeRoom max rounds box.evict else box

def append (box : Outbox) (item : Item) : Outbox :=
  { box with
    items := box.items ++ [item]
    parked := box.parked + 1 }

variable (cfg : OutboxSettings) (subject : Text) (id : ℕ) (box : Outbox)

/-- `park` of a message. -/
def park : Outbox :=
  (makeRoom cfg.max box.items.length box).append ⟨id, subject, .message⟩

/-- `parkEvent`: a full outbox refuses an event. -/
def parkEvent : Bool × Outbox :=
  if cfg.max ≤ box.items.length then (false, box)
  else (true, box.append ⟨id, subject, .event⟩)

def parkIfHeld : Bool × Outbox :=
  if cfg.ordered = false ∨ box.heldLocked subject = false then (false, box)
  else (true, box.park cfg subject id)

/-- `parkEventIfHeld`: whether the subject is held, and whether the event found
room. -/
def parkEventIfHeld : (Bool × Bool) × Outbox :=
  if cfg.ordered = false ∨ box.heldLocked subject = false then ((false, false), box)
  else
    let result := box.parkEvent cfg subject id
    ((true, result.1), result.2)

/-- Whether the item is still queued. -/
def holds (box : Outbox) (item : Item) : Bool := box.items.any item.same

/-- Take an item out and count it; one the cap evicted is not counted twice. -/
def remove (item : Item) (dropped : Bool) (box : Outbox) : Outbox :=
  if box.holds item then
    { box with
      items := box.items.eraseP item.same
      dropped := if dropped then box.dropped + 1 else box.dropped
      drained := if dropped then box.drained else box.drained + 1 }
  else box

/-- `beginDrain`: whether the caller has to run the drain. -/
def beginDrain (box : Outbox) : Bool × Outbox :=
  if box.draining then (false, { box with again := true })
  else (true, { box with draining := true })

/-- The drain ends: the queue is empty or its context has ended. -/
def endDrain (box : Outbox) : Outbox :=
  { box with draining := false, again := false }

/-- The end of a pass that forwarded nothing: whether the drain goes on. -/
def endPass (box : Outbox) : Bool × Outbox :=
  if box.again then (true, { box with again := false })
  else (false, { box with draining := false })

end Outbox

inductive OutboxOp where
  | park (subject : Text) (id : ℕ)
  | parkEvent (subject : Text) (id : ℕ)
  | parkIfHeld (subject : Text) (id : ℕ)
  | parkEventIfHeld (subject : Text) (id : ℕ)
  | remove (item : Item) (dropped : Bool)
  | beginDrain
  | endDrain
  | endPass

/-- The outbox after a locked section. -/
def Outbox.after (cfg : OutboxSettings) (box : Outbox) : OutboxOp → Outbox
  | .park subject id => box.park cfg subject id
  | .parkEvent subject id => (box.parkEvent cfg subject id).2
  | .parkIfHeld subject id => (box.parkIfHeld cfg subject id).2
  | .parkEventIfHeld subject id => (box.parkEventIfHeld cfg subject id).2
  | .remove item dropped => box.remove item dropped
  | .beginDrain => box.beginDrain.2
  | .endDrain => box.endDrain
  | .endPass => box.endPass.2

end Fluxrig.Runtime
