import Fluxrig.Core.Tally
import Fluxrig.Message.FluxMsg

/-!
# The correlation engine

`pkg/valet`: a caller parks a ticket for each request in flight and redeems it
with the reply.  Every method runs under one mutex, so each is one atomic step;
`Drain` is two, because it waits on a condition variable.  A timer that goes off
starts a goroutine that later takes the mutex, so going off and running the
callback are separate steps, and a `Stop` in between comes too late.

Tickets are shared by pointer in the source.  Here a pointer is a `TicketID` and
the tickets themselves are the field `tickets` of the engine.
-/

namespace Fluxrig.Valet

open Fluxrig.Core Message

/-- Nanoseconds, both for instants and for durations. -/
abbrev Time := ℤ

/-- The identity of a ticket: its address. -/
abbrev TicketID := ℕ

inductive Method where
  | park
  | redeem
  | release
  deriving DecidableEq

inductive Err where
  | emptyKey (method : Method)
  | unmatched
  | alreadyRedeemed
  | draining
  | overloaded
  | closed
  | interrupted (stillOpen : ℤ)
  deriving DecidableEq

def defaultTTL : Time := 60000000000

def defaultRetainAfterClose : Time := 5000000000

structure Config where
  defaultTTL : Time
  maxTTL : Time
  maxInFlight : ℤ
  retainAfterClose : Time
  /-- Whether an `OnExpire` callback is set. -/
  onExpire : Bool

inductive ConfigErr where
  | negativeDefaultTTL
  | negativeMaxTTL
  | negativeMaxInFlight
  | maxTTLTooSmall (maxTTL defaultTTL : Time)
  deriving DecidableEq

/-- A configuration that `new` accepted, with its defaults applied. -/
structure Settings where
  defaultTTL : Time
  maxTTL : Time
  maxInFlight : ℤ
  retain : Time
  onExpire : Bool
  defaultTTL_pos : 0 < defaultTTL
  maxTTL_cap : maxTTL = 0 ∨ defaultTTL ≤ maxTTL
  maxInFlight_nonneg : 0 ≤ maxInFlight
  retain_nonneg : 0 ≤ retain

variable (config : Config)

/-- The `DefaultTTL` in force. -/
def Config.effectiveTTL : Time :=
  if config.defaultTTL = 0 then Valet.defaultTTL else config.defaultTTL

/-- The retention window in force; a negative one disables retention. -/
def Config.effectiveRetain : Time :=
  if config.retainAfterClose = 0 then defaultRetainAfterClose
  else if config.retainAfterClose < 0 then 0 else config.retainAfterClose

lemma Config.effectiveTTL_pos (httl : 0 ≤ config.defaultTTL) : 0 < config.effectiveTTL := by
  rw [Config.effectiveTTL]
  split
  · decide
  next hset => exact lt_of_le_of_ne httl (Ne.symm hset)

lemma Config.effectiveRetain_nonneg : 0 ≤ config.effectiveRetain := by
  rw [Config.effectiveRetain]
  split
  · decide
  · split
    · exact le_refl 0
    next hset => exact not_lt.mp hset

/-- `New`, up to the settings it fixes. -/
def Config.new : Except ConfigErr Settings :=
  if httl : config.defaultTTL < 0 then .error .negativeDefaultTTL
  else if hmax : config.maxTTL < 0 then .error .negativeMaxTTL
  else if hlimit : config.maxInFlight < 0 then .error .negativeMaxInFlight
  else if hcap : 0 < config.maxTTL ∧ config.maxTTL < config.effectiveTTL then
    .error (.maxTTLTooSmall config.maxTTL config.effectiveTTL)
  else .ok {
    defaultTTL := config.effectiveTTL
    maxTTL := config.maxTTL
    maxInFlight := config.maxInFlight
    retain := config.effectiveRetain
    onExpire := config.onExpire
    defaultTTL_pos := config.effectiveTTL_pos (not_lt.mp httl)
    maxTTL_cap := by
      by_cases hzero : config.maxTTL = 0
      · exact Or.inl hzero
      · have hpos : 0 < config.maxTTL := lt_of_le_of_ne (not_lt.mp hmax) (Ne.symm hzero)
        exact Or.inr (not_lt.mp fun hsmall => hcap ⟨hpos, hsmall⟩)
    maxInFlight_nonneg := not_lt.mp hlimit
    retain_nonneg := config.effectiveRetain_nonneg }

inductive TicketState where
  | opened
  | closed
  | expired
  | released
  deriving DecidableEq

/-- The function a timer runs when it goes off. -/
inductive Callback where
  | expire (ticket : TicketID)
  | purge (key : Text) (ticket : TicketID)
  deriving DecidableEq

structure Timer where
  callback : Callback
  due : Time
  deriving DecidableEq

structure Ticket where
  key : Text
  destination : Text
  returnCtx : Metadata
  request : Option FluxMsg
  outcome : Option FluxMsg
  parkedAt : Time
  deadline : Time
  closedAt : Time
  state : TicketState
  timer : Option Callback

/-- The zero value of a ticket. -/
def Ticket.zero : Ticket where
  key := []
  destination := []
  returnCtx := ∅
  request := none
  outcome := none
  parkedAt := 0
  deadline := 0
  closedAt := 0
  state := .opened
  timer := none

/-- A `*Ticket` handed to a caller: its identity and its fields at that moment. -/
structure Handle where
  id : TicketID
  ticket : Ticket

inductive ParkResult where
  | parked
  | attachedOpen
  | replayedClosed
  deriving DecidableEq

structure ParkRequest where
  key : Text
  destination : Text
  request : Option FluxMsg
  returnCtx : Metadata
  ttl : Time

/-- The in-memory `Store` of open tickets. -/
abbrev MemoryStore := AList fun _ : Text => TicketID

namespace MemoryStore

/-- Store a ticket unless its key is taken; a taken key yields its ticket. -/
def insert (store : MemoryStore) (key : Text) (ticket : TicketID) :
    Option TicketID × MemoryStore :=
  match store.lookup key with
  | some existing => (some existing, store)
  | none => (none, AList.insert key ticket store)

def get (store : MemoryStore) (key : Text) : Option TicketID :=
  store.lookup key

/-- Remove and return the ticket of a key. -/
def take (store : MemoryStore) (key : Text) : Option (TicketID × MemoryStore) :=
  (store.lookup key).map fun ticket => (ticket, store.erase key)

/-- Empty the store, returning what it held. -/
def purge (store : MemoryStore) : List TicketID × MemoryStore :=
  (store.entries.map Sigma.snd, ∅)

end MemoryStore

inductive EngineState where
  | running
  | draining
  | closed
  deriving DecidableEq

/-- What the mutex guards, timers apart: the fields of the engine, the store and
the tickets.  Tickets are created with the identities `0, 1, 2, …`. -/
structure Books where
  state : EngineState
  openCount : ℤ
  destCounts : Tally Text
  retained : AList fun _ : Text => TicketID
  store : MemoryStore
  tickets : TicketID → Ticket
  next : TicketID

/-- The books, the timers that have not gone off, the callbacks of those that
have and have not run yet, and the number of `Drain` calls that wait. -/
structure Engine extends Books where
  armed : List Timer
  launched : List Callback
  waiting : ℕ

namespace Engine

def new : Engine where
  state := .running
  openCount := 0
  destCounts := ∅
  retained := ∅
  store := ∅
  tickets := fun _ => Ticket.zero
  next := 0
  armed := []
  launched := []
  waiting := 0

variable (engine : Engine)

def handle (ticket : TicketID) : Handle :=
  ⟨ticket, engine.tickets ticket⟩

def setTicket (id : TicketID) (ticket : Ticket) : Engine :=
  { engine with tickets := Function.update engine.tickets id ticket }

/-- `Clock.AfterFunc`. -/
def afterFunc (due : Time) (callback : Callback) : Engine :=
  { engine with armed := ⟨callback, due⟩ :: engine.armed }

/-- `Timer.Stop` on the timer of a ticket, if it has one: without effect on a
timer that has gone off. -/
def stop (timer : Option Callback) : Engine :=
  { engine with
    armed := engine.armed.filter fun armed => timer ≠ some armed.callback }

/-- Accounting after a ticket left the store.  The broadcast lets every waiting
`Drain` look again, which it may do at any later step. -/
def decOpenLocked (ticket : Ticket) : Engine :=
  { engine with
    openCount := engine.openCount - 1
    destCounts := engine.destCounts.dec ticket.destination }

variable (cfg : Settings)

/-- The deadline of a request: its own or the default one, capped. -/
def effectiveTTL (request : ParkRequest) : Time :=
  let ttl := if request.ttl ≤ 0 then cfg.defaultTTL else request.ttl
  if 0 < cfg.maxTTL ∧ cfg.maxTTL < ttl then cfg.maxTTL else ttl

/-- The ticket a new request gets. -/
def newTicket (request : ParkRequest) (now : Time) (id : TicketID) : Ticket where
  key := request.key
  destination := request.destination
  returnCtx := request.returnCtx
  request := request.request
  outcome := none
  parkedAt := now
  deadline := now + effectiveTTL cfg request
  closedAt := 0
  state := .opened
  timer := some (.expire id)

def park (request : ParkRequest) (now : Time) (engine : Engine) :
    Except Err (ParkResult × Handle) × Engine :=
  if request.key = [] then (.error (.emptyKey .park), engine)
  else if engine.state = .closed then (.error .closed, engine)
  else
    match engine.store.get request.key with
    | some existing => (.ok (.attachedOpen, engine.handle existing), engine)
    | none =>
        match engine.retained.lookup request.key with
        | some closed => (.ok (.replayedClosed, engine.handle closed), engine)
        | none =>
            if engine.state = .draining then (.error .draining, engine)
            else if 0 < cfg.maxInFlight ∧ cfg.maxInFlight ≤ engine.openCount then
              (.error .overloaded, engine)
            else
              let id := engine.next
              let ticket := newTicket cfg request now id
              match engine.store.insert request.key id with
              | (some existing, _) =>
                  (.ok (.attachedOpen, engine.handle existing), engine)
              | (none, store) =>
                  let parked := { engine.setTicket id ticket with
                    next := id + 1
                    store := store
                    openCount := engine.openCount + 1
                    destCounts := engine.destCounts.inc ticket.destination }
                  (.ok (.parked, ⟨id, ticket⟩), parked.afterFunc ticket.deadline (.expire id))

def redeem (key : Text) (outcome : Option FluxMsg) (now : Time) (engine : Engine) :
    Except Err Handle × Engine :=
  if key = [] then (.error (.emptyKey .redeem), engine)
  else if engine.state = .closed then (.error .closed, engine)
  else
    match engine.store.take key with
    | none =>
        if (engine.retained.lookup key).isSome then (.error .alreadyRedeemed, engine)
        else (.error .unmatched, engine)
    | some (id, store) =>
        let ticket := engine.tickets id
        let redeemed := { ticket with
          outcome := outcome, closedAt := now, state := .closed }
        let closed := (({ engine with store := store }.stop ticket.timer).setTicket
          id redeemed).decOpenLocked ticket
        if 0 < cfg.retain then
          let kept := { redeemed with timer := some (.purge key id) }
          let retaining := { closed.setTicket id kept with
            retained := engine.retained.insert key id }
          (.ok ⟨id, kept⟩, retaining.afterFunc (now + cfg.retain) (.purge key id))
        else (.ok ⟨id, redeemed⟩, closed)

def release (key : Text) (engine : Engine) : Except Err Unit × Engine :=
  if key = [] then (.error (.emptyKey .release), engine)
  else if engine.state = .closed then (.error .closed, engine)
  else
    match engine.store.take key with
    | none => (.error .unmatched, engine)
    | some (id, store) =>
        let ticket := engine.tickets id
        let released := { ticket with state := .released }
        (.ok (), (({ engine with store := store }.stop ticket.timer).setTicket
          id released).decOpenLocked ticket)

/-- `expire` under the lock; the reply is the `OnExpire` call that follows. -/
def expire (cfg : Settings) (id : TicketID) (engine : Engine) : Option Handle × Engine :=
  if engine.state = .closed then (none, engine)
  else
    let ticket := engine.tickets id
    if engine.store.get ticket.key ≠ some id then (none, engine)
    else
      match engine.store.take ticket.key with
      | none => (none, engine)
      | some (_, store) =>
          let expired := { ticket with state := .expired }
          let after := ({ engine with store := store }.setTicket
            id expired).decOpenLocked ticket
          (if cfg.onExpire then some ⟨id, expired⟩ else none, after)

def purge (key : Text) (id : TicketID) (engine : Engine) : Engine :=
  if engine.retained.lookup key = some id then
    { engine with retained := engine.retained.erase key }
  else engine

/-- The loop condition of `Drain`, negated: whether a `Drain` returns now. -/
def drained (engine : Engine) (done : Bool) : Bool :=
  ¬ (0 < engine.openCount ∧ ¬ done ∧ engine.state = .draining)

/-- What a `Drain` that leaves its loop returns. -/
def drainResult (engine : Engine) : Except Err Unit :=
  if 0 < engine.openCount then .error (.interrupted engine.openCount) else .ok ()

/-- `Drain` up to its first wait; no reply means that it waits. -/
def drain (done : Bool) (engine : Engine) : Option (Except Err Unit) × Engine :=
  if engine.state = .closed then (some (.error .closed), engine)
  else
    let draining := { engine with state := .draining }
    if draining.drained done then (some draining.drainResult, draining)
    else (none, { draining with waiting := engine.waiting + 1 })

/-- A waiting `Drain` looks again. -/
def wake (done : Bool) (engine : Engine) : Option (Except Err Unit) × Engine :=
  if engine.waiting = 0 then (none, engine)
  else if engine.drained done then
    (some engine.drainResult, { engine with waiting := engine.waiting - 1 })
  else (none, engine)

def close (engine : Engine) : Engine :=
  if engine.state = .closed then engine
  else
    let purged := engine.store.purge
    let dropped := purged.1 ++ engine.retained.entries.map Sigma.snd
    let stopped := dropped.foldl
      (fun engine id => engine.stop (engine.tickets id).timer) engine
    { stopped with
      state := .closed
      store := purged.2
      retained := ∅
      openCount := 0
      destCounts := ∅ }

/-- A timer goes off: its callback gets a goroutine. -/
def elapse (timer : Timer) (now : Time) (engine : Engine) : Engine :=
  if timer ∈ engine.armed ∧ timer.due ≤ now then
    { engine with
      armed := engine.armed.erase timer
      launched := timer.callback :: engine.launched }
  else engine

/-- The goroutine of a timer that has gone off runs its callback. -/
def callback (cfg : Settings) (callback : Callback) (engine : Engine) : Option Handle × Engine :=
  if callback ∈ engine.launched then
    let started := { engine with launched := engine.launched.erase callback }
    match callback with
    | .expire id => started.expire cfg id
    | .purge key id => (none, started.purge key id)
  else (none, engine)

/-- `InFlightSnapshot`. -/
def inFlightSnapshot (dests : List Text) (engine : Engine) : Tally Text :=
  dests.foldl (fun out dest => out.insert dest (engine.destCounts.count dest)) ∅

end Engine

inductive Op where
  | park (request : ParkRequest)
  | redeem (key : Text) (outcome : Option FluxMsg)
  | release (key : Text)
  | drain
  | wake
  | close
  | elapse (timer : Timer)
  | callback (callback : Callback)
  | inFlightSnapshot (dests : List Text)

def Op.Reply : Op → Type
  | park _ => Except Err (ParkResult × Handle)
  | redeem _ _ => Except Err Handle
  | release _ => Except Err Unit
  | drain => Option (Except Err Unit)
  | wake => Option (Except Err Unit)
  | close => Unit
  | elapse _ => Unit
  | callback _ => Option Handle
  | inFlightSnapshot _ => Tally Text

/-- What a step finds outside the engine: the clock, and whether the context of
the waiting `Drain` is done. -/
structure Input where
  now : Time
  done : Bool

def exec (cfg : Settings) (op : Op) (input : Input) (engine : Engine) : op.Reply × Engine :=
  match op with
  | .park request => engine.park cfg request input.now
  | .redeem key outcome => engine.redeem cfg key outcome input.now
  | .release key => engine.release key
  | .drain => engine.drain input.done
  | .wake => engine.wake input.done
  | .close => ((), engine.close)
  | .elapse timer => ((), engine.elapse timer input.now)
  | .callback callback => engine.callback cfg callback
  | .inFlightSnapshot dests => (engine.inFlightSnapshot dests, engine)

end Fluxrig.Valet
