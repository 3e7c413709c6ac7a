import Fluxrig.Conductor.Tree
import Fluxrig.Core.Program
import Fluxrig.Valet.Engine

/-!
# The conductor

`pkg/gears/native/conductor`: the gear routes each request to a destination,
parks a ticket for it in the correlation engine, matches the reply and sends it
home, and surfaces every abnormal outcome on the error port.  A handler is a
program whose atomic operations are the methods of the engine, the choice of a
destination and the emissions; between two of them anything else may happen.

Every emission carries its purpose, and a compensating `Release` the ticket of
its handler.  Both are there to be reasoned about; no step reads them.
-/

namespace Fluxrig.Conductor

open Fluxrig.Core Message
open Valet (TicketID ParkRequest)

def reasonNoRoute : Text := utf8 "no_route"
def reasonNoDestination : Text := utf8 "no_destination"
def reasonNoKey : Text := utf8 "no_key"
def reasonTimeout : Text := utf8 "timeout"
def reasonUnmatchedReply : Text := utf8 "unmatched_reply"
def reasonInvalidOrigin : Text := utf8 "invalid_origin"
def reasonOverloaded : Text := utf8 "overloaded"

def portResponse : Text := utf8 "out_response"
def portError : Text := utf8 "error"
def metaOrigin : Text := utf8 "conductor.origin"
def metaReason : Text := utf8 "error.reason"

/-- One entry of the routing table; an empty match field matches everything. -/
structure Route where
  matchField : Text
  matchPrefix : Text
  tree : DestNode

namespace Route

def needsLoad (route : Route) : Bool := containsLeastLoaded route.tree

/-- The leaves to snapshot; filled in only where the tree balances by load. -/
def leaves (route : Route) : List Text :=
  if route.needsLoad then route.tree.leaves else []

end Route

/-- A conductor as `Init` leaves it.  `sprint` stands for `fmt.Sprint`. -/
structure Gear where
  origin : Text
  knownOrigins : List Text
  corrKey : List Text
  parkFields : List Text
  routes : List Route
  valet : Valet.Settings
  sprint : Value → Text
  corrKey_ne_nil : corrKey ≠ []
  onExpire_set : valet.onExpire = true

/-- `delete(m, part)` for either shape of map. -/
def mapDelete (container : Value) (part : Text) : Value :=
  match container with
  | .object fields => .object (fields.filter fun field => field.1 ≠ part)
  | .table fields => .table (fields.filter fun field => field.1 ≠ .text part)
  | leaf => leaf

/-- The number of entries; a value that is no map is never pruned. -/
def mapLen : Value → ℤ
  | .object fields => fields.length
  | .table fields => fields.length
  | _ => -1

/-- Delete a path, pruning the maps that are empty afterwards, and tell whether
the container itself is empty. -/
def deleteNested (container : Value) : List Text → Value × Bool
  | [] => (container, mapLen container = 0)
  | [part] =>
      let after := mapDelete container part
      (after, mapLen after = 0)
  | part :: next :: rest =>
      match container.child part with
      | none => (container, mapLen container = 0)
      | some child =>
          let inner := deleteNested child (next :: rest)
          let after := if inner.2 then mapDelete container part
            else container.put part inner.1
          (after, mapLen after = 0)

/-- `deletePath` on the data of a message. -/
def deletePath (fields : List (Text × Value)) (path : Text) : List (Text × Value) :=
  match (deleteNested (.object fields) (splitDots path)).1 with
  | .object kept => kept
  | _ => fields

/-- The return-routing metadata of a request: everything but the codec fields. -/
def returnContext (metadata : Metadata) : Metadata :=
  metadata.entries.foldr (fun entry kept =>
    if (utf8 "iso8583.").isPrefixOf entry.1 || (utf8 "codec.").isPrefixOf entry.1
    then kept else kept.insert entry.1 entry.2) ∅

/-- `originPattern`: one to 128 letters, digits, hyphens and underscores. -/
def originPattern (origin : Text) : Bool :=
  1 ≤ origin.length && origin.length ≤ 128 && origin.all fun char =>
    (65 ≤ char && char ≤ 90) || (97 ≤ char && char ≤ 122) ||
      (48 ≤ char && char ≤ 57) || char == 95 || char == 45

namespace Gear

variable (gear : Gear)

/-- `route.matches`. -/
def routeMatches (route : Route) (msg : FluxMsg) : Bool :=
  if route.matchField = [] then true
  else if msg.data.isNone then false
  else
    match msg.get route.matchField with
    | none => false
    | some value => route.matchPrefix.isPrefixOf (fieldToKeyPart gear.sprint value)

/-- The correlation key, or nothing if the message lacks one of its fields. -/
def buildKey (msg : FluxMsg) : Option Text :=
  if msg.data.isNone then none
  else
    (gear.corrKey.mapM fun field =>
      (msg.get field).map (fieldToKeyPart gear.sprint)).map joinKeys

/-- A correlation key is never the empty text. -/
lemma buildKey_ne_nil {gear : Gear} {msg : FluxMsg} {key : Text}
    (hkey : gear.buildKey msg = some key) : key ≠ [] := by
  rw [buildKey] at hkey
  split at hkey
  · nomatch hkey
  · obtain ⟨parts, hparts, rfl⟩ := Option.map_eq_some_iff.mp hkey
    apply joinKeys_ne_nil
    cases hcorr : gear.corrKey with
    | nil => exact absurd hcorr gear.corrKey_ne_nil
    | cons =>
      rw [hcorr, List.mapM_cons] at hparts
      obtain ⟨part, _, hrest⟩ := Option.bind_eq_some_iff.mp hparts
      obtain ⟨others, _, hcons⟩ := Option.bind_eq_some_iff.mp hrest
      rw [← Option.some.inj hcons]
      exact List.cons_ne_nil part others

def matchRoute (msg : FluxMsg) : Option Route :=
  gear.routes.find? fun route => gear.routeMatches route msg

/-- Take the parked fields off the outbound message. -/
def stripParked (msg : FluxMsg) : FluxMsg :=
  { msg with data := msg.data.map fun fields => gear.parkFields.foldl deletePath fields }

/-- Put the parked fields back, from the request the ticket retains. -/
def restoreParked (ticket : Valet.Ticket) (reply : FluxMsg) : FluxMsg :=
  match ticket.request with
  | none => reply
  | some request =>
      if gear.parkFields = [] then reply
      else
        gear.parkFields.foldl (fun reply field =>
          match request.get field with
          | none => reply
          | some value => (reply.set field value).1)
          { reply with data := some (reply.data.getD []) }

/-- The response sent home: the reply with the parked fields restored and the
return context merged over its metadata. -/
def finishResponse (ticket : Valet.Ticket) (base : FluxMsg) : FluxMsg :=
  let restored := gear.restoreParked ticket base
  { restored with metadata := ticket.returnCtx ∪ restored.metadata }

/-- The return path of a redeemed ticket, unless its origin stamp is refused. -/
def responsePortFor (ticket : Valet.Ticket) : Option Text :=
  let origin := (ticket.returnCtx.lookup metaOrigin).getD []
  if origin = [] ∨ origin = gear.origin then some portResponse
  else if ¬ originPattern origin then none
  else if gear.knownOrigins ≠ [] ∧ origin ∉ gear.knownOrigins then none
  else some (portResponse ++ utf8 "_" ++ origin)

/-- The request as it leaves for a destination. -/
def outbound (msg : FluxMsg) : FluxMsg :=
  let stripped := gear.stripParked msg
  if gear.origin = [] then stripped else stripped.annotate metaOrigin gear.origin

end Gear

/-- The message `onExpire` surfaces: the request, with what it lacks of the
return context. -/
def expiredRequest (ticket : Valet.Ticket) (request : FluxMsg) : FluxMsg :=
  ({ request with metadata := request.metadata ∪ ticket.returnCtx }).annotate
    metaReason reasonTimeout

/-- Why a message is emitted. -/
inductive Purpose where
  | request (key : Text) (ticket : TicketID)
  | response (ticket : TicketID)
  | replay (ticket : TicketID)
  | timeout (ticket : TicketID)
  | error (reason : Text)
  deriving DecidableEq

/-- One call of the emitter and whether it was accepted. -/
structure Emission where
  purpose : Purpose
  port : Text
  msg : Option FluxMsg
  delivered : Bool

structure World where
  engine : Valet.Engine
  counters : Counters
  emissions : List Emission

inductive Op where
  | valet (op : Valet.Op)
  /-- The `Release` of a handler whose emission failed; `own` is the ticket its
  `Park` created. -/
  | release (key : Text) (own : TicketID)
  | pick (tree : DestNode) (load : Tally Text)
  | emit (purpose : Purpose) (port : Text) (msg : Option FluxMsg)

def Op.Reply : Op → Type
  | valet op => op.Reply
  | release _ _ => Except Valet.Err Unit
  | pick _ _ => Text
  | emit _ _ _ => Bool

/-- What a step finds outside the gear: the clock, the ports that may receive
traffic and those whose emission is accepted. -/
structure Input where
  valet : Valet.Input
  available : Text → Bool
  accepts : Text → Bool

def exec (gear : Gear) (op : Op) (input : Input) (world : World) : op.Reply × World :=
  match op with
  | .valet op =>
      let result := Valet.exec gear.valet op input.valet world.engine
      (result.1, { world with engine := result.2 })
  | .release key _ =>
      let result := world.engine.release key
      (result.1, { world with engine := result.2 })
  | .pick tree load =>
      let result := tree.pick ⟨input.available, load.count⟩ world.counters
      (result.1, { world with counters := result.2 })
  | .emit purpose port msg =>
      (input.accepts port, { world with
        emissions := world.emissions ++ [⟨purpose, port, msg, input.accepts port⟩] })

inductive Err where
  | unexpectedPort (port : Text)
  | park (err : Valet.Err)
  | redeem (err : Valet.Err)
  | emit
  | drain (err : Valet.Err)
  deriving DecidableEq

abbrev Handler := Program Op Op.Reply (Except Err Unit)

/-- `emitter.Emit`, its error returned. -/
def emit (purpose : Purpose) (port : Text) (msg : Option FluxMsg) : Handler :=
  .perform (.emit purpose port msg) fun (accepted : Bool) =>
    .done (if accepted then .ok () else .error .emit)

/-- `emitError`: a failure of the emission is only logged. -/
def emitError (msg : FluxMsg) (reason : Text) : Handler :=
  .perform (.emit (.error reason) portError (some (msg.annotate metaReason reason)))
    fun _ => .done (.ok ())

variable (gear : Gear) (msg : FluxMsg)

/-- The part of `handleRequest` after `Park` reported Parked. -/
def forward (key dest : Text) (own : TicketID) : Handler :=
  .perform (.emit (.request key own) dest (some (gear.outbound msg)))
    fun (accepted : Bool) =>
      if accepted then .done (.ok ())
      else .perform (.release key own) fun _ => .done (.error .emit)

/-- The part of `handleRequest` after `Park` reported ReplayedClosed. -/
def replay (handle : Valet.Handle) : Handler :=
  match gear.responsePortFor handle.ticket with
  | none => emitError msg reasonInvalidOrigin
  | some port =>
      emit (.replay handle.id) port
        (handle.ticket.outcome.map (gear.finishResponse handle.ticket))

/-- What `handleRequest` does with the reply of `Park`. -/
def afterPark (key dest : Text) : Except Valet.Err (Valet.ParkResult × Valet.Handle) → Handler
  | .error .overloaded => emitError msg reasonOverloaded
  | .error err => .done (.error (.park err))
  | .ok (.parked, handle) => forward gear msg key dest handle.id
  | .ok (.attachedOpen, _) => .done (.ok ())
  | .ok (.replayedClosed, handle) => replay gear msg handle

/-- The part of `handleRequest` from `Park` on. -/
def parkAndForward (key dest : Text) : Handler :=
  .perform (.valet (.park ⟨key, dest, some msg, returnContext msg.metadata, 0⟩))
    (afterPark gear msg key dest)

/-- The in-flight counts a pick consults, read in one step and only where the
tree balances by load. -/
def snapshot (route : Route) : Program Op Op.Reply (Tally Text) :=
  if route.needsLoad then .perform (.valet (.inFlightSnapshot route.leaves)) .done
  else .done ∅

def handleRequest (gear : Gear) (msg : FluxMsg) : Handler :=
  match gear.buildKey msg with
  | none => emitError msg reasonNoKey
  | some key =>
      match gear.matchRoute msg with
      | none => emitError msg reasonNoRoute
      | some route =>
          snapshot route >>= fun load =>
            .perform (.pick route.tree load) fun (dest : Text) =>
              if dest = [] then emitError msg reasonNoDestination
              else parkAndForward gear msg key dest

def handleReply (gear : Gear) (msg : FluxMsg) : Handler :=
  match gear.buildKey msg with
  | none => emitError msg reasonUnmatchedReply
  | some key =>
      .perform (.valet (.redeem key (some msg))) fun (reply : Except _ Valet.Handle) =>
        match reply with
        | .error .unmatched => emitError msg reasonUnmatchedReply
        | .error .alreadyRedeemed => emitError msg reasonUnmatchedReply
        | .error err => .done (.error (.redeem err))
        | .ok handle =>
            match gear.responsePortFor handle.ticket with
            | none => emitError msg reasonInvalidOrigin
            | some port =>
                emit (.response handle.id) port (some (gear.finishResponse handle.ticket msg))

/-- `ProcessPort`: the arrival port tells the role of the message. -/
def processPort (gear : Gear) (port : Text) (msg : FluxMsg) : Handler :=
  if port = utf8 "in" then handleRequest gear msg
  else if port = utf8 "in_reply" then handleReply gear msg
  else .done (.error (.unexpectedPort port))

/-- `onExpire`: a failure of the emission is only logged. -/
def onExpire (handle : Valet.Handle) : Handler :=
  match handle.ticket.request with
  | none => .done (.ok ())
  | some request =>
      .perform (.emit (.timeout handle.id) portError
        (some (expiredRequest handle.ticket request))) fun _ => .done (.ok ())

/-- What the conductor does over its life: it is handed messages, its timers go
off and their callbacks run, it is drained and stopped. -/
inductive Call where
  | message (port : Text) (msg : FluxMsg)
  | elapse (timer : Valet.Timer)
  | callback (callback : Valet.Callback)
  | drain
  | wake
  | stop

/-- The reply of a step of `Drain`; a call that waits has not failed. -/
def drainReply : Option (Except Valet.Err Unit) → Except Err Unit
  | some (.error err) => .error (.drain err)
  | _ => .ok ()

def body (gear : Gear) : Call → Handler
  | .message port msg => processPort gear port msg
  | .elapse timer => .perform (.valet (.elapse timer)) fun _ => .done (.ok ())
  | .callback callback =>
      .perform (.valet (.callback callback)) fun (reply : Option Valet.Handle) =>
        match reply with
        | none => .done (.ok ())
        | some handle => onExpire handle
  | .drain => .perform (.valet .drain) fun reply => .done (drainReply reply)
  | .wake => .perform (.valet .wake) fun reply => .done (drainReply reply)
  | .stop => .perform (.valet .close) fun _ => .done (.ok ())

abbrev System := Config Op Op.Reply (Except Err Unit) Call World

/-- The conductor before any call. -/
def World.new : World where
  engine := .new
  counters := fun _ => 0
  emissions := []

def System.new : System where
  state := .new
  threads := []

end Fluxrig.Conductor
