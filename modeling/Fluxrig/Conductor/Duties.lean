import Fluxrig.Conductor.Gear
import Fluxrig.Core.Protocol
import Fluxrig.Valet.Lifecycle

/-!
# What a handler owes

A handler that parked a ticket owes the request an emission, and a `Release` if
the emission fails; one that redeemed a ticket owes the response, one that ran
an expiry callback the timeout message.  The duty of a handler is read off its
next operation, so a handler in the middle of its work is described by what it
owes.  `Takes` lists the steps at which a duty can be taken on.
-/

namespace Fluxrig.Conductor

open Fluxrig.Core Message
open Valet (TicketID ParkRequest Accounted Change Books)

inductive Duty where
  | clear
  | sending (purpose : Purpose) (port : Text) (msg : Option FluxMsg)
  | undoing (key : Text) (own : TicketID)

def Op.duty : Op → Duty
  | emit (.error _) _ _ => .clear
  | emit purpose port msg => .sending purpose port msg
  | release key own => .undoing key own
  | valet _ => .clear
  | pick _ _ => .clear

/-- The response a closed ticket stands for. -/
def Gear.answer (gear : Gear) (ticket : Valet.Ticket) : Option FluxMsg :=
  ticket.outcome.map (gear.finishResponse ticket)

/-- The duty a handler may take on with one operation. -/
inductive Takes (gear : Gear) (world : World) (input : Input) : Op → Duty → Prop where
  | clear (op : Op) : Takes gear world input op .clear
  | request (request : ParkRequest) (handle : Valet.Handle) (port : Text)
      (msg : Option FluxMsg)
      (hreply : (world.engine.park gear.valet request input.valet.now).1 =
        .ok (.parked, handle)) :
      Takes gear world input (.valet (.park request))
        (.sending (.request request.key handle.id) port msg)
  | replay (request : ParkRequest) (handle : Valet.Handle) (port : Text)
      (hreply : (world.engine.park gear.valet request input.valet.now).1 =
        .ok (.replayedClosed, handle))
      (hport : gear.responsePortFor handle.ticket = some port) :
      Takes gear world input (.valet (.park request))
        (.sending (.replay handle.id) port (gear.answer handle.ticket))
  | response (key : Text) (outcome : Option FluxMsg) (handle : Valet.Handle)
      (port : Text)
      (hreply : (world.engine.redeem gear.valet key outcome input.valet.now).1 = .ok handle)
      (hport : gear.responsePortFor handle.ticket = some port) :
      Takes gear world input (.valet (.redeem key outcome))
        (.sending (.response handle.id) port (outcome.map (gear.finishResponse handle.ticket)))
  | timeout (callback : Valet.Callback) (handle : Valet.Handle) (port : Text)
      (msg : Option FluxMsg)
      (hreply : (world.engine.callback gear.valet callback).1 = some handle) :
      Takes gear world input (.valet (.callback callback))
        (.sending (.timeout handle.id) port msg)
  | undo (key : Text) (own : TicketID) (port : Text) (msg : Option FluxMsg) :
      Takes gear world input (.emit (.request key own) port msg) (.undoing key own)

/-- What the operations of the handlers look like: a parked request is a message
with that key and a route, a redeemed outcome is a message with that key. -/
def Proper (gear : Gear) : Op → Prop
  | .valet (.park request) => ∃ msg, request.request = some msg ∧
      gear.buildKey msg = some request.key ∧ (gear.matchRoute msg).isSome
  | .valet (.redeem key outcome) => ∃ msg, outcome = some msg ∧ gear.buildKey msg = some key
  | .valet (.release _) => False
  | _ => True

/-- The protocol every handler follows; it relies on nothing. -/
def rules (gear : Gear) : Protocol (exec gear) Duty where
  label := Op.duty
  idle := .clear
  assume := fun _ _ _ => True
  rely := fun _ _ => True
  guarantee := fun op input world duty => Proper gear op ∧ Takes gear world input op duty
  rely_refl := fun _ => trivial
  rely_trans := fun _ _ => trivial

lemma compatible (gear : Gear) : Protocol.Compatible fun _ => rules gear :=
  fun _ _ _ _ _ _ _ _ => trivial

section

variable {gear : Gear}

/-- Whatever the world, the rest of a handler with this duty keeps to the
protocol. -/
def Keeps (gear : Gear) (handler : Handler) (duty : Duty) : Prop :=
  ∀ world, (rules gear).Holds handler (fun _ after _ => after = .clear) duty world

lemma keeps_done (result : Except Err Unit) : Keeps gear (.done result) .clear := fun _ => rfl

lemma keeps_perform {op : Op} {next : op.Reply → Handler} (hproper : Proper gear op)
    (hnext : ∀ world input, ∃ duty, Takes gear world input op duty ∧
      Keeps gear (next (exec gear op input world).1) duty) :
    Keeps gear (.perform op next) op.duty := by
  intro world
  apply Protocol.Holds.perform
  intro current _ input _
  obtain ⟨duty, htakes, hkeeps⟩ := hnext current input
  exact ⟨duty, ⟨hproper, htakes⟩, hkeeps _⟩

lemma keeps_emitError (msg : FluxMsg) (reason : Text) :
    Keeps gear (emitError msg reason) .clear :=
  keeps_perform trivial fun _ _ => ⟨.clear, .clear _, keeps_done _⟩

/-- The last emission of a handler: it owes just that. -/
lemma keeps_emit_last {purpose : Purpose} {port : Text} {msg : Option FluxMsg}
    {result : Bool → Except Err Unit} :
    Keeps gear (.perform (.emit purpose port msg) fun accepted => .done (result accepted))
      (Op.duty (.emit purpose port msg)) :=
  keeps_perform trivial fun _ _ => ⟨.clear, .clear _, keeps_done _⟩

lemma keeps_forward (msg : FluxMsg) (key dest : Text) (own : TicketID) :
    Keeps gear (forward gear msg key dest own)
      (.sending (.request key own) dest (some (gear.outbound msg))) := by
  refine keeps_perform trivial fun world input => ?_
  by_cases haccepted : input.accepts dest
  · refine ⟨.clear, .clear _, ?_⟩
    rw [exec, if_pos haccepted]
    exact keeps_done _
  · refine ⟨.undoing key own, .undo .., ?_⟩
    rw [exec, if_neg haccepted]
    exact keeps_perform trivial fun _ _ => ⟨.clear, .clear _, keeps_done _⟩

lemma keeps_parkAndForward {msg : FluxMsg} {key : Text} (dest : Text)
    (hkey : gear.buildKey msg = some key) (hroute : (gear.matchRoute msg).isSome) :
    Keeps gear (parkAndForward gear msg key dest) .clear := by
  refine keeps_perform ⟨msg, rfl, hkey, hroute⟩ fun world input => ?_
  change ∃ duty, _ ∧ Keeps gear (afterPark gear msg key dest
    (world.engine.park gear.valet _ _).1) duty
  cases hreply : (world.engine.park gear.valet
      ⟨key, dest, some msg, returnContext msg.metadata, 0⟩ input.valet.now).1 with
  | error err =>
    cases err with
    | overloaded => exact ⟨.clear, .clear _, keeps_emitError msg _⟩
    | _ => exact ⟨.clear, .clear _, keeps_done _⟩
  | ok result =>
    obtain ⟨outcome, handle⟩ := result
    cases outcome with
    | parked => exact ⟨_, .request _ handle _ _ hreply, keeps_forward msg key dest _⟩
    | attachedOpen => exact ⟨.clear, .clear _, keeps_done _⟩
    | replayedClosed =>
      rw [afterPark, replay]
      cases hport : gear.responsePortFor handle.ticket with
      | none => exact ⟨.clear, .clear _, keeps_emitError msg _⟩
      | some port => exact ⟨_, .replay _ handle port hreply hport, keeps_emit_last⟩

lemma keeps_handleRequest (msg : FluxMsg) : Keeps gear (handleRequest gear msg) .clear := by
  rw [handleRequest]
  cases hkey : gear.buildKey msg with
  | none => exact keeps_emitError msg _
  | some key =>
    cases hroute : gear.matchRoute msg with
    | none => exact keeps_emitError msg _
    | some route =>
      have hpick : ∀ load : Tally Text, Keeps gear
          (.perform (.pick route.tree load) fun (dest : Text) =>
            if dest = [] then emitError msg reasonNoDestination
            else parkAndForward gear msg key dest) .clear := by
        intro load
        refine keeps_perform trivial fun world input => ⟨.clear, .clear _, ?_⟩
        split
        · exact keeps_emitError msg _
        · exact keeps_parkAndForward _ hkey (by simp [hroute])
      dsimp only [snapshot]
      split
      · exact keeps_perform trivial fun world input => ⟨.clear, .clear _, hpick _⟩
      · exact hpick ∅

lemma keeps_handleReply (msg : FluxMsg) : Keeps gear (handleReply gear msg) .clear := by
  rw [handleReply]
  cases hkey : gear.buildKey msg with
  | none => exact keeps_emitError msg _
  | some key =>
    refine keeps_perform ⟨msg, rfl, hkey⟩ fun world input => ?_
    cases hreply : (exec gear (.valet (.redeem key (some msg))) input world).1 with
    | error err =>
      cases err with
      | unmatched | alreadyRedeemed => exact ⟨.clear, .clear _, keeps_emitError msg _⟩
      | _ => exact ⟨.clear, .clear _, keeps_done _⟩
    | ok handle =>
      dsimp only
      cases hport : gear.responsePortFor handle.ticket with
      | none => exact ⟨.clear, .clear _, keeps_emitError msg _⟩
      | some port =>
        exact ⟨_, .response key (some msg) handle port hreply hport, keeps_emit_last⟩

lemma keeps_callback (callback : Valet.Callback) :
    Keeps gear (body gear (.callback callback)) .clear := by
  refine keeps_perform trivial fun world input => ?_
  cases hreply : (exec gear (.valet (.callback callback)) input world).1 with
  | none => exact ⟨.clear, .clear _, keeps_done _⟩
  | some handle =>
    dsimp only [onExpire]
    cases handle.ticket.request with
    | none => exact ⟨.clear, .clear _, keeps_done _⟩
    | some => exact ⟨_, .timeout callback handle _ _ hreply, keeps_emit_last⟩

/-- Every call begins without a duty and keeps to the protocol. -/
lemma keeps_body (call : Call) : Keeps gear (body gear call) .clear := by
  cases call with
  | message _ msg =>
    rw [body, processPort]
    split
    · exact keeps_handleRequest msg
    · split
      · exact keeps_handleReply msg
      · exact keeps_done _
  | elapse | drain | wake | stop =>
    exact keeps_perform trivial fun _ _ => ⟨.clear, .clear _, keeps_done _⟩
  | callback callback => exact keeps_callback callback

end

/-- The method of the engine an operation calls, if any. -/
def Op.method : Op → Option Valet.Op
  | valet op => some op
  | release key _ => some (.release key)
  | pick _ _ => none
  | emit _ _ _ => none

lemma Op.eq_park_of_method {op : Op} {request : ParkRequest}
    (hmethod : op.method = some (.park request)) : op = .valet (.park request) := by
  cases op with
  | valet => rw [Option.some.inj hmethod]
  | release => nomatch Option.some.inj hmethod
  | pick | emit => nomatch hmethod

variable (gear : Gear) (op : Op) (input : Input) (world : World)

lemma exec_engine : (op.method = none ∧ (exec gear op input world).2.engine = world.engine) ∨
      ∃ method, op.method = some method ∧ (exec gear op input world).2.engine =
        (Valet.exec gear.valet method input.valet world.engine).2 := by
  cases op with
  | valet op => exact Or.inr ⟨op, rfl, rfl⟩
  | release key => exact Or.inr ⟨.release key, rfl, rfl⟩
  | pick | emit => exact Or.inl ⟨rfl, rfl⟩

lemma exec_change :
    Change gear.valet world.engine.toBooks (exec gear op input world).2.engine.toBooks := by
  rcases exec_engine gear op input world with ⟨_, hsame⟩ | ⟨method, _, hexec⟩
  · rw [hsame]
    exact .keep
  · rw [hexec]
    exact Valet.exec_change gear.valet method input.valet world.engine

/-- A ticket enters the store only by the `Park` of a handler. -/
lemma exec_enters_store {gear : Gear} {op : Op} {input : Input} {world : World}
    {key : Text} {id : TicketID}
    (hstored : (exec gear op input world).2.engine.store.lookup key = some id)
    (hnew : world.engine.store.lookup key ≠ some id) :
    ∃ request, op = .valet (.park request) ∧ request.key = key ∧
      id = world.engine.next ∧ Valet.Accepts gear.valet world.engine.toBooks key := by
  rcases exec_engine gear op input world with ⟨_, hsame⟩ | ⟨method, hmethod, hexec⟩
  · rw [hsame] at hstored
    exact absurd hstored hnew
  · rw [hexec] at hstored
    obtain ⟨request, rfl, hentered⟩ := (Valet.exec_cause gear.valet method input.valet
      world.engine).enters_store hstored hnew
    exact ⟨request, Op.eq_park_of_method hmethod, hentered⟩

/-- The conductor after a run. -/
def reach (gear : Gear) (events : List (Event Call Input)) : System :=
  System.new.run (exec gear) (body gear) events

/-- The duty of what remains of a call. -/
def dutyOf (gear : Gear) (handler : Handler) : Duty :=
  (rules gear).labelOf handler

lemma dutyOf_body (gear : Gear) (call : Call) : dutyOf gear (body gear call) = .clear :=
  (Protocol.follows_of_holds (keeps_body call .new)).1

/-- Every handler keeps to the protocol and the accounts of the engine agree. -/
structure Orderly (gear : Gear) (config : System) : Prop where
  sound : Protocol.Sound (fun _ => rules gear) config
  accounted : Accounted gear.valet config.state.engine.toBooks

lemma Orderly.new (gear : Gear) : Orderly gear System.new where
  sound := fun _ _ hthread => nomatch hthread
  accounted := Accounted.new gear.valet

/-- The conductor after `thread` performed `op`. -/
def performed (gear : Gear) (config : System) (thread : ℕ) (call : Call) (op : Op)
    (rest : op.Reply → Handler) (input : Input) : System where
  state := (exec gear op input config.state).2
  threads := config.threads.set thread (call, rest (exec gear op input config.state).1)

/-- A call has begun. -/
def began (gear : Gear) (config : System) (call : Call) : System :=
  { config with threads := config.threads ++ [(call, body gear call)] }

/-- To hold along a run, a property has to survive the beginning of a call and
every operation the protocol allows. -/
lemma reach_invariant {gear : Gear} {good : System → Event Call Input → Prop}
    {invariant : System → Prop} (hinit : invariant System.new)
    (hbegan : ∀ config call, invariant config → invariant (began gear config call))
    (hperformed : ∀ config thread call op rest input, Orderly gear config →
      invariant config → good config (.step thread input) →
      config.threads[thread]? = some (call, .perform op rest) → Proper gear op →
      Takes gear config.state input op (dutyOf gear (rest (exec gear op input config.state).1)) →
      invariant (performed gear config thread call op rest input))
    {events : List (Event Call Input)}
    (hgood : Config.EveryStep (exec gear) (body gear) good System.new events) :
    Orderly gear (reach gear events) ∧ invariant (reach gear events) := by
  refine @Config.run_invariant _ _ _ _ _ _ (exec gear) (body gear) good
    (fun config => Orderly gear config ∧ invariant config) System.new events
    (fun config event _ hboth hgood => ?_) ⟨Orderly.new gear, hinit⟩ hgood
  obtain ⟨horderly, hinvariant⟩ := hboth
  have hsound : Protocol.Sound (fun _ => rules gear)
      (config.next (exec gear) (body gear) event) :=
    horderly.sound.next (compatible gear)
      (fun call _ => (Protocol.follows_of_holds (keeps_body call config.state)).2)
      (fun _ _ _ _ _ => trivial)
  rcases Config.next_cases (exec gear) (body gear) config event with
    ⟨call, _, hnext⟩ | ⟨_, _, _, _, hnext⟩ | ⟨thread, input, call, op, rest, rfl, hthread, hnext⟩
  · rw [hnext] at hsound ⊢
    exact ⟨⟨hsound, horderly.accounted⟩, hbegan config call hinvariant⟩
  · rw [hnext]
    exact ⟨horderly, hinvariant⟩
  · rw [hnext] at hsound ⊢
    have hassume : (rules gear).assume op input config.state := trivial
    obtain ⟨⟨hproper, htakes⟩, _⟩ := horderly.sound.step (compatible gear) hthread hassume
    exact ⟨⟨hsound, horderly.accounted.change (exec_change gear op input config.state)⟩,
      hperformed config thread call op rest input horderly hinvariant hgood hthread
        hproper htakes⟩

/-- The same for a property that no condition on the run is needed for. -/
lemma reach_always {gear : Gear} {invariant : System → Prop} (hinit : invariant System.new)
    (hbegan : ∀ config call, invariant config → invariant (began gear config call))
    (hperformed : ∀ config thread call op rest input, Orderly gear config →
      invariant config → config.threads[thread]? = some (call, .perform op rest) →
      Proper gear op → Takes gear config.state input op
        (dutyOf gear (rest (exec gear op input config.state).1)) →
      invariant (performed gear config thread call op rest input))
    (events : List (Event Call Input)) :
    Orderly gear (reach gear events) ∧ invariant (reach gear events) := by
  have hgood : Config.EveryStep (exec gear) (body gear) (fun _ _ => True) System.new events :=
    Config.everyStep_of_mem _ _ (fun _ _ _ => trivial) _
  exact reach_invariant hinit hbegan (fun config thread call op rest input horderly hholds _ =>
      hperformed config thread call op rest input horderly hholds) hgood

end Fluxrig.Conductor
