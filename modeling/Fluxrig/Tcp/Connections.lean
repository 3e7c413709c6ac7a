import Fluxrig.Core.Crew

/-!
# Draining and stopping the TCP server

The accept loop, the connection handlers, `Drain` and `Stop` of the TCP gear as a crew.
`activeConns` is the number of handlers that are not gone; both calls close the listener, but
`Stop` uses up `drainOnce` before it does.
-/

namespace Fluxrig.Tcp.Connections

open Fluxrig.Core

/-- Where a call of `Drain` or `Stop` stands. -/
inductive Call where
  | idle | flagged | closed | busy | returned
  deriving DecidableEq

structure World where
  /-- The listener is open. -/
  listening : Bool
  /-- The accept loop has a connection it has not counted yet. -/
  held : Bool
  /-- `drainOnce` is used up. -/
  once : Bool
  drain : Call
  stop : Call
  deriving DecidableEq

inductive Place where
  | storing | serving | deleting | closing | finishing | gone
  deriving DecidableEq

structure Handler where
  place : Place
  /-- Its connection is in the table. -/
  stored : Bool
  isOpen : Bool
  /-- It was stored while `Stop` went through the table, which may then miss it. -/
  late : Bool
  deriving DecidableEq

/-- What happens to one connection: its handler goes on, for `serving` until the read loop
ends, and `Stop` closes it. -/
inductive Deed where
  | step (ends : Bool) | sweep
  deriving DecidableEq

def Handler.after (world : World) (handler : Handler) : Deed → Handler
  | .step ends =>
      match handler.place with
      | .storing =>
          { handler with place := .serving, stored := true, late := world.stop = .busy }
      | .serving => if ends then { handler with place := .deleting } else handler
      | .deleting => { handler with place := .closing, stored := false }
      | .closing => { handler with place := .finishing, isOpen := false }
      | .finishing | .gone => { handler with place := .gone }
  | .sweep =>
      if world.stop = .busy ∧ handler.stored then { handler with isOpen := false }
      else handler

/-- The accept loop accepts a connection, refuses it over the limit or starts its handler;
`Drain` and `Stop` make their next step. -/
inductive Act where
  | accept | refuse | admitted | drain | stop
  deriving DecidableEq

abbrev Server := Crew World Handler

/-- `Drain` waits until no handler is counted. -/
def Server.drain (server : Server) : World :=
  match server.world.drain with
  | .idle =>
      { server.world with
        drain := .busy, once := true, listening := server.world.listening && server.world.once }
  | .busy =>
      if ∀ handler ∈ server.members, handler.place = .gone then
        { server.world with drain := .returned }
      else server.world
  | _ => server.world

/-- `Stop` goes through the table and closes what it meets there; it meets every connection
that is in the table all the while. -/
def Server.stop (server : Server) : World :=
  match server.world.stop with
  | .idle => { server.world with stop := .flagged, once := true }
  | .flagged => { server.world with stop := .closed, listening := false }
  | .closed => { server.world with stop := .busy }
  | .busy =>
      if ∀ handler ∈ server.members, handler.stored → handler.isOpen → handler.late then
        { server.world with stop := .returned }
      else server.world
  | .returned => server.world

def Server.act (server : Server) : Act → World × List Handler
  | .accept =>
      ({ server.world with held := server.world.held || server.world.listening }, [])
  | .refuse => ({ server.world with held := false }, [])
  | .admitted =>
      ({ server.world with held := false },
        if server.world.held then [⟨.storing, false, true, false⟩] else [])
  | .drain => (server.drain, [])
  | .stop => (server.stop, [])

def rules : CrewRules World Handler Act Deed where
  act act server := Server.act server act
  deed deed world handler := handler.after world deed

/-- The server after the first `time` steps of a run. -/
abbrev serverAt (steps : List (CrewStep Act Deed)) (time : ℕ) : Server :=
  stateAt (Crew.take rules) ⟨⟨true, false, false, .idle, .idle⟩, []⟩ steps time

/-- A connection that is served is in the table, and a handler that finishes has closed it. -/
def Handler.Sound (handler : Handler) : Prop :=
  match handler.place with
  | .storing | .closing => True
  | .serving | .deleting => handler.stored = true
  | .finishing | .gone => handler.isOpen = false

variable {server : Server}

lemma Server.eq_storing_of_mem {act : Act} {handler : Handler}
    (hjoined : handler ∈ (rules.act act server).2) :
    handler = ⟨.storing, false, true, false⟩ ∧ server.world.held = true := by
  cases act <;> grind [rules, Server.act]

lemma handler_sound (steps : List (CrewStep Act Deed)) (time : ℕ) :
    ∀ handler ∈ (serverAt steps time).members, handler.Sound := by
  refine @stateAt_invariant _ _ (Crew.take rules) _ steps
    (fun server => ∀ handler ∈ server.members, handler.Sound) (by simp) ?_ time
  intro server step _ hsound
  refine Crew.all_take (fun _ handler => Handler.Sound handler) hsound (fun _ _ _ _ h => h) ?_ ?_
  · intro act _ handler hjoined
    rw [(Server.eq_storing_of_mem hjoined).1]
    exact trivial
  · intro _ deed handler _ _ hhandler
    show (handler.after server.world deed).Sound
    fun_cases Handler.after server.world handler deed <;> grind [Handler.Sound]

/-- No connection can come any more, and the handlers are all of one kind. -/
def Server.Shut (kind : Handler → Prop) (server : Server) : Prop :=
  server.world.listening = false ∧ server.world.held = false ∧
    ∀ handler ∈ server.members, kind handler

variable {kind : Handler → Prop}

lemma Server.Shut.take
    (hkind : ∀ world handler deed, kind handler → kind (handler.after world deed))
    (hshut : Server.Shut kind server) (step : CrewStep Act Deed) :
    Server.Shut kind (server.take rules step) := by
  obtain ⟨hlistening, hheld, hall⟩ := hshut
  cases step with
  | act act =>
    have hafter : (server.act act).1.listening = false ∧ (server.act act).1.held = false ∧
        (server.act act).2 = [] := by
      cases act <;> grind [Server.act, Server.drain, Server.stop]
    refine ⟨hafter.1, hafter.2.1, ?_⟩
    simpa [Crew.take, rules, hafter] using hall
  | deed =>
    exact ⟨hlistening, hheld, Crew.all_take (fun _ => kind) hall (by rintro _ ⟨⟩)
      (by rintro _ ⟨⟩) fun _ deed handler _ _ => hkind server.world handler deed⟩

/-- A call that only takes note of its return leaves the server as it was. -/
lemma Server.Shut.intro {act : Act} {call : Call}
    (hnext : server.act act = ({ server.world with drain := call }, []) ∨
      server.act act = ({ server.world with stop := call }, []))
    (hlistening : server.world.listening = false) (hheld : server.world.held = false)
    (hall : ∀ handler ∈ server.members, kind handler) :
    Server.Shut kind (server.take rules (.act act)) := by
  rcases hnext with hnext | hnext <;>
    simpa [Server.Shut, Crew.take, rules, hnext] using ⟨hlistening, hheld, hall⟩

lemma Server.drain_returns (hafter : server.drain.drain = .returned)
    (hbefore : server.world.drain ≠ .returned) : server.world.drain = .busy ∧
      (∀ handler ∈ server.members, handler.place = .gone) ∧
      server.act .drain = ({ server.world with drain := .returned }, []) := by
  rw [Server.act]
  fun_cases Server.drain server <;> grind [Server.drain]

lemma Server.stop_returns (hafter : server.stop.stop = .returned)
    (hbefore : server.world.stop ≠ .returned) : server.world.stop = .busy ∧
      (∀ handler ∈ server.members, handler.stored → handler.isOpen → handler.late) ∧
      server.act .stop = ({ server.world with stop := .returned }, []) := by
  rw [Server.act]
  fun_cases Server.stop server <;> grind [Server.stop]

/-- When the calls look at the handlers, none is where they cannot see it: as `Drain` reads
the count as zero the listener is closed and the accept loop has no connection in hand; as
`Stop` begins to go through the table there is none in hand either and none that is not
stored yet; and as it ends none is out of the table and still to be closed. -/
structure Apart (steps : List (CrewStep Act Deed)) : Prop where
  drain : ∀ time, steps[time]? = some (.act .drain) →
    (serverAt steps time).world.drain = .busy →
    (∀ handler ∈ (serverAt steps time).members, handler.place = .gone) →
    (serverAt steps time).world.listening = false ∧ (serverAt steps time).world.held = false
  begins : ∀ time, steps[time]? = some (.act .stop) →
    (serverAt steps time).world.stop = .closed → (serverAt steps time).world.held = false ∧
      ∀ handler ∈ (serverAt steps time).members, handler.place ≠ .storing
  ends : ∀ time, steps[time]? = some (.act .stop) →
    (serverAt steps time).world.stop = .busy →
    (∀ handler ∈ (serverAt steps time).members, handler.stored → handler.isOpen → handler.late) →
    ∀ handler ∈ (serverAt steps time).members, handler.place ≠ .closing

/-- While `Stop` goes through the table no connection comes to it. -/
structure Server.Swept (server : Server) : Prop where
  listening : server.world.stop = .closed ∨ server.world.stop = .busy →
    server.world.listening = false
  held : server.world.stop = .busy → server.world.held = false
  handlers : ∀ handler ∈ server.members, (server.world.stop ≠ .returned → handler.late = false) ∧
    (server.world.stop = .busy → handler.place ≠ .storing)

lemma serverAt_swept {steps : List (CrewStep Act Deed)} (hapart : Apart steps) (time : ℕ) :
    Server.Swept (serverAt steps time) := by
  refine stateAt_induction ⟨by decide, by decide, by simp⟩ ?_ time
  intro now step hstep hnow
  have hbegins := hapart.begins now
  obtain ⟨hlistening, hheld, hhandlers⟩ := hnow
  refine ⟨?_, ?_, Crew.all_take (fun (world : World) (handler : Handler) =>
    (world.stop ≠ .returned → handler.late = false) ∧
    (world.stop = .busy → handler.place ≠ .storing)) hhandlers ?_ ?_ ?_⟩
  · cases step with
    | act act => cases act <;> grind [Crew.take, rules, Server.act, Server.drain, Server.stop]
    | deed => exact hlistening
  · cases step with
    | act act => cases act <;> grind [Crew.take, rules, Server.act, Server.drain, Server.stop]
    | deed => exact hheld
  · rintro act rfl handler hhandler hbefore
    cases act <;> grind [rules, Server.act, Server.drain, Server.stop]
  · rintro act rfl handler hjoined
    cases act <;> grind [rules, Server.act]
  · rintro place deed handler rfl hhandler hbefore
    show (_ → (handler.after _ deed).late = false) ∧ (_ → (handler.after _ deed).place ≠ .storing)
    fun_cases Handler.after (serverAt steps now).world handler deed <;> grind

/-- Once `Drain` has returned no connection is served any more, and once `Stop` has returned
every accepted connection is closed, in a run in which neither call looks when a connection
is out of its sight. -/
theorem drained_serves_none (steps : List (CrewStep Act Deed)) (hapart : Apart steps)
    {time later : ℕ} (hlater : time ≤ later) :
    ((serverAt steps time).world.drain = .returned → (serverAt steps later).world.held = false ∧
      ∀ handler ∈ (serverAt steps later).members, handler.place = .gone) ∧
    ((serverAt steps time).world.stop = .returned → (serverAt steps later).world.held = false ∧
      ∀ handler ∈ (serverAt steps later).members, handler.isOpen = false) := by
  constructor
  · intro hreturned
    refine (stateAt_brought (fun server : Server => server.world.drain = .returned)
      (Server.Shut fun handler => handler.place = .gone) (by decide) ?_
      (fun _ step hnow => hnow.take ?_ step) hreturned hlater).2
    · intro now step hstep hbefore hafter
      cases step with
      | deed => exact absurd hafter hbefore
      | act act =>
        cases act with
        | drain =>
          obtain ⟨hbusy, hgone, hnext⟩ := Server.drain_returns hafter hbefore
          have hclear := hapart.drain now hstep hbusy hgone
          exact Server.Shut.intro (Or.inl hnext) hclear.1 hclear.2 hgone
        | stop => grind [Crew.take, rules, Server.act, Server.stop]
        | _ => exact absurd hafter hbefore
    · intro world handler deed hgone
      fun_cases Handler.after world handler deed <;> grind
  · intro hreturned
    refine (stateAt_brought (fun server : Server => server.world.stop = .returned)
      (Server.Shut fun handler => handler.isOpen = false) (by decide) ?_
      (fun _ step hnow => hnow.take ?_ step) hreturned hlater).2
    · intro now step hstep hbefore hafter
      cases step with
      | deed => exact absurd hafter hbefore
      | act act =>
        cases act with
        | stop =>
          obtain ⟨hbusy, hclosed, hnext⟩ := Server.stop_returns hafter hbefore
          obtain ⟨hlistening, hheld, hhandlers⟩ := serverAt_swept hapart now
          refine Server.Shut.intro (Or.inr hnext) (hlistening (Or.inr hbusy)) (hheld hbusy) ?_
          intro handler hhandler
          have hsound := handler_sound steps now handler hhandler
          have hends := hapart.ends now hstep hbusy hclosed handler hhandler
          grind [Handler.Sound]
        | drain => grind [Crew.take, rules, Server.act, Server.drain]
        | _ => exact absurd hafter hbefore
    · intro world handler deed hclosed
      fun_cases Handler.after world handler deed <;> grind

/-- `Drain` waits for a served connection, then `Stop` is called. -/
def drainedRun : List (CrewStep Act Deed) :=
  [.act .accept, .act .admitted, .deed 0 (.step true), .act .drain] ++
    List.replicate 4 (.deed 0 (.step true)) ++ .act .drain :: List.replicate 4 (.act .stop)

theorem drained_serves_none_served : (serverAt drainedRun 13).members.length = 1 ∧
    ∀ handler ∈ (serverAt drainedRun 13).members,
      handler.place = .gone ∧ handler.isOpen = false := by
  have hdrain : ∀ time < 13, drainedRun[time]? = some (.act .drain) →
    (serverAt drainedRun time).world.drain = .busy →
      (serverAt drainedRun time).world.listening = false ∧
      (serverAt drainedRun time).world.held = false := by decide
  have hstop : ∀ time < 13, drainedRun[time]? = some (.act .stop) →
      (serverAt drainedRun time).world.held = false ∧
      ∀ handler ∈ (serverAt drainedRun time).members, handler.place ≠ .storing ∧
        handler.place ≠ .closing := by decide
  have hlt : ∀ {time step}, drainedRun[time]? = some step → time < 13 :=
    fun hstep => (List.getElem?_eq_some_iff.mp hstep).1
  have hnone := drained_serves_none drainedRun
    ⟨fun time hstep hbusy _ => hdrain time (hlt hstep) hstep hbusy,
      fun time hstep _ => (hstop time (hlt hstep) hstep).imp_right fun hall handler hhandler =>
        (hall handler hhandler).1,
      fun time hstep _ _ handler hhandler =>
        ((hstop time (hlt hstep) hstep).2 handler hhandler).2⟩ (le_refl 13)
  exact ⟨by decide, fun handler hhandler =>
    ⟨(hnone.1 (by decide)).2 handler hhandler, (hnone.2 (by decide)).2 handler hhandler⟩⟩

/-- A connection is accepted before `Drain` or `Stop` and counted after the call has
returned: it is served. -/
theorem accepted_served_after_return :
    (serverAt [.act .accept, .act .drain, .act .drain] 3).world.drain = .returned ∧
    (serverAt [.act .accept, .act .drain, .act .drain, .act .admitted, .deed 0 (.step true)]
      5).members = [⟨.serving, true, true, false⟩] ∧
    (serverAt (.act .accept :: List.replicate 4 (.act .stop)) 5).world.stop = .returned ∧
    (serverAt (.act .accept :: List.replicate 4 (.act .stop) ++
      [.act .admitted, .deed 0 (.step true)]) 7).members = [⟨.serving, true, true, false⟩] := by
  decide

end Fluxrig.Tcp.Connections
