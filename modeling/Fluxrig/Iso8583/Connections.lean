import Fluxrig.Core.Crew

/-!
# Draining and stopping the ISO 8583 server

The accept loop, the connection handlers, `Drain` and `Stop` of the server as a crew: each
atomic access to the flags, the connection table, the counters, a socket or its deadline is
one step, and the steps come in any order.  `activeConns` and `readers` are not stored: a
handler is counted from its first step to the one that takes it off.
-/

namespace Fluxrig.Iso8583.Connections

open Fluxrig.Core

/-- Where a call of `Drain` or `Stop` stands. -/
inductive Call where
  | idle | flagged | ranging | waiting | returned
  deriving DecidableEq

structure World where
  /-- The listener is open. -/
  listening : Bool
  /-- The accept loop has a connection it has not counted yet. -/
  held : Bool
  draining : Bool
  done : Bool
  drain : Call
  stop : Call
  deriving DecidableEq

/-- The steps of `handleConn`, from the counting in the accept loop to the last deferred
call. -/
inductive Place where
  | counting | starting | opening | top | checking | arming | header | body | emitting
  | failed | stopping | drained | deleting | closing | reporting | leaving | finishing
  | gone
  deriving DecidableEq

structure Handler where
  place : Place
  /-- It is in `readers`. -/
  reading : Bool
  /-- Its connection is in the table. -/
  stored : Bool
  isOpen : Bool
  /-- A command closed the connection. -/
  byCommand : Bool
  /-- The read deadline in force is a past one. -/
  past : Bool
  /-- `Drain` has set its read deadline. -/
  marked : Bool
  deriving DecidableEq

def Handler.accepted : Handler := ⟨.counting, false, false, true, false, false, false⟩

/-- The next step of a handler.  `ok` is how the operation at this place ends, as far as it
is not settled by the state; a read under a past deadline fails. -/
def Handler.step (world : World) (ok : Bool) (handler : Handler) : Handler :=
  match handler.place with
  | .counting => { handler with place := .starting, reading := true }
  | .starting => { handler with place := .opening, stored := true }
  | .opening => { handler with place := .top }
  | .top => { handler with place := if world.done then .deleting else .checking }
  | .checking => { handler with place := if world.draining then .stopping else .arming }
  | .arming =>
      if ok then { handler with place := .header, past := false }
      else { handler with place := .deleting }
  | .header => { handler with place := if ok && !handler.past then .body else .failed }
  -- readFrame arms the deadline of the frame in progress and reads the rest of it
  | .body => { handler with place := if ok then .emitting else .failed, past := false }
  -- an invalid frame ends the connection
  | .emitting => { handler with place := if ok then .top else .deleting }
  | .failed => { handler with place := if world.draining then .stopping else .deleting }
  | .stopping => { handler with place := .drained, reading := false }
  | .drained => { handler with place := if world.done then .deleting else .drained }
  | .deleting => { handler with place := .closing, stored := false }
  | .closing => { handler with place := .reporting, isOpen := false }
  | .reporting => { handler with place := .leaving }
  | .leaving => { handler with place := .finishing, reading := false }
  | .finishing | .gone => { handler with place := .gone }

/-- What happens to one connection: its handler steps, `Drain` sets its deadline, `Stop`
closes it, a command disconnects it. -/
inductive Deed where
  | step (ok : Bool) | mark | sweep | disconnect

def Handler.after (world : World) (handler : Handler) : Deed → Handler
  | .step ok => handler.step world ok
  | .mark =>
      if world.drain = .ranging ∧ handler.stored then
        { handler with past := true, marked := true }
      else handler
  | .sweep =>
      if world.stop = .ranging ∧ handler.stored then { handler with isOpen := false }
      else handler
  | .disconnect =>
      if handler.stored then { handler with isOpen := false, byCommand := true } else handler

/-- The accept loop accepts a connection, refuses it over the limit or starts its handler;
`Drain` and `Stop` make their next step. -/
inductive Act where
  | accept | refuse | admitted | drain | stop

abbrev Server := Crew World Handler

variable (server : Server)

/-- The next place of a call that waits for the handlers it counts. -/
def Server.advance (counted : Handler → Bool) : Call → Call
  | .idle => .flagged
  | .flagged => .ranging
  | .ranging => .waiting
  | .waiting => if server.members.any counted then .waiting else .returned
  | .returned => .returned

/-- `Drain` raises its flag, closes the listener, goes through the table and waits for the
readers. -/
def Server.drain : World :=
  { server.world with
    draining := true
    listening := server.world.listening && server.world.drain ≠ .flagged
    drain := server.advance (·.reading) server.world.drain }

/-- `Stop` does the same with `done`, and waits for all handlers. -/
def Server.stop : World :=
  { server.world with
    done := true
    listening := server.world.listening && server.world.stop ≠ .flagged
    stop := server.advance (·.place ≠ .gone) server.world.stop }

def Server.act : Act → World × List Handler
  | .accept =>
      ({ server.world with held := server.world.held || server.world.listening }, [])
  | .refuse => ({ server.world with held := false }, [])
  | .admitted =>
      ({ server.world with held := false },
        if server.world.held then [Handler.accepted] else [])
  | .drain => (server.drain, [])
  | .stop => (server.stop, [])

def rules : CrewRules World Handler Act Deed where
  act act server := Server.act server act
  deed deed world handler := handler.after world deed

def Server.start : Server := ⟨⟨true, false, false, false, .idle, .idle⟩, []⟩

/-- The server after the first `time` steps of a run. -/
abbrev serverAt (steps : List (CrewStep Act Deed)) (time : ℕ) : Server :=
  stateAt (Crew.take rules) Server.start steps time

/-- The accept loop starts the handler of the first connection, which makes `count` steps. -/
def firstServed (count : ℕ) : List (CrewStep Act Deed) :=
  [.act .accept, .act .admitted] ++ List.replicate count (.deed 0 (.step true))

structure World.Sound (world : World) : Prop where
  draining : world.drain ≠ .idle → world.draining = true
  done : world.stop ≠ .idle → world.done = true
  closed : world.stop ≠ .idle → world.stop ≠ .flagged → world.listening = false

/-- A handler that reads is counted and in the table, one that waits for `Stop` is in the
table, one that is not counted any more leaves only after `Stop` has begun, and one that has
closed its connection does not open it again. -/
def Handler.Sound (done : Bool) (handler : Handler) : Prop :=
  match handler.place with
  | .counting => True
  | .starting => handler.reading = true
  | .drained => handler.stored = true
  | .deleting | .closing => handler.reading = true ∨ done = true
  | .reporting | .leaving | .finishing | .gone => handler.isOpen = false
  | _ => handler.reading = true ∧ handler.stored = true

structure Server.Sound (server : Server) : Prop where
  world : server.world.Sound
  handlers : ∀ handler ∈ server.members, handler.Sound server.world.done

variable {server : Server} {handler : Handler}

lemma Server.eq_accepted_of_mem {act : Act}
    (hjoined : handler ∈ (rules.act act server).2) : handler = Handler.accepted := by
  cases act <;> grind [rules, Server.act]

/-- The flags stay raised and the listener stays closed. -/
lemma Server.act_flags (server : Server) (act : Act) :
    (server.world.draining = true → (server.act act).1.draining = true) ∧
    (server.world.done = true → (server.act act).1.done = true) ∧
    (server.world.listening = false → (server.act act).1.listening = false) := by
  cases act <;> simp +contextual [Server.act, Server.drain, Server.stop]

/-- A call returns when it waits and no handler is counted. -/
lemma Server.advance_returned {counted : Handler → Bool} {call : Call}
    (hafter : server.advance counted call = .returned) (hbefore : call ≠ .returned) :
    call = .waiting ∧ ∀ handler ∈ server.members, counted handler = false := by
  cases call <;> grind [Server.advance]

lemma World.Sound.act (hsound : server.world.Sound) (act : Act) : (server.act act).1.Sound := by
  obtain ⟨hdraining, hdone, hclosed⟩ := hsound
  cases act with
  | accept | refuse | admitted => exact ⟨hdraining, hdone, hclosed⟩
  | drain => exact ⟨fun _ => rfl, hdone, fun hcalled hflagged => by
      simp [Server.act, Server.drain, hclosed hcalled hflagged]⟩
  | stop => exact ⟨hdraining, fun _ => rfl, by
      cases hcall : server.world.stop <;> simp_all [Server.act, Server.stop, Server.advance]⟩

variable {world : World}

lemma Handler.Sound.step (hsound : handler.Sound world.done) (ok : Bool) :
    (handler.step world ok).Sound world.done := by
  fun_cases Handler.step world ok handler <;> grind [Handler.Sound]

lemma Handler.Sound.after (hsound : handler.Sound world.done) (deed : Deed) :
    (handler.after world deed).Sound world.done := by
  fun_cases Handler.after world handler deed with
  | case1 ok => exact hsound.step ok
  | _ => grind [Handler.Sound]

lemma Server.Sound.take (hsound : Server.Sound server)
    (step : CrewStep Act Deed) : Server.Sound (server.take rules step) where
  world := by
    cases step with
    | act act => exact hsound.world.act act
    | deed => exact hsound.world
  handlers := by
    refine Crew.all_take (fun (world : World) (handler : Handler) => handler.Sound world.done)
      hsound.handlers ?_ ?_ ?_
    · intro act _ handler _ hhandler
      have hdone := (Server.act_flags server act).2.1
      grind [Handler.Sound, rules]
    · intro act _ handler hjoined
      rw [Server.eq_accepted_of_mem hjoined]
      exact trivial
    · intro _ deed handler _ _ hhandler
      exact hhandler.after deed

lemma serverAt_sound (steps : List (CrewStep Act Deed)) (time : ℕ) :
    Server.Sound (serverAt steps time) :=
  stateAt_invariant ⟨⟨by decide, by decide, by decide⟩, by simp [Server.start]⟩
    (fun _ step _ hsound => hsound.take step) time

/-- Nothing is left of the server. -/
structure Server.Final (server : Server) : Prop where
  listening : server.world.listening = false
  held : server.world.held = false
  gone : ∀ handler ∈ server.members, handler.place = .gone ∧ handler.isOpen = false

lemma Handler.after_gone (deed : Deed) (hgone : handler.place = .gone ∧ handler.isOpen = false) :
    (handler.after world deed).place = .gone ∧ (handler.after world deed).isOpen = false := by
  fun_cases Handler.after world handler deed <;> simp [Handler.step, hgone]

lemma Server.Final.take (hfinal : Server.Final server)
    (step : CrewStep Act Deed) : Server.Final (server.take rules step) := by
  obtain ⟨hlistening, hheld, hgone⟩ := hfinal
  cases step with
  | act act =>
    cases act <;> constructor <;> simp_all [Crew.take, rules, Server.act, Server.drain,
      Server.stop, Server.advance]
  | deed place deed =>
    refine ⟨hlistening, hheld, ?_⟩
    refine Crew.all_take (fun _ (handler : Handler) => handler.place = .gone ∧
      handler.isOpen = false) hgone (by rintro _ ⟨⟩) (by rintro _ ⟨⟩) ?_
    intro _ deed _ _ _ hhandler
    exact Handler.after_gone deed hhandler

/-- Once `Stop` has returned, no handler runs and every connection is closed, provided that
when it reads the count as zero the accept loop has no connection that it has not counted
yet. -/
theorem stopped_server_final (steps : List (CrewStep Act Deed))
    (hcounted : ∀ time, steps[time]? = some (.act .stop) →
      (serverAt steps time).world.stop = .waiting →
      (∀ handler ∈ (serverAt steps time).members, handler.place = .gone) →
      (serverAt steps time).world.held = false)
    {time later : ℕ} (hreturned : (serverAt steps time).world.stop = .returned)
    (hlater : time ≤ later) :
    (serverAt steps later).world.held = false ∧
    ∀ handler ∈ (serverAt steps later).members,
      handler.place = .gone ∧ handler.isOpen = false := by
  have hfinal : Server.Final (serverAt steps later) := by
    refine stateAt_brought (fun server : Server => server.world.stop = .returned) Server.Final
      (by decide) ?_ (fun _ step hnow => hnow.take step) hreturned hlater
    intro now step hstep hbefore hafter
    -- Only a step of `Stop` itself makes it return.
    match step with
    | .act .stop =>
      obtain ⟨hwaiting, hgone⟩ := Server.advance_returned hafter hbefore
      simp only [ne_eq, decide_not, Bool.not_eq_false', decide_eq_true_eq] at hgone
      have hsound := serverAt_sound steps now
      have hlistening := hsound.world.closed (by simp [hwaiting]) (by simp [hwaiting])
      refine ⟨(Server.act_flags _ .stop).2.2 hlistening, hcounted now hstep hwaiting hgone, ?_⟩
      intro handler hhandler
      simp only [Crew.take, rules, Server.act, List.append_nil] at hhandler
      have hclosed := hsound.handlers handler hhandler
      simp only [Handler.Sound, hgone handler hhandler] at hclosed
      exact ⟨hgone handler hhandler, hclosed⟩
    | .act .accept | .act .refuse | .act .admitted | .act .drain | .deed _ _ =>
      exact absurd hafter hbefore
  exact ⟨hfinal.held, hfinal.gone⟩

/-- `Stop` is called on a served connection and returns after its handler has. -/
def stoppedRun : List (CrewStep Act Deed) :=
  firstServed 3 ++ [.act .stop, .act .stop, .deed 0 .sweep, .act .stop] ++
    List.replicate 6 (.deed 0 (.step true)) ++ [.act .stop]

theorem stopped_server_final_served : (serverAt stoppedRun 16).members.length = 1 ∧
    (serverAt stoppedRun 16).world.held = false ∧
    ∀ handler ∈ (serverAt stoppedRun 16).members,
      handler.place = .gone ∧ handler.isOpen = false := by
  have hearly : ∀ time < 16, (serverAt stoppedRun time).world.stop = .waiting →
      (serverAt stoppedRun time).world.held = false := by decide
  refine ⟨by decide, stopped_server_final stoppedRun ?_ (by decide) (le_refl 16)⟩
  intro time hstep hwaiting _
  exact hearly time (List.getElem?_eq_some_iff.mp hstep).1 hwaiting

/-- The connection is accepted before `Stop` and counted after it has returned: its handler
announces it as open and goes on. -/
theorem stop_overtakes_accept :
    (serverAt ([.act .accept] ++ List.replicate 4 (.act .stop)) 5).world.stop = .returned ∧
    (serverAt ([.act .accept] ++ List.replicate 4 (.act .stop) ++ [.act .admitted] ++
      List.replicate 3 (.deed 0 (.step true))) 9).members =
      [⟨.top, true, true, true, false, false, false⟩] := by decide

/-- A handler whose connection stays open until `Stop`. -/
def Handler.Waits (handler : Handler) : Prop :=
  match handler.place with
  | .counting | .starting => True
  | .opening | .top | .checking | .stopping | .drained => handler.stored = true
  | _ => False

def Place.leaves : Place → Bool
  | .deleting | .closing | .reporting | .leaving | .finishing | .gone => true
  | _ => false

/-- A handler that reads no more: it waits, or it leaves and its connection is closed or
`Stop` has begun. -/
def Handler.Settled (done : Bool) (handler : Handler) : Prop :=
  handler.Waits ∨ (handler.place.leaves = true ∧ (done = true ∨ handler.isOpen = false))

lemma Handler.Sound.settled {done : Bool}
    (hsound : handler.Sound done) (hquiet : handler.reading = false) :
    handler.Settled done := by
  grind [Handler.Sound, Handler.Settled, Handler.Waits, Place.leaves]

lemma Handler.Settled.after
    (hsettled : handler.Settled world.done) (hdraining : world.draining = true) (deed : Deed) :
    (handler.after world deed).Settled world.done := by
  fun_cases Handler.after world handler deed with
  | case1 ok => grind [Handler.step, Handler.Settled, Handler.Waits, Place.leaves]
  | _ => grind [Handler.Settled, Handler.Waits]

/-- After `Drain` has returned no handler reads. -/
structure Server.Quiet (server : Server) : Prop where
  draining : server.world.draining = true
  settled : ∀ handler ∈ server.members, handler.Settled server.world.done

lemma Server.Quiet.take (hquiet : Server.Quiet server)
    (step : CrewStep Act Deed) : Server.Quiet (server.take rules step) where
  draining := by
    cases step with
    | act act => exact (Server.act_flags server act).1 hquiet.draining
    | deed => exact hquiet.draining
  settled := by
    refine Crew.all_take (fun (world : World) (handler : Handler) => handler.Settled world.done)
      hquiet.settled ?_ ?_ ?_
    · intro act _ handler _ hhandler
      have hdone := (Server.act_flags server act).2.1
      grind [Handler.Settled, rules]
    · intro act _ handler hjoined
      rw [Server.eq_accepted_of_mem hjoined]
      exact Or.inl trivial
    · intro _ deed handler _ _ hhandler
      exact hhandler.after hquiet.draining deed

/-- A connection that is open stays so until `Stop` is called or a command closes it. -/
def Handler.Lasting (world : World) (handler : Handler) : Prop :=
  world.done = true ∨ (handler.Waits ∧ (handler.isOpen = true ∨ handler.byCommand = true))

lemma Handler.Lasting.after (hsound : world.Sound)
    (hdraining : world.draining = true) (hlasting : handler.Lasting world) (deed : Deed) :
    (handler.after world deed).Lasting world := by
  have hdone := hsound.done
  fun_cases Handler.after world handler deed <;>
    grind [Handler.step, Handler.Lasting, Handler.Waits]

/-- Once `Drain` has returned no handler stands where it reads or emits a frame, and a
connection that is open then, or that the accept loop still had in hand, stays open and in
the table until `Stop` is called or a command closes it; a handler that has not stored its
connection yet is about to. -/
theorem drained_server_quiet (steps : List (CrewStep Act Deed)) {time later : ℕ}
    (hreturned : (serverAt steps time).world.drain = .returned) (hlater : time ≤ later) :
    (∀ handler ∈ (serverAt steps later).members, handler.place ≠ .emitting ∧
      handler.place ≠ .header ∧ handler.place ≠ .body) ∧
    ∀ index : ℕ, (∀ handler : Handler, (serverAt steps time).members[index]? = some handler →
        handler.isOpen = true) →
      ∀ handler : Handler, (serverAt steps later).members[index]? = some handler →
        (serverAt steps later).world.done = true ∨ handler.byCommand = true ∨
        (handler.isOpen = true ∧ (handler.stored = true ∨ handler.place = .counting ∨
          handler.place = .starting)) := by
  have hquiet : ∀ {later}, time ≤ later → Server.Quiet (serverAt steps later) := by
    refine stateAt_brought (fun server : Server => server.world.drain = .returned) Server.Quiet
      (by decide) ?_ (fun _ step hnow => hnow.take step) hreturned
    intro now step _ hbefore hafter
    cases step with
    | deed => exact absurd hafter hbefore
    | act act =>
      cases act with
      | drain =>
        obtain ⟨hwaiting, hall⟩ := Server.advance_returned hafter hbefore
        have hsound := serverAt_sound steps now
        refine ⟨rfl, fun handler hhandler => ?_⟩
        simp only [Crew.take, rules, Server.act, List.append_nil] at hhandler
        exact (hsound.handlers handler hhandler).settled (hall handler hhandler)
      | _ => exact absurd hafter hbefore
  refine ⟨fun handler hhandler => ?_, fun index hopen => ?_⟩
  · have hsettled := (hquiet hlater).settled handler hhandler
    grind [Handler.Settled, Handler.Waits, Place.leaves]
  have hlasting : Server.Quiet (serverAt steps later) ∧
      ∀ handler : Handler, (serverAt steps later).members[index]? = some handler →
        handler.Lasting (serverAt steps later).world := by
    refine @stateAt_from _ _ (Crew.take rules) Server.start steps (fun server =>
      Server.Quiet server ∧ ∀ handler : Handler, server.members[index]? = some handler →
        handler.Lasting server.world) time later ⟨hquiet le_rfl, ?_⟩ ?_ hlater
    · intro handler hhandler
      have hsettled := (hquiet le_rfl).settled handler (List.mem_of_getElem? hhandler)
      grind [Handler.Settled, Handler.Lasting]
    · rintro now step _ ⟨hnow, hbefore⟩
      refine ⟨hnow.take step, fun handler => Crew.member_take (fun world handler =>
        Handler.Lasting world handler) hbefore ?_ ?_ ?_⟩
      · intro act handler _ _ hhandler
        exact hhandler.imp_left (Server.act_flags _ act).2.1
      · intro act _ handler hjoined
        rw [Server.eq_accepted_of_mem hjoined]
        exact Or.inr ⟨trivial, Or.inl rfl⟩
      · intro deed handler _ _ hhandler
        exact hhandler.after (serverAt_sound steps now).world hnow.draining deed
  intro handler hhandler
  grind [Handler.Lasting, Handler.Waits]

/-- `Drain` returns with one connection open, while the accept loop has another in hand,
which it then starts to serve. -/
def drainedRun : List (CrewStep Act Deed) :=
  firstServed 3 ++ [.act .accept, .act .drain] ++ List.replicate 3 (.deed 0 (.step true)) ++
    List.replicate 3 (.act .drain) ++ [.act .admitted]

theorem drained_server_quiet_served :
    (∀ handler ∈ (serverAt drainedRun 14).members, handler.place ≠ .emitting ∧
      handler.place ≠ .header ∧ handler.place ≠ .body) ∧
    (∀ handler ∈ (serverAt drainedRun 14).members, handler.isOpen = true) := by
  have hquiet := drained_server_quiet drainedRun (by decide :
    (serverAt drainedRun 13).world.drain = .returned) (by decide : 13 ≤ 14)
  refine ⟨hquiet.1, fun handler hhandler => ?_⟩
  obtain ⟨index, hindex⟩ := List.mem_iff_getElem?.mp hhandler
  have hopen : ∀ handler ∈ (serverAt drainedRun 13).members, handler.isOpen = true := by decide
  have hbyCommand : ∀ handler ∈ (serverAt drainedRun 14).members, handler.byCommand = false := by
    decide
  rcases hquiet.2 index (fun _ hbefore => hopen _ (List.mem_of_getElem? hbefore)) handler hindex
    with hdone | hcommand | ⟨hstays, -⟩
  · exact absurd hdone (by decide)
  · exact absurd hcommand (by simp [hbyCommand handler hhandler])
  · exact hstays

/-- A handler whose deadline `Drain` has set does not come to wait for another frame. -/
def Handler.Held (world : World) (handler : Handler) : Prop :=
  handler.marked = true → world.draining = true ∧ handler.place ≠ .arming ∧
    (handler.place = .header → handler.past = true)

/-- After `Drain` has set the deadline of a connection its handler arms no deadline for
another frame, and a read of one it is in fails, provided that when `Drain` sets the deadline
the handler is not between its look at the flag and the arming of its idle deadline. -/
theorem drained_deadline_stays (steps : List (CrewStep Act Deed))
    (hapart : ∀ (time index : ℕ) (handler : Handler), steps[time]? = some (.deed index .mark) →
      (serverAt steps time).members[index]? = some handler →
      (serverAt steps time).world.drain = .ranging → handler.place ≠ .arming)
    (time : ℕ) :
    ∀ handler ∈ (serverAt steps time).members, handler.marked = true →
      handler.place ≠ .arming ∧ (handler.place = .header → handler.past = true) := by
  have hheld : ∀ handler ∈ (serverAt steps time).members,
      handler.Held (serverAt steps time).world := by
    refine @stateAt_induction _ _ (Crew.take rules) Server.start steps (fun server =>
      ∀ handler ∈ server.members, handler.Held server.world) (by simp [Server.start]) ?_ time
    intro now step hstep hnow
    refine Crew.all_take (fun (world : World) handler => Handler.Held world handler) hnow ?_ ?_ ?_
    · intro act _ handler _ hhandler hmarked
      exact (hhandler hmarked).imp_left (Server.act_flags _ act).1
    · intro act _ handler hjoined
      rw [Server.eq_accepted_of_mem hjoined]
      exact nofun
    · rintro index deed handler rfl hhandler hbefore
      have hdraining := (serverAt_sound steps now).world.draining
      show (handler.after (serverAt steps now).world deed).Held _
      fun_cases Handler.after (serverAt steps now).world handler deed <;>
        grind [Handler.step, Handler.Held]
  exact fun handler hhandler hmarked => (hheld handler hhandler hmarked).2

/-- `Drain` sets the deadline of a handler that waits for a frame. -/
def markedRun : List (CrewStep Act Deed) :=
  firstServed 6 ++ [.act .drain, .act .drain, .deed 0 .mark]

theorem drained_deadline_stays_waiting : (serverAt markedRun 11).members ≠ [] ∧
    ∀ handler ∈ (serverAt markedRun 11).members,
      handler.place = .header ∧ handler.past = true := by
  have hearly : ∀ time < 11, (serverAt markedRun time).world.drain = .ranging →
      ∀ handler ∈ (serverAt markedRun time).members, handler.place ≠ .arming := by decide
  have hwaits : ∀ handler ∈ (serverAt markedRun 11).members,
      handler.place = .header ∧ handler.marked = true := by decide
  refine ⟨by decide, ?_⟩
  intro handler hhandler
  obtain ⟨hheader, hmarked⟩ := hwaits handler hhandler
  refine ⟨hheader, (drained_deadline_stays markedRun ?_ 11 handler hhandler hmarked).2 hheader⟩
  intro time _ other hstep hother hranging
  exact hearly time (List.getElem?_eq_some_iff.mp hstep).1 hranging other
    (List.mem_of_getElem? hother)

/-- `Drain` sets the deadline between the handler's look at the flag and the arming of its
idle deadline: the handler waits for another frame and reads it. -/
theorem drained_deadline_replaced :
    (serverAt (firstServed 5 ++ [.act .drain, .act .drain, .deed 0 .mark] ++
      List.replicate 3 (.deed 0 (.step true))) 13).members =
      [⟨.emitting, true, true, true, false, false, true⟩] := by decide

end Fluxrig.Iso8583.Connections
