import Fluxrig.Tcp.Writers

/-!
# The backlog of unaddressed messages

Calls of `Process` without a `conn.id` and the one connection of the TCP server at a time.
A call writes to the connection if the counter and the table show exactly one, and
otherwise buffers its message; the handler of a new connection takes the whole buffer and
writes it.  Nothing keeps a call from writing while a flush is under way, nor from buffering
after it.  Messages are named by the calls that bring them.
-/

namespace Fluxrig.Tcp.Backlog

open Fluxrig.Core Message
open scoped List

/-- Where a call of `Process` stands. -/
inductive Call where
  | waiting | called | sole | buffering
  | writing (conn : ℕ)
  | trailing (conn : ℕ)
  | returned (ok : Bool)
  deriving DecidableEq

/-- The handler of the latest connection.  In a flush, `begun` waits for its delimiter. -/
inductive Handler where
  | idle | accepted | stored
  | flushing (begun : Option ℕ) (pending : List ℕ)
  | serving | deleted
  deriving DecidableEq

structure Server where
  /-- The connections opened so far. -/
  conns : ℕ
  handler : Handler
  /-- A write failed in the flush of the latest connection. -/
  failed : Bool
  /-- Closed connections that are still counted. -/
  leaving : ℕ
  buffer : List ℕ
  calls : ℕ → Call
  /-- The messages written in full. -/
  written : List ℕ
  /-- The messages dropped by the size limit. -/
  dropped : List ℕ

def Server.new : Server := ⟨0, .idle, false, 0, [], fun _ => .waiting, [], []⟩

def Handler.inTable : Handler → Bool
  | .stored | .flushing _ _ | .serving => true
  | .idle | .accepted | .deleted => false

/-- From the counting of the connection to the end of its flush. -/
def Handler.opening : Handler → Bool
  | .accepted | .stored | .flushing _ _ => true
  | .idle | .serving | .deleted => false

/-- What a flush has taken from the buffer and not yet written. -/
def Handler.taken : Handler → List ℕ
  | .flushing begun pending => begun.toList ++ pending
  | _ => []

def Call.inProgress : Call → Bool
  | .waiting | .returned _ => false
  | _ => true

def Server.activeConns (server : Server) : ℕ :=
  server.leaving + if server.handler = .idle then 0 else 1

/-- The connection is the latest one and not closed. -/
def Server.live (server : Server) (conn : ℕ) : Bool :=
  conn = server.conns && server.handler ≠ .idle

section

variable (cfg : Config) (limit : ℕ) (payloads : ℕ → Text)

variable (server : Server)

/-- The buffer with the oldest messages dropped above the limit. -/
def Server.keep (messages : List ℕ) : Server :=
  { server with
    buffer := messages.drop (messages.length - limit)
    dropped := server.dropped ++ messages.take (messages.length - limit) }

def Server.bufferMessage (message : ℕ) : Server :=
  if payloads message = [] then server else server.keep limit (server.buffer ++ [message])

def Server.requeue (messages : List ℕ) : Server :=
  server.keep limit (messages ++ server.buffer)

def Server.put (message : ℕ) (call : Call) : Server :=
  { server with calls := fun other => if other = message then call else server.calls other }

/-- The message is on the wire. -/
def Server.wrote (message : ℕ) : Server :=
  { server with written := server.written ++ [message] }

/-- The call takes its next step; `ok` says whether a write it makes succeeds, which it
cannot on a closed connection. -/
def Server.process (message : ℕ) (ok : Bool) : Server :=
  match server.calls message with
  | .waiting => server.put message .called
  | .called =>
      if server.activeConns = 0 then server.put message .buffering
      else if server.activeConns = 1 then server.put message .sole
      else server.put message (.returned false)
  | .sole =>
      if server.handler.inTable then server.put message (.writing server.conns)
      else server.put message .buffering
  | .buffering => (server.bufferMessage limit payloads message).put message (.returned true)
  | .writing conn =>
      if payloads message = [] then server.put message (.returned true)
      else if cfg.sends (payloads message) && ok && server.live conn then
        if cfg.trailer = [] then (server.wrote message).put message (.returned true)
        else server.put message (.trailing conn)
      else server.put message (.returned false)
  | .trailing conn =>
      if ok && server.live conn then (server.wrote message).put message (.returned true)
      else server.put message (.returned true)
  | .returned _ => server

/-- The handler takes its next step, for `serving` until the read loop ends. -/
def Server.handle (ok : Bool) : Server :=
  match server.handler with
  | .idle => server
  | .accepted => { server with handler := .stored }
  | .stored => { server with handler := .flushing none server.buffer, buffer := [] }
  | .flushing (some message) pending =>
      if ok then { server.wrote message with handler := .flushing none pending }
      else { server with handler := .flushing none pending }
  | .flushing none [] => { server with handler := .serving }
  | .flushing none (message :: pending) =>
      if cfg.sends (payloads message) then
        if ok then
          if cfg.trailer = [] then
            { server.wrote message with handler := .flushing none pending }
          else { server with handler := .flushing (some message) pending }
        else
          { server.requeue limit (message :: pending) with handler := .serving, failed := true }
      else { server with handler := .flushing none pending }
  | .serving => if ok then server else { server with handler := .deleted }
  | .deleted => { server with handler := .idle, leaving := server.leaving + 1 }

/-- A call or the handler goes on, a connection is opened when there is none, or the handler
of a closed one takes it off the counter. -/
inductive Step where
  | process (message : ℕ) (ok : Bool)
  | handle (ok : Bool)
  | accept
  | leave
  deriving DecidableEq

def Server.take : Step → Server
  | .process message ok => server.process cfg limit payloads message ok
  | .handle ok => server.handle cfg limit payloads ok
  | .accept =>
      if server.handler = .idle then
        { server with conns := server.conns + 1, handler := .accepted, failed := false }
      else server
  | .leave => { server with leaving := server.leaving - 1 }

abbrev serverAt (steps : List Step) (time : ℕ) : Server :=
  stateAt (Server.take cfg limit payloads) .new steps time

/-- No call is under way while a connection is being opened, a connection whose flush failed
takes no other write, and a delimiter is written if its payload was. -/
structure Server.Calm (server : Server) (step : Step) : Prop where
  alone : server.handler.opening = true → ∀ message, (server.calls message).inProgress = false
  refused : ∀ message conn, step = .process message true →
    server.calls message = .writing conn ∨ server.calls message = .trailing conn →
    server.failed = false
  trailed : ∀ message ok conn, step = .process message ok →
    server.calls message = .trailing conn → ok = true ∧ server.live conn = true
  flushed : ∀ ok message pending, step = .handle ok →
    server.handler = .flushing (some message) pending → ok = true

end

section

variable {cfg : Config} {limit : ℕ} {payloads : ℕ → Text} {server after : Server}

/-- What becomes of the messages: each is accepted once, and only accepted ones are there. -/
structure Custody (payloads : ℕ → Text) (messages : List ℕ) (calls : ℕ → Call) : Prop where
  once : messages.Nodup
  known : ∀ message ∈ messages, calls message = .returned true
  kept : ∀ message, calls message = .returned true → payloads message ≠ [] → message ∈ messages

section

variable {messages others : List ℕ} {calls after : ℕ → Call} {message : ℕ} {call : Call}

section

variable (hcustody : Custody payloads messages calls)

include hcustody

lemma Custody.perm (hperm : others ~ messages) : Custody payloads others calls where
  once := hperm.nodup_iff.mpr hcustody.once
  known message hmem := hcustody.known message (hperm.mem_iff.mp hmem)
  kept message hcall hpayload := hperm.mem_iff.mpr (hcustody.kept message hcall hpayload)

lemma Custody.put (hcall : calls message ≠ .returned true)
    (hempty : call = .returned true → payloads message = [])
    (hafter : ∀ other, after other = if other = message then call else calls other) :
    Custody payloads messages after := by
  cases hcustody
  constructor <;> grind

lemma Custody.gain (hcall : calls message ≠ .returned true) (hperm : others ~ message :: messages)
    (hafter : ∀ other, after other = if other = message then .returned true else calls other) :
    Custody payloads others after := by
  cases hcustody
  have hgained : Custody payloads (message :: messages) after := by constructor <;> grind
  exact hgained.perm hperm

end

end

/-- The messages written or still to be written, in the order in which they will be. -/
def Server.line (server : Server) : List ℕ :=
  server.written ++ (server.handler.taken ++ server.buffer)

/-- Every message that was accepted, in full. -/
def Server.Kept (payloads : ℕ → Text) (server : Server) : Prop :=
  Custody payloads (server.line ++ server.dropped) server.calls

lemma Handler.taken_of_not_opening {handler : Handler} (hopening : handler.opening = false) :
    handler.taken = [] := by
  cases handler <;> grind [Handler.opening, Handler.taken]

lemma perm_keep (messages before dropped : List ℕ) (count : ℕ) :
    before ++ messages.drop count ++ (dropped ++ messages.take count) ~
      before ++ messages ++ dropped := by
  have hsplit : messages.drop count ++ messages.take count ~ messages := by
    conv_rhs => rw [← List.take_append_drop count messages]
    exact List.perm_append_comm
  calc before ++ messages.drop count ++ (dropped ++ messages.take count)
    _ ~ before ++ (messages.drop count ++ (messages.take count ++ dropped)) := by
      rw [List.append_assoc]
      exact (List.perm_append_comm.append_left _).append_left _
    _ ~ before ++ (messages ++ dropped) := by
      rw [← List.append_assoc (messages.drop count)]
      exact (hsplit.append_right _).append_left _
    _ = _ := (List.append_assoc ..).symm

lemma Server.Kept.process (hkept : server.Kept payloads) {message : ℕ} {ok : Bool}
    (hcalm : server.Calm (.process message ok)) :
    (server.process cfg limit payloads message ok).Kept payloads := by
  have hwrote : server.calls message ≠ .returned true →
      ((server.wrote message).put message (.returned true)).Kept payloads := by
    intro hcall
    refine hkept.gain hcall ?_ fun _ => rfl
    simp only [Server.line, Server.put, Server.wrote, List.append_assoc]
    exact List.perm_middle
  have hput : ∀ call, server.calls message ≠ .returned true →
      (call = .returned true → payloads message = []) → (server.put message call).Kept payloads :=
    fun call hcall hempty => hkept.put hcall hempty fun _ => rfl
  have htrailed := hcalm.trailed message ok
  fun_cases Server.process cfg limit payloads server message ok
  case case7 hcall =>
    rw [Server.bufferMessage]
    split
    · grind
    · refine hkept.gain (by grind) ?_ fun _ => rfl
      have hkeep := perm_keep (server.buffer ++ [message]) (server.written ++ server.handler.taken)
        server.dropped ((server.buffer ++ [message]).length - limit)
      simp only [Server.line, Server.put, Server.keep, ← List.append_assoc] at hkeep ⊢
      refine hkeep.trans ?_
      simpa using @List.perm_middle _ message
        (server.written ++ server.handler.taken ++ server.buffer) server.dropped
  all_goals grind

section

variable (cfg : Config) (limit : ℕ) (payloads : ℕ → Text) (server : Server) (ok : Bool)

/-- What a step of the handler does with the messages it has taken. -/
inductive Server.Handled : Server → Prop
  | stays : Handled server
  | moves {handler : Handler} {leaving : ℕ} (hbefore : server.handler.taken = [])
      (hafter : handler = .stored ∨ handler = .deleted ∨ handler = .idle) :
      Handled { server with handler := handler, leaving := leaving }
  | takes (hstored : server.handler = .stored) :
      Handled { server with handler := .flushing none server.buffer, buffer := [] }
  | goes {begun next : Option ℕ} {pending rest written : List ℕ}
      (hflushing : server.handler = .flushing begun pending)
      (hline : written ++ (next.toList ++ rest) = server.written ++ (begun.toList ++ pending)) :
      Handled { server with written := written, handler := .flushing next rest }
  | loses {begun : Option ℕ} {message : ℕ} {pending rest : List ℕ}
      (hflushing : server.handler = .flushing begun pending)
      (hhead : begun.toList ++ pending = message :: rest)
      (hwhy : begun = some message ∧ ok = false ∨ cfg.sends (payloads message) = false) :
      Handled { server with handler := .flushing none rest }
  | ends (hflushing : server.handler = .flushing none []) :
      Handled { server with handler := .serving }
  | fails {pending : List ℕ} (hflushing : server.handler = .flushing none pending) :
      Handled { server.requeue limit pending with handler := .serving, failed := true }

lemma Server.handled : server.Handled cfg limit payloads ok
    (server.handle cfg limit payloads ok) := by
  fun_cases Server.handle cfg limit payloads server ok with
  | case1 => exact .stays
  | case2 hhandler => exact .moves (by rw [hhandler]; rfl) (.inl rfl)
  | case3 hhandler => exact .takes hhandler
  | case4 message pending hhandler => exact .goes hhandler (by simp +zetaDelta [Server.wrote])
  | case5 message pending hhandler hok => exact .loses hhandler rfl (.inl ⟨rfl, by simpa using hok⟩)
  | case6 hhandler => exact .ends hhandler
  | case7 message pending hhandler => exact .goes hhandler (by simp +zetaDelta [Server.wrote])
  | case8 message pending hhandler => exact .goes hhandler (by simp)
  | case9 message pending hhandler => exact .fails hhandler
  | case10 message pending hhandler hsends =>
    exact .loses hhandler rfl (.inr (by simpa using hsends))
  | case11 => exact .stays
  | case12 hhandler => exact .moves (by rw [hhandler]; rfl) (.inr (.inl rfl))
  | case13 hhandler => exact .moves (by rw [hhandler]; rfl) (.inr (.inr rfl))

end

lemma Server.Kept.handle (hkept : server.Kept payloads)
    (hframed : ∀ message, cfg.sends (payloads message) = true) {ok : Bool}
    (hcalm : server.Calm (.handle ok))
    (hhandled : server.Handled cfg limit payloads ok after) : after.Kept payloads := by
  rw [Server.Kept, Server.line] at hkept
  cases hhandled with
  | stays => exact hkept
  | moves hbefore hafter =>
    rw [hbefore] at hkept
    rcases hafter with rfl | rfl | rfl <;> exact hkept
  | takes hstored =>
    rw [hstored] at hkept
    simpa [Server.Kept, Server.line, Handler.taken] using hkept
  | goes hflushing hline =>
    rw [hflushing, Handler.taken, ← List.append_assoc, ← hline] at hkept
    simpa only [Server.Kept, Server.line, Handler.taken, List.append_assoc] using hkept
  | loses hflushing _ hwhy =>
    rcases hwhy with ⟨rfl, rfl⟩ | hunframed
    · exact absurd (hcalm.flushed false _ _ rfl hflushing) (by decide)
    · rw [hframed] at hunframed
      cases hunframed
  | ends hflushing =>
    rw [hflushing] at hkept
    exact hkept
  | @fails pending hflushing =>
    rw [hflushing] at hkept
    have hkeep := perm_keep (pending ++ server.buffer) server.written server.dropped
      ((pending ++ server.buffer).length - limit)
    exact hkept.perm hkeep

/-- What the handler and the calls under way say about the buffer. -/
structure Server.Flow (limit : ℕ) (server : Server) : Prop where
  bounded : server.buffer.length ≤ limit
  flushed : server.handler = .serving → server.failed = false →
    server.buffer = [] ∧ ∀ message, server.calls message ≠ .buffering
  taking : ∀ begun pending, server.handler = .flushing begun pending → server.buffer = []
  conns : ∀ message conn, server.calls message = .writing conn ∨
    server.calls message = .trailing conn → conn ≤ server.conns

section

variable (hflow : server.Flow limit)

include hflow

lemma Server.Flow.put {message : ℕ} {call : Call}
    (hbuffering : call = .buffering → server.handler = .serving → server.failed = true)
    (hconns : ∀ conn, call = .writing conn ∨ call = .trailing conn → conn ≤ server.conns) :
    (server.put message call).Flow limit := by
  cases hflow
  constructor <;> simp only [Server.put] <;> grind

lemma Server.Flow.wrote (message : ℕ) : (server.wrote message).Flow limit := { hflow with }

lemma Server.Flow.process {message : ℕ} {ok : Bool} (hcalm : server.Calm (.process message ok)) :
    (server.process cfg limit payloads message ok).Flow limit := by
  have halone := hcalm.alone
  obtain ⟨hbounded, hflushed, htaking, hconns⟩ := id hflow
  fun_cases Server.process cfg limit payloads server message ok <;> try exact hflow
  case case7 =>
    rw [Server.bufferMessage]
    split <;> constructor <;> simp only [Server.put, Server.keep] <;>
      grind [Handler.opening, Call.inProgress]
  case case9 | case12 => apply (hflow.wrote message).put <;> grind
  all_goals apply hflow.put <;> grind [Server.activeConns, Handler.inTable]

lemma Server.Flow.handle {ok : Bool} (hcalm : server.Calm (.handle ok))
    (hhandled : server.Handled cfg limit payloads ok after) : after.Flow limit := by
  obtain ⟨hbounded, hflushed, htaking, hconns⟩ := id hflow
  cases hhandled with
  | stays => exact hflow
  | moves _ hafter => rcases hafter with rfl | rfl | rfl <;> exact ⟨hbounded, nofun, nofun, hconns⟩
  | takes => exact ⟨Nat.zero_le limit, nofun, fun _ _ _ => rfl, hconns⟩
  | goes hflushing | loses hflushing =>
    exact ⟨hbounded, nofun, fun _ _ _ => htaking _ _ hflushing, hconns⟩
  | ends hflushing =>
    have hidle := hcalm.alone (by rw [hflushing]; rfl)
    refine ⟨hbounded, fun _ _ => ⟨htaking _ _ hflushing, fun message hcall => ?_⟩, nofun, hconns⟩
    exact absurd (hidle message) (by rw [hcall]; decide)
  | fails =>
    refine ⟨?_, nofun, nofun, hconns⟩
    simp only [Server.requeue, Server.keep, List.length_drop]
    omega

lemma Server.Flow.take {step : Step} (hcalm : server.Calm step) :
    (server.take cfg limit payloads step).Flow limit := by
  cases step with
  | process => exact hflow.process hcalm
  | handle => exact hflow.handle hcalm (server.handled ..)
  | accept =>
    cases hflow
    simp only [Server.take]
    split <;> constructor <;> grind
  | leave => exact { hflow with }

end

/-- The first message was accepted, and the second will not be written before it. -/
structure Server.Ordered (first second : ℕ) (server : Server) : Prop where
  accepted : server.calls first = .returned true
  line : ¬ [second, first] <+ server.line
  apart : first ∈ server.buffer → server.failed = false →
    server.calls second ≠ .writing server.conns ∧ server.calls second ≠ .trailing server.conns

lemma pair_sublist_append {first second : ℕ} {front back : List ℕ} :
    [first, second] <+ front ++ back ↔ [first, second] <+ front ∨ [first, second] <+ back ∨
      (first ∈ front ∧ second ∈ back) := by
  induction front with
  | nil => simp
  | cons head front ih =>
    grind

section

variable {first second message : ℕ}

section

variable (hordered : server.Ordered first second)

include hordered

section

variable (hcall : server.calls message ≠ .returned true)

include hcall

lemma Server.Ordered.put {call : Call}
    (hsecond : message = second → first ∈ server.buffer → server.failed = false →
      call ≠ .writing server.conns ∧ call ≠ .trailing server.conns) :
    (server.put message call).Ordered first second := by
  obtain ⟨haccepted, hline, hapart⟩ := hordered
  refine ⟨?_, hline, ?_⟩ <;> simp only [Server.put] <;> grind

lemma Server.Ordered.wrote (htaken : server.handler.taken = [])
    (hsecond : message = second → first ∉ server.buffer) :
    ((server.wrote message).put message (.returned true)).Ordered first second := by
  obtain ⟨haccepted, hline, hapart⟩ := hordered
  constructor <;> simp only [Server.put, Server.wrote, Server.line, htaken] at *
  · grind
  · rw [List.append_assoc, pair_sublist_append]
    grind
  · grind

lemma Server.Ordered.keep :
    ((server.keep limit (server.buffer ++ [message])).put message (.returned true)).Ordered
      first second := by
  obtain ⟨haccepted, hline, hapart⟩ := hordered
  have hfirst : first ≠ message := fun hsame => hcall (hsame ▸ haccepted)
  constructor <;> simp only [Server.put, Server.keep, Server.line] at *
  · rw [if_neg hfirst, haccepted]
  · intro hpair
    have hlonger := hpair.trans (((List.drop_sublist _ _).append_left _).append_left _)
    rw [← List.append_assoc, ← List.append_assoc, pair_sublist_append] at hlonger
    simp [hfirst] at hlonger
    exact hline hlonger
  · intro hmem
    grind

end

lemma Server.Ordered.process
    (hflow : server.Flow limit) {ok : Bool} (hcalm : server.Calm (.process message ok)) :
    (server.process cfg limit payloads message ok).Ordered first second := by
  have hput := @hordered.put
  have hopening : (server.calls message).inProgress = true → server.handler.opening = false := by
    grind [hcalm.alone]
  have hwrote : ∀ conn,
      server.calls message = .writing conn ∨ server.calls message = .trailing conn →
      ok = true → server.live conn = true →
      ((server.wrote message).put message (.returned true)).Ordered first second := by
    intro conn hcall hok hlive
    have hfailed := hcalm.refused message conn (by rw [hok]) hcall
    apply hordered.wrote
    · grind
    · exact Handler.taken_of_not_opening (hopening (by grind [Call.inProgress]))
    · grind [hordered.apart, Server.live]
  fun_cases Server.process cfg limit payloads server message ok <;> try exact hordered
  case case5 hcall htable =>
    have hserving : server.handler = .serving := by
      have hopened := hopening (by rw [hcall]; rfl)
      cases hhandler : server.handler <;> simp_all [Handler.opening, Handler.inTable]
    grind [hflow.flushed]
  case case7 hcall =>
    rw [Server.bufferMessage]
    split
    · apply hordered.put <;> grind
    · exact hordered.keep (by grind)
  all_goals grind [hordered.apart]

lemma Server.Ordered.handle {ok : Bool}
    (hhandled : server.Handled cfg limit payloads ok after) : after.Ordered first second := by
  obtain ⟨haccepted, hline, hapart⟩ := id hordered
  rw [Server.line] at hline
  -- in each case the line loses messages at most
  cases hhandled with
  | stays => exact hordered
  | moves hbefore hafter =>
    rw [hbefore] at hline
    rcases hafter with rfl | rfl | rfl <;> exact ⟨haccepted, hline, hapart⟩
  | takes hstored =>
    rw [hstored] at hline
    refine ⟨haccepted, ?_, nofun⟩
    simpa [Server.line, Handler.taken] using hline
  | goes hflushing hsame =>
    rw [hflushing, Handler.taken, ← List.append_assoc, ← hsame, List.append_assoc] at hline
    exact ⟨haccepted, hline, hapart⟩
  | loses hflushing hhead =>
    rw [hflushing, Handler.taken, hhead] at hline
    refine ⟨haccepted, fun hpair => hline (hpair.trans ?_), hapart⟩
    exact ((List.sublist_cons_self _ _).append_right _).append_left _
  | ends hflushing =>
    rw [hflushing] at hline
    exact ⟨haccepted, hline, hapart⟩
  | fails hflushing =>
    rw [hflushing] at hline
    refine ⟨haccepted, fun hpair => hline (hpair.trans ?_), nofun⟩
    exact (List.drop_sublist _ _).append_left _

end

end

end

section

variable {cfg : Config} {limit : ℕ} {payloads : ℕ → Text} {steps : List Step}

section

variable (hframed : ∀ message, cfg.sends (payloads message) = true)
  (hcalm : ∀ time step, steps[time]? = some step →
    (serverAt cfg limit payloads steps time).Calm step)

include hframed hcalm

lemma serverAt_sound (time : ℕ) : (serverAt cfg limit payloads steps time).Kept payloads ∧
      (serverAt cfg limit payloads steps time).Flow limit := by
  refine @stateAt_induction _ _ _ _ _
    (fun server : Server => server.Kept payloads ∧ server.Flow limit)
    ⟨?_, ?_⟩ ?_ time
  · constructor <;> simp [Server.new, Server.line, Handler.taken]
  · constructor <;> simp [Server.new]
  · intro time step hstep ⟨hkept, hflow⟩
    have hnow := hcalm time step hstep
    refine ⟨?_, hflow.take hnow⟩
    cases step with
    | process message ok => exact hkept.process hnow
    | handle ok => exact hkept.handle hframed hnow (Server.handled ..)
    | accept =>
      simp only [Server.take]
      split
      · rename_i hidle
        simpa [Server.Kept, Server.line, Handler.taken, hidle] using hkept
      · exact hkept
    | leave => exact hkept

lemma serverAt_ordered {early time first second : ℕ}
    (hfirst : (serverAt cfg limit payloads steps early).calls first = .returned true)
    (hsecond : (serverAt cfg limit payloads steps early).calls second = .waiting)
    (hle : early ≤ time) : (serverAt cfg limit payloads steps time).Ordered first second := by
  refine @stateAt_from _ _ _ _ _ (Server.Ordered first second) early time ?_ ?_ hle
  · refine ⟨hfirst, fun hpair => ?_, fun _ _ => by rw [hsecond]; exact ⟨nofun, nofun⟩⟩
    have hknown := (serverAt_sound hframed hcalm early).1.known second
      (List.mem_append_left _ (hpair.subset (by simp)))
    rw [hsecond] at hknown
    exact nomatch hknown
  · intro time step hstep hordered
    have hnow := hcalm time step hstep
    cases step with
    | process message ok => exact hordered.process (serverAt_sound hframed hcalm time).2 hnow
    | handle ok => exact hordered.handle (Server.handled ..)
    | accept =>
      obtain ⟨haccepted, hline, -⟩ := id hordered
      simp only [Server.take]
      split
      · rename_i hidle
        have hconns := (serverAt_sound hframed hcalm time).2.conns second
        refine ⟨haccepted, ?_, ?_⟩
        · simpa [Server.line, Handler.taken, hidle] using hline
        · grind
      · exact hordered
    | leave => exact ⟨hordered.accepted, hordered.line, hordered.apart⟩

end

end

/-- No call is under way while a connection opens, nothing else is written where a flush
failed, every payload can be framed and no delimiter is lost.  Then messages accepted one
after another are written in this order and once, what is accepted is written, kept or
dropped by the limit, and a finished flush leaves the buffer empty. -/
theorem tcp_backlog_delivered (cfg : Config) (limit : ℕ) (payloads : ℕ → Text)
    (hframed : ∀ message, cfg.sends (payloads message) = true) (steps : List Step)
    (hcalm : ∀ time step, steps[time]? = some step →
      (serverAt cfg limit payloads steps time).Calm step) (time : ℕ) :
    let server := serverAt cfg limit payloads steps time
    server.written.Nodup ∧ (∀ early first second, early ≤ time →
        (serverAt cfg limit payloads steps early).calls first = .returned true →
        (serverAt cfg limit payloads steps early).calls second = .waiting →
        ¬ [second, first] <+ server.written) ∧
      (∀ message, server.calls message = .returned true → payloads message ≠ [] →
        message ∈ server.written ∨ message ∈ server.handler.taken ∨ message ∈ server.buffer ∨
          message ∈ server.dropped) ∧
      server.buffer.length ≤ limit ∧
      (server.handler = .serving → server.failed = false →
        (∀ message, (server.calls message).inProgress = false) → server.buffer = []) := by
  intro server
  obtain ⟨⟨honce, hknown, hkept⟩, hflow⟩ := serverAt_sound hframed hcalm time
  refine ⟨?_, ?_, ?_, hflow.bounded, fun hserving hfailed _ => (hflow.flushed hserving hfailed).1⟩
  · exact (List.nodup_append.mp (List.nodup_append.mp honce).1).1
  · intro early first second hle hfirst hsecond hpair
    have hordered := serverAt_ordered hframed hcalm hfirst hsecond hle
    exact hordered.line (hpair.trans (List.sublist_append_left _ _))
  · intro message hcall hpayload
    have hmem := hkept message hcall hpayload
    simpa [Server.line, or_assoc] using hmem

theorem tcp_backlog_delivered_flushed :
    ¬ [1, 0] <+ (serverAt ⟨.lengthPrefix2, [], false, false, false⟩ 10 (fun _ => [7])
      [.process 0 true, .process 0 true, .process 0 true, .accept, .handle true, .handle true,
        .handle true, .handle true, .process 1 true, .process 1 true, .process 1 true,
        .process 1 true] 12).written := by
  refine (tcp_backlog_delivered ⟨.lengthPrefix2, [], false, false, false⟩ 10 (fun _ => [7])
    (fun _ => rfl) _ ?_ 12).2.1 3 0 1 (by decide) rfl rfl
  intro time step hstep
  have hlt : time < 12 := (List.getElem?_eq_some_iff.mp hstep).1
  interval_cases time <;> obtain rfl := Option.some.inj hstep <;>
    refine ⟨?_, fun _ _ _ _ => rfl, ?_, ?_⟩
  all_goals first
    | (intro _ message; cases message <;> rfl)
    | (rintro _ _ _ ⟨⟩ hcall; exact nomatch hcall)
    | exact nofun

/-- A call writes while a flush is under way, and its message overtakes the backlog; and a
call that saw no connection buffers its message after the flush. -/
theorem tcp_backlog_overtaken :
    (serverAt ⟨.lengthPrefix2, [], false, false, false⟩ 10 (fun _ => [7])
      [.process 0 true, .process 0 true, .process 0 true, .accept, .handle true, .handle true,
        .process 1 true, .process 1 true, .process 1 true, .process 1 true, .handle true]
      11).written = [1, 0] ∧
    let late := serverAt ⟨.lengthPrefix2, [], false, false, false⟩ 10 (fun _ => [7])
      [.process 0 true, .process 0 true, .accept, .handle true, .handle true, .handle true,
        .process 0 true] 7
    late.handler = .serving ∧ late.failed = false ∧ late.calls 0 = .returned true ∧
      late.buffer = [0] := by
  decide +kernel

end Fluxrig.Tcp.Backlog
