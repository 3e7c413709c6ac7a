import Fluxrig.Conductor.Compensation

/-!
# One outcome for every request

A request is routed, absorbed, answered from the retained outcome, rejected on
the error port, or fails with an error; exactly one of these, and the engine is
left accordingly.  What follows later is counted with tokens: a handler that
owes a response or a timeout message holds one, and so does such a message once
it was emitted.  A ticket that ends gives out its only token.
-/

namespace Fluxrig.Conductor

open Fluxrig.Core Message
open Valet (TicketID Accounted Books Change)

inductive Outcome where
  | routed
  | absorbed
  | replayed
  | rejected
  | failed
  deriving DecidableEq

/-- The reasons a request is rejected for. -/
def rejections : List Text :=
  [reasonNoKey, reasonNoRoute, reasonNoDestination, reasonOverloaded, reasonInvalidOrigin]

/-- What became of a request: `before` and `after` are the worlds around the call
of the handler, `result` is what it returned. -/
def Happened (gear : Gear) (msg : FluxMsg) (before : World)
    (result : Except Err Unit) (after : World) : Outcome → Prop
  | .routed => result = .ok () ∧ ∃ key id dest,
      gear.buildKey msg = some key ∧ utf8 "out" <+: dest ∧
      before.engine.store.lookup key = none ∧
      after.engine.store.lookup key = some id ∧
      after.emissions = before.emissions ++
        [⟨.request key id, dest, some (gear.outbound msg), true⟩]
  | .absorbed => result = .ok () ∧ ∃ key,
      gear.buildKey msg = some key ∧ key ∈ before.engine.store ∧
      after.engine = before.engine ∧ after.emissions = before.emissions
  | .replayed => result = .ok () ∧ ∃ key id port,
      gear.buildKey msg = some key ∧
      before.engine.retained.lookup key = some id ∧
      gear.responsePortFor (before.engine.tickets id) = some port ∧
      after.engine = before.engine ∧
      after.emissions = before.emissions ++
        [⟨.replay id, port, gear.answer (before.engine.tickets id), true⟩]
  | .rejected => result = .ok () ∧ ∃ reason ∈ rejections,
      after.engine = before.engine ∧
      after.emissions = before.emissions ++
        [⟨.error reason, portError, some (msg.annotate metaReason reason), true⟩]
  | .failed => (∃ err, result = .error err) ∧
      (∀ key id, after.engine.store.lookup key = some id →
        before.engine.store.lookup key = some id) ∧
      ∃ attempts, after.emissions = before.emissions ++ attempts ∧
        ∀ emission ∈ attempts, emission.delivered = false

/-- The outcome, read off the result and the new emissions. -/
def outcomeOf (result : Except Err Unit) (emitted : List Emission) : Outcome :=
  match result, emitted with
  | .ok _, [] => .absorbed
  | .ok _, ⟨.request _ _, _, _, _⟩ :: _ => .routed
  | .ok _, ⟨.replay _, _, _, _⟩ :: _ => .replayed
  | .ok _, _ :: _ => .rejected
  | .error _, _ => .failed

lemma Happened.eq_outcomeOf {gear : Gear} {msg : FluxMsg} {before after : World}
    {result : Except Err Unit} {outcome : Outcome}
    (hhappened : Happened gear msg before result after outcome) :
    outcome = outcomeOf result (after.emissions.drop before.emissions.length) := by
  cases outcome with
  | routed =>
    obtain ⟨rfl, key, id, dest, _, _, _, _, hemitted⟩ := hhappened
    rw [hemitted, List.drop_left]
    rfl
  | absorbed =>
    obtain ⟨rfl, key, _, _, _, hemitted⟩ := hhappened
    rw [hemitted, List.drop_length]
    rfl
  | replayed =>
    obtain ⟨rfl, key, id, port, _, _, _, _, hemitted⟩ := hhappened
    rw [hemitted, List.drop_left]
    rfl
  | rejected =>
    obtain ⟨rfl, reason, _, _, hemitted⟩ := hhappened
    rw [hemitted, List.drop_left]
    rfl
  | failed =>
    obtain ⟨⟨err, rfl⟩, _⟩ := hhappened
    rfl

/-- The assumption on the environment: the error port accepts. -/
def Input.ErrorPortUp (input : Input) : Prop := input.accepts portError = true

section

variable {gear : Gear} {msg : FluxMsg} {before world : World} {seen : Set World}

/-- Some outcome happened since `before`. -/
def Settled (gear : Gear) (msg : FluxMsg) (before : World)
    (result : Except Err Unit) (_ : Set World) (after : World) : Prop :=
  ∃ outcome, Happened gear msg before result after outcome

/-- Nothing but the rotation counters changed so far. -/
structure Untouched (before world : World) : Prop where
  engine : world.engine = before.engine
  emissions : world.emissions = before.emissions

lemma alone_emitError (huntouched : Untouched before world) {reason : Text}
    (hreason : reason ∈ rejections) :
    (emitError msg reason).Alone (exec gear) Input.ErrorPortUp
      (Settled gear msg before) seen world := by
  intro input hup
  refine ⟨.rejected, rfl, reason, hreason, huntouched.engine, ?_⟩
  have haccepts : input.accepts portError = true := hup
  simp only [exec, huntouched.emissions, haccepts]

/-- A handler that returns an error before it has changed anything. -/
lemma alone_fail (huntouched : Untouched before world) (err : Err) :
    (.done (.error err) : Handler).Alone (exec gear) Input.ErrorPortUp
      (Settled gear msg before) seen world := by
  refine ⟨.failed, ⟨err, rfl⟩, ?_, [], ?_, fun _ hmem => nomatch hmem⟩
  · rw [huntouched.engine]
    exact fun _ _ hstored => hstored
  · rw [huntouched.emissions, List.append_nil]

/-- After Parked: the emission is accepted, or the new ticket is released. -/
lemma alone_forward {key dest : Text} {id : TicketID}
    (hkey : gear.buildKey msg = some key) (hdest : utf8 "out" <+: dest)
    (hnone : before.engine.store.lookup key = none)
    (hlive : world.engine.state ≠ .closed)
    (hstore : world.engine.store = AList.insert key id before.engine.store)
    (hemissions : world.emissions = before.emissions) :
    (forward gear msg key dest id).Alone (exec gear) Input.ErrorPortUp
      (Settled gear msg before) seen world := by
  have hstored : world.engine.store.lookup key = some id := by
    rw [hstore, AList.lookup_insert]
  intro input _
  by_cases haccepted : input.accepts dest = true
  · dsimp only [exec]
    rw [haccepted]
    refine ⟨.routed, rfl, key, id, dest, hkey, hdest, hnone, hstored, ?_⟩
    rw [hemissions]
  · dsimp only [exec]
    rw [if_neg haccepted]
    intro later _
    have hreleased := Valet.Engine.release_stored (Gear.buildKey_ne_nil hkey) hlive hstored
    refine ⟨.failed, ⟨.emit, rfl⟩, ?_, ?_⟩
    · intro other found hfound
      have hlookup : ((AList.insert key id before.engine.store).erase key).lookup other =
          some found := by
        rw [← hstore]
        exact (congrArg (fun books => books.store.lookup other) hreleased).symm.trans hfound
      by_cases hother : other = key
      · subst hother
        rw [AList.lookup_erase] at hlookup
        nomatch hlookup
      · rw [AList.lookup_erase_ne hother, AList.lookup_insert_ne hother] at hlookup
        exact hlookup
    · refine ⟨[⟨.request key id, dest, some (gear.outbound msg), input.accepts dest⟩], ?_, ?_⟩
      · exact congrArg (· ++ _) hemissions
      · intro emission hmem
        rw [List.mem_singleton.mp hmem]
        exact Bool.eq_false_of_not_eq_true haccepted

lemma alone_replay {key : Text} {id : TicketID} (huntouched : Untouched before world)
    (hkey : gear.buildKey msg = some key)
    (hretained : before.engine.retained.lookup key = some id) :
    (replay gear msg (before.engine.handle id)).Alone (exec gear) Input.ErrorPortUp
      (Settled gear msg before) seen world := by
  rw [replay]
  cases hport : gear.responsePortFor (before.engine.handle id).ticket with
  | none => exact alone_emitError huntouched (by decide)
  | some port =>
    intro input _
    by_cases haccepted : input.accepts port = true
    · dsimp only [exec]
      rw [haccepted, huntouched.emissions]
      exact ⟨.replayed, rfl, key, id, port, hkey, hretained, hport, huntouched.engine, rfl⟩
    · dsimp only [exec]
      rw [if_neg haccepted]
      refine ⟨.failed, ⟨.emit, rfl⟩, ?_, ?_⟩
      · rw [huntouched.engine]
        exact fun _ _ hstored => hstored
      · refine ⟨[_], congrArg (· ++ _) huntouched.emissions, ?_⟩
        intro emission hmem
        rw [List.mem_singleton.mp hmem]
        exact Bool.eq_false_of_not_eq_true haccepted

lemma alone_parkAndForward {key dest : Text} (huntouched : Untouched before world)
    (hkey : gear.buildKey msg = some key) (hdest : utf8 "out" <+: dest) :
    (parkAndForward gear msg key dest).Alone (exec gear) Input.ErrorPortUp
      (Settled gear msg before) seen world := by
  intro input _
  dsimp only [exec, Valet.exec]
  rw [huntouched.engine]
  generalize hrequest : Valet.ParkRequest.mk key dest (some msg)
    (returnContext msg.metadata) 0 = request
  have hsame : request.key = key := by rw [← hrequest]
  rcases before.engine.park_cases gear.valet request input.valet.now with
    ⟨err, heq⟩ | ⟨id, hopen, heq⟩ | ⟨id, hretained, heq⟩ | ⟨haccepts, hok, hbooks⟩
  · rw [heq]
    have hback : Untouched before { world with engine := before.engine } :=
      ⟨rfl, huntouched.emissions⟩
    cases err with
    | overloaded => exact alone_emitError hback (by decide)
    | _ => exact alone_fail hback _
  · rw [heq]
    have hmem : key ∈ before.engine.store := by
      rw [← hsame, ← AList.lookup_isSome, hopen]
      rfl
    exact ⟨.absorbed, rfl, key, hkey, hmem, rfl, huntouched.emissions⟩
  · rw [heq]
    exact alone_replay ⟨rfl, huntouched.emissions⟩ hkey (hsame ▸ hretained)
  · rw [hok]
    have hstate : (before.engine.park gear.valet request input.valet.now).2.state =
        before.engine.state := by rw [hbooks]; rfl
    apply alone_forward hkey hdest (hsame ▸ haccepts.notOpen)
    · rw [hstate, haccepts.running]
      exact nofun
    · rw [← hsame]
      exact congrArg Books.store hbooks
    · exact huntouched.emissions

lemma alone_handleRequest (gear : Gear) (msg : FluxMsg) (before : World) :
    (handleRequest gear msg).Alone (exec gear) Input.ErrorPortUp
      (Settled gear msg before) {before} before := by
  have hstart : Untouched before before := ⟨rfl, rfl⟩
  rw [handleRequest]
  cases hkey : gear.buildKey msg with
  | none => exact alone_emitError hstart (by decide)
  | some key =>
    cases gear.matchRoute msg with
    | none => exact alone_emitError hstart (by decide)
    | some route =>
      have hpick : ∀ (load : Tally Text) (seen : Set World) (world : World),
          Untouched before world →
          (.perform (.pick route.tree load) fun (dest : Text) =>
            if dest = [] then emitError msg reasonNoDestination
            else parkAndForward gear msg key dest : Handler).Alone (exec gear)
            Input.ErrorPortUp (Settled gear msg before) seen world := by
        intro load seen world huntouched input _
        have hafter : Untouched before (exec gear (.pick route.tree load) input world).2 :=
          ⟨huntouched.engine, huntouched.emissions⟩
        rcases pick_within ⟨input.available, load.count⟩ route.tree world.counters
          with hnothing | hleaf
        · dsimp only [exec]
          rw [if_pos hnothing]
          exact alone_emitError hafter (by decide)
        · have hout := leaves_out route.tree _ hleaf
          have hfound : (route.tree.pick ⟨input.available, load.count⟩
              world.counters).1 ≠ [] := by
            intro hempty
            rw [hempty] at hout
            exact absurd (List.prefix_nil.mp hout) (by decide)
          dsimp only [exec]
          rw [if_neg hfound]
          exact alone_parkAndForward hafter hkey hout
      apply Program.Alone.bind
      rw [snapshot]
      split
      · exact fun input _ => hpick _ _ _ hstart
      · exact hpick _ _ _ hstart

end

/-- The duty to emit a message of this kind. -/
def Duty.sends (counted : Purpose → Bool) : Duty → Bool
  | sending purpose _ _ => counted purpose
  | _ => false

/-- The messages of one kind: those emitted and those still owed. -/
def tokens (gear : Gear) (counted : Purpose → Bool) (config : System) : ℕ :=
  config.state.emissions.countP (fun emission => counted emission.purpose) +
    (rules gear).owing config (Duty.sends counted)

section

variable {gear : Gear} {counted : Purpose → Bool} {config : System}

/-- The emissions a step adds are those the operation had the duty to send. -/
lemma countP_exec (gear : Gear) (herror : ∀ reason, counted (.error reason) = false)
    (op : Op) (input : Input) (world : World) :
    (exec gear op input world).2.emissions.countP (fun emission => counted emission.purpose) =
      world.emissions.countP (fun emission => counted emission.purpose) +
        (Duty.sends counted op.duty).toNat := by
  cases op with
  | valet | release | pick => rfl
  | emit purpose port msg =>
    have hduty : Duty.sends counted (Op.duty (.emit purpose port msg)) = counted purpose := by
      cases purpose with
      | error reason => exact (herror reason).symm
      | _ => rfl
    rw [hduty]
    cases hcounted : counted purpose <;> simp [exec, List.countP_append, hcounted]

/-- A step spends the token of the duty it fulfils and gives out that of the
duty it takes on. -/
lemma tokens_performed (herror : ∀ reason, counted (.error reason) = false)
    {thread : ℕ} {call : Call} {op : Op} {rest : op.Reply → Handler} {input : Input}
    (hthread : config.threads[thread]? = some (call, .perform op rest)) :
    tokens gear counted (performed gear config thread call op rest input) =
      tokens gear counted config + (Duty.sends counted
        (dutyOf gear (rest (exec gear op input config.state).1))).toNat := by
  have howing : (rules gear).owing (performed gear config thread call op rest input)
        (Duty.sends counted) + (Duty.sends counted op.duty).toNat =
      (rules gear).owing config (Duty.sends counted) + (Duty.sends counted
        (dutyOf gear (rest (exec gear op input config.state).1))).toNat :=
    Protocol.owing_set hthread
  have hcount := countP_exec gear herror op input config.state
  rw [tokens, tokens]
  change (exec gear op input config.state).2.emissions.countP _ + _ = _
  omega

/-- If a token is given out only where none was given out before, and the world
remembers that one was, there is at most one. -/
lemma tokens_le_one {marked : Books → Prop} (herror : ∀ reason, counted (.error reason) = false)
    (hstable : ∀ books after, Accounted gear.valet books →
      Change gear.valet books after → marked books → marked after)
    (hfresh : ∀ world input op duty, Accounted gear.valet world.engine.toBooks →
      Takes gear world input op duty → duty.sends counted = true →
      ¬ marked world.engine.toBooks ∧ marked (exec gear op input world).2.engine.toBooks)
    (events : List (Event Call Input)) : tokens gear counted (reach gear events) ≤ 1 := by
  refine (@reach_always gear (fun config => tokens gear counted config ≤ 1 ∧
    (0 < tokens gear counted config → marked config.state.engine.toBooks))
    ?_ ?_ ?_ events).2.1
  · exact ⟨Nat.zero_le 1, fun hpos => absurd hpos (Nat.lt_irrefl 0)⟩
  · intro config call hone
    have hsame : tokens gear counted (began gear config call) = tokens gear counted config := by
      have howing : (rules gear).owing (began gear config call) (Duty.sends counted) =
          (rules gear).owing config (Duty.sends counted) +
            (Duty.sends counted (dutyOf gear (body gear call))).toNat :=
        Protocol.owing_start
      rw [dutyOf_body] at howing
      exact congrArg (_ + ·) howing
    rw [hsame]
    exact hone
  · intro config thread call op rest input horderly hone hthread _ htakes
    rw [tokens_performed herror hthread]
    cases hsends : Duty.sends counted
        (dutyOf gear (rest (exec gear op input config.state).1)) with
    | false =>
      refine ⟨hone.1, fun hpos => ?_⟩
      exact hstable _ _ horderly.accounted (exec_change gear op input config.state) (hone.2 hpos)
    | true =>
      obtain ⟨hunmarked, hmarked⟩ := hfresh _ _ _ _ horderly.accounted htakes hsends
      have hzero : tokens gear counted config = 0 := by
        by_contra hpos
        exact hunmarked (hone.2 (Nat.pos_of_ne_zero hpos))
      rw [hzero]
      exact ⟨le_refl 1, fun _ => hmarked⟩

end

/-- A response or a timeout message of this ticket. -/
def Purpose.Answers (id : TicketID) : Purpose → Bool
  | response ticket => ticket = id
  | timeout ticket => ticket = id
  | _ => false

/-- The routed request of this ticket. -/
def Purpose.Routes (id : TicketID) : Purpose → Bool
  | request _ ticket => ticket = id
  | _ => false

lemma tokens_answers_le_one (gear : Gear) (id : TicketID) (events : List (Event Call Input)) :
    tokens gear (Purpose.Answers id) (reach gear events) ≤ 1 := by
  -- A response or timeout is owed from the step on that ended the ticket.
  refine @tokens_le_one gear (Purpose.Answers id) (fun books => id < books.next ∧
    (books.tickets id).state ≠ .opened) (fun _ => rfl) ?_ ?_ events
  · intro books after haccounted hchange hended
    rw [haccounted.frozen hchange hended.1 hended.2]
    exact ⟨hended.1.trans_le hchange.next_le, hended.2⟩
  · intro world input op duty haccounted htakes hsends
    have hmarks : ∀ {how : Valet.TicketState},
        Valet.Ends world.engine.toBooks (exec gear op input world).2.engine.toBooks id how →
        how ≠ .opened →
        ¬ (id < world.engine.next ∧ (world.engine.tickets id).state ≠ .opened) ∧
          id < (exec gear op input world).2.engine.next ∧
          ((exec gear op input world).2.engine.tickets id).state ≠ .opened := by
      intro how hends hhow
      refine ⟨fun hended => hended.2 hends.opened, ?_, hends.ended ▸ hhow⟩
      exact hends.created.trans_le (exec_change gear op input world).next_le
    cases htakes with
    | clear | request | replay | undo => nomatch hsends
    | response key outcome handle port hreply _ =>
      obtain rfl : handle.id = id := of_decide_eq_true hsends
      exact hmarks (Valet.ends_of_redeem haccounted hreply) nofun
    | timeout callback handle port msg hreply =>
      obtain rfl : handle.id = id := of_decide_eq_true hsends
      exact hmarks (Valet.ends_of_callback haccounted hreply).2 nofun

lemma tokens_routes_le_one (gear : Gear) (id : TicketID) (events : List (Event Call Input)) :
    tokens gear (Purpose.Routes id) (reach gear events) ≤ 1 := by
  refine @tokens_le_one gear (Purpose.Routes id) (fun books => id < books.next)
    (fun _ => rfl) ?_ ?_ events
  · intro books after _ hchange hcreated
    exact hcreated.trans_le hchange.next_le
  · intro world input op duty _ htakes hsends
    cases htakes with
    | clear | replay | response | timeout | undo => nomatch hsends
    | request request handle port msg hreply =>
      obtain rfl : handle.id = id := of_decide_eq_true hsends
      obtain ⟨_, hid, hbooks⟩ := Valet.Engine.park_parked hreply
      have hnext : (exec gear (.valet (.park request)) input world).2.engine.next =
          world.engine.next + 1 := congrArg Books.next hbooks
      rw [hnext, hid]
      exact ⟨Nat.lt_irrefl _, Nat.lt_succ_self _⟩

/-- Whatever the world, a message that enters on the request port has exactly one
of the five outcomes, as long as the error port accepts.  And in every run, for
each ticket: at most one request was emitted to a destination, and at most one
of a response and a timeout message was emitted. -/
theorem one_outcome (gear : Gear) : (∀ (msg : FluxMsg) (world : World) (inputs : ℕ → Input),
      (∀ step, (inputs step).ErrorPortUp) →
      ∃! outcome, Happened gear msg world
        ((processPort gear (utf8 "in") msg).runAlone (exec gear) (world, inputs)).1
        ((processPort gear (utf8 "in") msg).runAlone (exec gear) (world, inputs)).2.1
        outcome) ∧
    ∀ (events : List (Event Call Input)) (id : TicketID),
      (reach gear events).state.emissions.countP
          (fun emission => emission.purpose.Routes id) ≤ 1 ∧
        (reach gear events).state.emissions.countP
          (fun emission => emission.purpose.Answers id) ≤ 1 := by
  constructor
  · intro msg world inputs hup
    have hrequest : processPort gear (utf8 "in") msg = handleRequest gear msg := if_pos rfl
    obtain ⟨outcome, hhappened⟩ := (alone_handleRequest gear msg world).runAlone
      (Set.mem_singleton world) hup
    refine ⟨outcome, hhappened, fun other hother => ?_⟩
    calc other = outcomeOf _ _ := hother.eq_outcomeOf
      _ = outcome := hhappened.eq_outcomeOf.symm
  · intro events id
    exact ⟨(Nat.le_add_right _ _).trans (tokens_routes_le_one gear id events),
      (Nat.le_add_right _ _).trans (tokens_answers_le_one gear id events)⟩

/-- The sample message enters where every call succeeds. -/
def calmRun : Except Err Unit × World × (ℕ → Input) :=
  (processPort sampleGear (utf8 "in") sampleMsg).runAlone (exec sampleGear)
    (World.new, fun _ => calm 0)

theorem sampleMsg_routed : Happened sampleGear sampleMsg World.new calmRun.1 calmRun.2.1 .routed ∧
    ∃! outcome, Happened sampleGear sampleMsg World.new calmRun.1 calmRun.2.1 outcome := by
  have honly := (one_outcome sampleGear).1 sampleMsg World.new (fun _ => calm 0) fun _ => rfl
  refine ⟨?_, honly⟩
  obtain ⟨outcome, hhappened, -⟩ := honly
  have hrouted : outcome = .routed := hhappened.eq_outcomeOf.trans (by decide +kernel)
  exact hrouted ▸ hhappened

end Fluxrig.Conductor
