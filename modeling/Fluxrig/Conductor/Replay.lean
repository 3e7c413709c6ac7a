import Fluxrig.Conductor.Compensation

/-!
# Replay of a retained outcome

The response to a reply and the replay of a retained outcome are built on
different paths, but both from a closed ticket, and a closed ticket never
changes.  So in every run they agree in port and message.  A retransmission gets
that far only if its route has a destination available: the handler picks one
before it looks the key up.
-/

namespace Fluxrig.Conductor

open Fluxrig.Core Message
open Valet (TicketID Accounted Books Change Retains)

/-- The port and the message are those the closed ticket stands for. -/
structure FromTicket (gear : Gear) (books : Books) (id : TicketID) (port : Text)
    (msg : Option FluxMsg) : Prop where
  created : id < books.next
  closed : (books.tickets id).state = .closed
  port_eq : gear.responsePortFor (books.tickets id) = some port
  msg_eq : msg = gear.answer (books.tickets id)

/-- A response or a replay is what its ticket stands for; nothing is said of
other messages. -/
def Justified (gear : Gear) (books : Books) (purpose : Purpose) (port : Text)
    (msg : Option FluxMsg) : Prop :=
  ∀ id, purpose = .response id ∨ purpose = .replay id → FromTicket gear books id port msg

/-- A ticket holds a request with its key and a route. -/
def Requested (gear : Gear) (ticket : Valet.Ticket) : Prop :=
  ∃ msg, ticket.request = some msg ∧ gear.buildKey msg = some ticket.key ∧
    (gear.matchRoute msg).isSome

structure Faithful (gear : Gear) (config : System) : Prop where
  retains : Retains config.state.engine.toBooks
  requested : ∀ id < config.state.engine.next, Requested gear (config.state.engine.tickets id)
  emitted : ∀ emission ∈ config.state.emissions,
    Justified gear config.state.engine.toBooks emission.purpose emission.port emission.msg
  owed : ∀ entry ∈ config.threads, ∀ purpose port msg,
    dutyOf gear entry.2 = .sending purpose port msg →
      Justified gear config.state.engine.toBooks purpose port msg

section

variable {gear : Gear} {config : System} {purpose : Purpose} {msg : Option FluxMsg}

lemma Justified.change {books after : Books} {port : Text}
    (hjustified : Justified gear books purpose port msg)
    (haccounted : Accounted gear.valet books) (hchange : Change gear.valet books after) :
    Justified gear after purpose port msg := by
  intro id hpurpose
  obtain ⟨hcreated, hclosed, hport, hmsg⟩ := hjustified id hpurpose
  have hended : (books.tickets id).state ≠ .opened := by
    rw [hclosed]
    exact nofun
  have hfrozen := haccounted.frozen hchange hcreated hended
  exact ⟨hcreated.trans_le hchange.next_le, by rw [hfrozen, hclosed],
    by rw [hfrozen, hport], by rw [hfrozen, hmsg]⟩

variable {input : Input} {op : Op}

/-- A step owes only what its ticket stands for. -/
lemma Takes.justified {world : World} {port : Text}
    (haccounted : Accounted gear.valet world.engine.toBooks)
    (hretains : Retains world.engine.toBooks)
    (htakes : Takes gear world input op (.sending purpose port msg)) :
    Justified gear (exec gear op input world).2.engine.toBooks purpose port msg := by
  intro id hpurpose
  cases htakes with
  | request | timeout =>
    exact hpurpose.elim nofun nofun
  | replay request handle _ hreply hport =>
    obtain rfl : handle.id = id := hpurpose.elim nofun fun hreplay => Purpose.replay.inj hreplay
    obtain ⟨hretained, hhandle, hsame⟩ := Valet.Engine.park_replayed hreply
    obtain ⟨hcreated, hclosed, _, _⟩ := hretains _ _ hretained
    have hengine : (exec gear (.valet (.park request)) input world).2.engine =
        world.engine := hsame
    have hticket : handle.ticket = world.engine.tickets handle.id :=
      congrArg Valet.Handle.ticket hhandle
    rw [hengine]
    exact ⟨hcreated, hclosed, hticket ▸ hport, by rw [hticket]⟩
  | response key outcome handle _ hreply hport =>
    obtain rfl : handle.id = id :=
      hpurpose.elim (fun hresponse => Purpose.response.inj hresponse) nofun
    obtain ⟨hstored, hhandle, htickets⟩ := Valet.Engine.redeem_ok hreply
    have hticket : (exec gear (.valet (.redeem key outcome)) input
        world).2.engine.tickets handle.id = handle.ticket := by
      change (world.engine.redeem gear.valet key outcome
        input.valet.now).2.tickets handle.id = handle.ticket
      rw [htickets, Function.update_self]
    have houtcome : handle.ticket.outcome = outcome := by rw [hhandle]; rfl
    have hends := Valet.ends_of_redeem haccounted hreply
    refine ⟨?_, hends.ended, by rw [hticket, hport], ?_⟩
    · exact hends.created.trans_le
        (exec_change gear (.valet (.redeem key outcome)) input world).next_le
    · rw [hticket, Gear.answer, houtcome]

/-- A new ticket holds the request it was parked with. -/
lemma requested_exec {world : World} (hproper : Proper gear op)
    (hrequested : ∀ id < world.engine.next, Requested gear (world.engine.tickets id)) :
    ∀ id < (exec gear op input world).2.engine.next,
      Requested gear ((exec gear op input world).2.engine.tickets id) := by
  intro id hcreated
  by_cases hbefore : id < world.engine.next
  · have hcontinues := (exec_change gear op input world).continues hbefore
    obtain ⟨msg, hrequest, hkey, hroute⟩ := hrequested id hbefore
    exact ⟨msg, hcontinues.request.trans hrequest, hcontinues.key ▸ hkey, hroute⟩
  · rcases exec_engine gear op input world with ⟨_, hsame⟩ | ⟨method, hmethod, hexec⟩
    · rw [hsame] at hcreated
      exact absurd hcreated hbefore
    · rw [hexec] at hcreated ⊢
      have hcause := Valet.exec_cause gear.valet method input.valet world.engine
      obtain ⟨request, rfl, hticket⟩ := hcause.creates hbefore hcreated
      obtain rfl := Op.eq_park_of_method hmethod
      rw [hticket]
      exact hproper

lemma Faithful.began (hfaithful : Faithful gear config) (call : Call) :
    Faithful gear (began gear config call) where
  retains := hfaithful.retains
  requested := hfaithful.requested
  emitted := hfaithful.emitted
  owed := by
    intro entry hentry purpose port msg hduty
    rcases List.mem_append.mp hentry with hold | hnew
    · exact hfaithful.owed entry hold purpose port msg hduty
    · rw [List.mem_singleton.mp hnew, dutyOf_body] at hduty
      nomatch hduty

lemma Faithful.performed (hfaithful : Faithful gear config)
    (haccounted : Accounted gear.valet config.state.engine.toBooks) {thread : ℕ}
    {call : Call} {rest : op.Reply → Handler}
    (hthread : config.threads[thread]? = some (call, .perform op rest))
    (hproper : Proper gear op)
    (htakes : Takes gear config.state input op
      (dutyOf gear (rest (exec gear op input config.state).1))) :
    Faithful gear (performed gear config thread call op rest input) where
  retains := hfaithful.retains.change haccounted (exec_change gear op input config.state)
  requested := requested_exec hproper hfaithful.requested
  emitted := by
    intro emission hemission
    have hchange := exec_change gear op input config.state
    cases op with
    | valet => exact (hfaithful.emitted emission hemission).change haccounted hchange
    | release | pick =>
      exact (hfaithful.emitted emission hemission).change haccounted hchange
    | emit purpose port msg =>
      rcases List.mem_append.mp hemission with hold | hnew
      · exact (hfaithful.emitted emission hold).change haccounted hchange
      · rw [List.mem_singleton.mp hnew]
        have howed := hfaithful.owed _ (List.mem_of_getElem? hthread) purpose port msg
        cases purpose with
        | error => exact fun id hpurpose => hpurpose.elim nofun nofun
        | _ => exact howed rfl
  owed := by
    intro entry hentry purpose port msg hduty
    rcases List.mem_or_eq_of_mem_set hentry with hold | hnew
    · exact (hfaithful.owed entry hold purpose port msg hduty).change haccounted
        (exec_change gear op input config.state)
    · rw [hnew] at hduty
      rw [hduty] at htakes
      exact htakes.justified haccounted hfaithful.retains

end

lemma faithful_reach (gear : Gear) (events : List (Event Call Input)) :
    Orderly gear (reach gear events) ∧ Faithful gear (reach gear events) := by
  refine reach_always ?_ (fun config call hfaithful => hfaithful.began call) ?_ events
  · exact ⟨Retains.new, fun id hid => absurd hid (Nat.not_lt_zero id),
      (fun _ hmem => nomatch hmem), fun _ hmem => nomatch hmem⟩
  · intro config thread call op rest input horderly hfaithful hthread hproper htakes
    exact hfaithful.performed horderly.accounted hthread hproper htakes

section

variable {gear : Gear} {msg other : FluxMsg}

lemma get_congr (hdata : msg.data = other.data) (key : Text) : msg.get key = other.get key := by
  rw [FluxMsg.get, FluxMsg.get, hdata]

/-- The correlation key is a function of the data. -/
lemma buildKey_congr (hdata : msg.data = other.data) :
    gear.buildKey msg = gear.buildKey other := by
  simp only [Gear.buildKey, hdata, get_congr hdata]

/-- The route is a function of the data. -/
lemma matchRoute_congr (hdata : msg.data = other.data) :
    gear.matchRoute msg = gear.matchRoute other := by
  simp only [Gear.matchRoute, Gear.routeMatches, hdata, get_congr hdata]

/-- The step of a request handler at which it picks: the second where it takes a
snapshot first. -/
def Route.pickStep (route : Route) : ℕ := if route.needsLoad then 1 else 0

/-- A request with a key and a route, up to its pick. -/
lemma runAlone_handleRequest {key : Text} {route : Route}
    (hkey : gear.buildKey msg = some key) (hroute : gear.matchRoute msg = some route)
    (world : World) (inputs : ℕ → Input) :
    ∃ (load : Tally Text) (rest : ℕ → Input),
      let picked := route.tree.pick ⟨(inputs route.pickStep).available, load.count⟩ world.counters
      (handleRequest gear msg).runAlone (exec gear) (world, inputs) =
        (if picked.1 = [] then emitError msg reasonNoDestination
          else parkAndForward gear msg key picked.1).runAlone (exec gear)
          ({ world with counters := picked.2 }, rest) := by
  rw [handleRequest, hkey, hroute]
  rw [Program.runAlone_bind, snapshot, Route.pickStep]
  by_cases hload : route.needsLoad = true
  · rw [if_pos hload, if_pos hload]
    exact ⟨_, _, rfl⟩
  · rw [if_neg hload, if_neg hload]
    exact ⟨_, _, rfl⟩

/-- From its `Park` on, a retransmission of a retained key is answered with what
the ticket stands for. -/
lemma runAlone_parkAndForward {world : World} (counters : Counters)
    {key dest port : Text} {id : TicketID} {answer : Option FluxMsg} (hkey : key ≠ [])
    (haccounted : Accounted gear.valet world.engine.toBooks)
    (hretains : Retains world.engine.toBooks)
    (hretained : world.engine.retained.lookup key = some id)
    (hticket : FromTicket gear world.engine.toBooks id port answer) (inputs : ℕ → Input) :
    ∃ delivered, ((parkAndForward gear msg key dest).runAlone (exec gear)
        ({ world with counters := counters }, inputs)).2.1.emissions =
      world.emissions ++ [⟨.replay id, port, answer, delivered⟩] := by
  have hpark : world.engine.park gear.valet
      ⟨key, dest, some msg, returnContext msg.metadata, 0⟩ (inputs 0).valet.now =
      (.ok (.replayedClosed, world.engine.handle id), world.engine) :=
    Valet.Engine.park_retained hkey (hretains key id hretained).2.2.2
      (haccounted.apart key (hretained ▸ Option.some_ne_none id)) hretained
  have hport : gear.responsePortFor (world.engine.handle id).ticket = some port := hticket.port_eq
  refine ⟨(inputs 1).accepts port, ?_⟩
  have hrun : (parkAndForward gear msg key dest).runAlone (exec gear)
      ({ world with counters := counters }, inputs) =
      (afterPark gear msg key dest (.ok (.replayedClosed, world.engine.handle id))).runAlone
        (exec gear) ({ world with counters := counters }, fun step => inputs (step + 1)) :=
    congrArg (fun result : Except Valet.Err (Valet.ParkResult × Valet.Handle) ×
        Valet.Engine => (afterPark gear msg key dest result.1).runAlone (exec gear)
      (⟨result.2, counters, world.emissions⟩, fun step => inputs (step + 1))) hpark
  rw [hrun, afterPark, replay, hport, hticket.msg_eq]
  rfl

end

/-- The retransmission `msg`, handled in `world`, is answered with a replay of
ticket `id` on this port and with this message, and with nothing else. -/
def AnsweredWith (gear : Gear) (world : World) (inputs : ℕ → Input) (msg : FluxMsg)
    (id : TicketID) (port : Text) (answer : Option FluxMsg) : Prop :=
  ∃ delivered, ((processPort gear (utf8 "in") msg).runAlone (exec gear)
      (world, inputs)).2.1.emissions =
    world.emissions ++ [⟨.replay id, port, answer, delivered⟩]

/-- In every run, a replay has the port and the message of the live response of
the same ticket.  And wherever a ticket is retained whose live response was
emitted, a message with the data of the ticket's request has a route, and, short
of a rotation counter wrapping around, it is answered like the live response if
and only if some leaf of that route is available when the handler picks. -/
theorem replay_iff_available (gear : Gear) (events : List (Event Call Input))
    (live : Emission) (hlive : live ∈ (reach gear events).state.emissions)
    (id : TicketID) (hresponse : live.purpose = .response id) :
    (∀ again ∈ (reach gear events).state.emissions, again.purpose = .replay id →
      again.port = live.port ∧ again.msg = live.msg) ∧
    ∀ (key : Text) (request msg : FluxMsg) (inputs : ℕ → Input),
      (reach gear events).state.engine.retained.lookup key = some id →
      ((reach gear events).state.engine.tickets id).request = some request →
      msg.data = request.data →
      ∃ route, gear.matchRoute msg = some route ∧
        ((reach gear events).state.counters.Room route.tree.turns →
          (AnsweredWith gear (reach gear events).state inputs msg id live.port live.msg ↔
            ∃ port ∈ route.tree.leaves, (inputs route.pickStep).available port = true)) := by
  obtain ⟨horderly, hfaithful⟩ := faithful_reach gear events
  have hticket := hfaithful.emitted live hlive id (Or.inl hresponse)
  constructor
  · intro again hagain hreplay
    have hsame := hfaithful.emitted again hagain id (Or.inr hreplay)
    have hport : some again.port = some live.port := hsame.port_eq.symm.trans hticket.port_eq
    exact ⟨Option.some.inj hport, hsame.msg_eq.trans hticket.msg_eq.symm⟩
  · intro key request msg inputs hretained hrequest hdata
    obtain ⟨hcreated, _, hkeyOf, _⟩ := hfaithful.retains key id hretained
    obtain ⟨original, horiginal, hbuilt, hrouted⟩ := hfaithful.requested id hcreated
    cases horiginal.symm.trans hrequest
    obtain ⟨route, hroute⟩ := Option.isSome_iff_exists.mp hrouted
    have hkey : gear.buildKey msg = some key := by
      rw [buildKey_congr hdata, hbuilt, hkeyOf]
    refine ⟨route, (matchRoute_congr hdata).trans hroute, fun hroom => ?_⟩
    obtain ⟨load, rest, hrun⟩ := runAlone_handleRequest hkey
      ((matchRoute_congr hdata).trans hroute) (reach gear events).state inputs
    have hin : processPort gear (utf8 "in") msg = handleRequest gear msg := if_pos rfl
    have hpick := @pick_ne_nil_iff ⟨(inputs route.pickStep).available, load.count⟩
      route.tree (reach gear events).state.counters hroom
    rw [AnsweredWith, hin, hrun, ← hpick]
    constructor
    · rintro ⟨delivered, hanswered⟩ hnothing
      rw [if_pos hnothing] at hanswered
      have hlast := List.append_cancel_left hanswered
      nomatch congrArg (List.map Emission.purpose) hlast
    · intro hfound
      rw [if_neg hfound]
      exact runAlone_parkAndForward _ (Gear.buildKey_ne_nil hkey) horderly.accounted
        hfaithful.retains hretained hticket rest

/-! ## A retransmission that is turned away -/

/-- The reply of the destination; it does not carry the parked field. -/
def sampleReply : FluxMsg :=
  { sampleMsg with data := some [(utf8 "stan", .text (utf8 "000001"))] }

/-- A request is routed and its reply is sent home. -/
def answeredRun : List (Event Call Input) :=
  [.start (.message (utf8 "in") sampleMsg), .step 0 (calm 0), .step 0 (calm 0),
    .step 0 (calm 0), .start (.message (utf8 "in_reply") sampleReply), .step 1 (calm 1),
    .step 1 (calm 1)]

/-- The link of the only destination is down. -/
def linkDown : Input := ⟨⟨2, false⟩, fun _ => false, fun _ => true⟩

theorem retransmission_turned_away :
    (reach sampleGear answeredRun).state.emissions.map Emission.purpose =
        [.request sampleKey 0, .response 0] ∧
      (reach sampleGear answeredRun).state.engine.retained.lookup sampleKey = some 0 ∧
      ((reach sampleGear answeredRun).state.engine.tickets 0).request = some sampleMsg ∧
      ((processPort sampleGear (utf8 "in") sampleMsg).runAlone (exec sampleGear)
          ((reach sampleGear answeredRun).state,
            fun _ => linkDown)).2.1.emissions.map Emission.purpose =
        [.request sampleKey 0, .response 0, .error reasonNoDestination] :=
  ⟨rfl, rfl, rfl, rfl⟩

theorem retransmission_answered : ∃ live ∈ (reach sampleGear answeredRun).state.emissions,
      live.purpose = .response 0 ∧
      AnsweredWith sampleGear (reach sampleGear answeredRun).state (fun _ => calm 2)
        sampleMsg 0 live.port live.msg := by
  obtain ⟨live, hlast⟩ : ∃ live,
      (reach sampleGear answeredRun).state.emissions[1]? = some live := ⟨_, rfl⟩
  have hlive := List.mem_of_getElem? hlast
  have hresponse : live.purpose = .response 0 := by
    have hpurpose : (reach sampleGear answeredRun).state.emissions[1]?.map
      Emission.purpose = some (.response 0) := rfl
    rw [hlast] at hpurpose
    exact Option.some.inj hpurpose
  refine ⟨live, hlive, hresponse, ?_⟩
  obtain ⟨route, hroute, hiff⟩ := (replay_iff_available sampleGear answeredRun live hlive 0
    hresponse).2 sampleKey sampleMsg sampleMsg (fun _ => calm 2) rfl rfl rfl
  cases hroute
  refine (hiff ?_).mpr ⟨utf8 "out_scheme", by decide, rfl⟩
  intro address
  change 0 + 0 ≤ 2 ^ 64
  decide

end Fluxrig.Conductor
