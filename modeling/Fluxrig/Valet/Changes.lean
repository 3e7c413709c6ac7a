import Fluxrig.Valet.Engine

/-!
# What a step does to the books

Each method is characterised once, by the ways it can go.  From these follows
`exec_cause`: whatever the step, the books change in one of a few ways, each
with the operation that made it and the condition under which the engine does.
`Change` forgets the operation.  Timers never touch the books.
-/

namespace Fluxrig.Valet

open Fluxrig.Core Message

namespace Books

variable (books : Books)

/-- A new ticket enters the store. -/
def park (ticket : Ticket) : Books :=
  { books with
    tickets := Function.update books.tickets books.next ticket
    next := books.next + 1
    store := AList.insert ticket.key books.next books.store
    openCount := books.openCount + 1
    destCounts := books.destCounts.inc ticket.destination }

/-- The ticket of a key leaves the store, changed to `ticket`. -/
def finish (key : Text) (id : TicketID) (ticket : Ticket) : Books :=
  { books with
    tickets := Function.update books.tickets id ticket
    store := books.store.erase key
    openCount := books.openCount - 1
    destCounts := books.destCounts.dec (books.tickets id).destination }

def retain (key : Text) (id : TicketID) : Books :=
  { books with retained := books.retained.insert key id }

def purge (key : Text) : Books :=
  { books with retained := books.retained.erase key }

def startDrain : Books :=
  { books with state := .draining }

def shut : Books :=
  { books with
    state := .closed
    store := ∅
    retained := ∅
    openCount := 0
    destCounts := ∅ }

end Books

/-- The fields of a ticket that never change. -/
structure Ticket.Continues (old new : Ticket) : Prop where
  key : new.key = old.key
  destination : new.destination = old.destination
  returnCtx : new.returnCtx = old.returnCtx
  request : new.request = old.request

/-- The engine takes new work under this key. -/
structure Accepts (cfg : Settings) (books : Books) (key : Text) : Prop where
  running : books.state = .running
  notOpen : books.store.lookup key = none
  notRetained : books.retained.lookup key = none
  room : 0 < cfg.maxInFlight → books.openCount < cfg.maxInFlight

/-- The ways the books change in one step. -/
inductive Change (cfg : Settings) (books : Books) : Books → Prop where
  | keep : Change cfg books books
  | park (ticket : Ticket) (haccepts : Accepts cfg books ticket.key)
      (hopened : ticket.state = .opened) :
      Change cfg books (books.park ticket)
  | finish (key : Text) (id : TicketID) (ticket : Ticket)
      (hlive : books.state ≠ .closed) (hstored : books.store.lookup key = some id)
      (hcontinues : (books.tickets id).Continues ticket)
      (hended : ticket.state ≠ .opened) :
      Change cfg books (books.finish key id ticket)
  | retain (key : Text) (id : TicketID) (ticket : Ticket)
      (hlive : books.state ≠ .closed) (hstored : books.store.lookup key = some id)
      (hcontinues : (books.tickets id).Continues ticket)
      (hclosed : ticket.state = .closed) :
      Change cfg books ((books.finish key id ticket).retain key id)
  | purge (key : Text) (id : TicketID) (hretained : books.retained.lookup key = some id) :
      Change cfg books (books.purge key)
  | startDrain (hlive : books.state ≠ .closed) : Change cfg books books.startDrain
  | shut (hlive : books.state ≠ .closed) : Change cfg books books.shut

namespace Engine

variable {cfg : Settings} {engine : Engine}

/-- Stopping timers leaves everything but the timers alone. -/
lemma stopAll_frame (ids : List TicketID) (engine : Engine) :
    (ids.foldl (fun engine id => engine.stop (engine.tickets id).timer)
        engine).toBooks = engine.toBooks ∧
      (ids.foldl (fun engine id => engine.stop (engine.tickets id).timer)
        engine).waiting = engine.waiting := by
  induction ids generalizing engine with
  | nil => exact ⟨rfl, rfl⟩
  | cons _ _ ih => exact ih _

variable {key : Text} {id : TicketID}

lemma take_eq_some {store after : MemoryStore} (htake : store.take key = some (id, after)) :
    store.lookup key = some id ∧ store.erase key = after := by
  simpa [MemoryStore.take] using htake

lemma park_cases (cfg : Settings) (request : ParkRequest) (now : Time) (engine : Engine) :
    (∃ err, engine.park cfg request now = (.error err, engine)) ∨
    (∃ id, engine.store.lookup request.key = some id ∧ engine.park cfg request now =
        (.ok (.attachedOpen, engine.handle id), engine)) ∨
    (∃ id, engine.retained.lookup request.key = some id ∧ engine.park cfg request now =
        (.ok (.replayedClosed, engine.handle id), engine)) ∨
    (Accepts cfg engine.toBooks request.key ∧ (engine.park cfg request now).1 =
        .ok (.parked, ⟨engine.next, newTicket cfg request now engine.next⟩) ∧
      (engine.park cfg request now).2.toBooks =
        engine.toBooks.park (newTicket cfg request now engine.next)) := by
  fun_cases park cfg request now engine with
  | case1 | case2 | case5 | case6 => exact Or.inl ⟨_, rfl⟩
  | case3 _ _ id hstore => exact Or.inr (Or.inl ⟨id, hstore, rfl⟩)
  | case4 _ _ _ id hretained => exact Or.inr (Or.inr (Or.inl ⟨id, hretained, rfl⟩))
  | case7 _ _ hstore => simp_all [MemoryStore.insert, MemoryStore.get]
  | case8 _ hlive hstore hretained hdraining hfull id ticket store hinsert =>
    obtain rfl : AList.insert request.key engine.next engine.store = store := by
      simp_all [MemoryStore.insert, MemoryStore.get, id]
    have hrunning : engine.state = .running := by cases hstate : engine.state <;> simp_all
    have haccepts : Accepts cfg engine.toBooks request.key :=
      ⟨hrunning, hstore, hretained, by grind⟩
    exact Or.inr (Or.inr (Or.inr ⟨haccepts, rfl, rfl⟩))

variable {request : ParkRequest} {now : Time} {handle : Handle}

/-- `Park` reports Parked with the ticket it has created. -/
lemma park_parked (hreply : (engine.park cfg request now).1 = .ok (.parked, handle)) :
    Accepts cfg engine.toBooks request.key ∧ handle.id = engine.next ∧
      (engine.park cfg request now).2.toBooks =
        engine.toBooks.park (newTicket cfg request now engine.next) := by
  have hcases := engine.park_cases cfg request now
  grind

/-- `Park` reports ReplayedClosed with the ticket retained under the key. -/
lemma park_replayed (hreply : (engine.park cfg request now).1 = .ok (.replayedClosed, handle)) :
    engine.retained.lookup request.key = some handle.id ∧ handle = engine.handle handle.id ∧
      (engine.park cfg request now).2 = engine := by
  have hcases := engine.park_cases cfg request now
  grind [Engine.handle]

/-- On a live engine `Park` reports ReplayedClosed for a retained key. -/
lemma park_retained (hkey : request.key ≠ []) (hlive : engine.state ≠ .closed)
    (hnone : engine.store.lookup request.key = none)
    (hretained : engine.retained.lookup request.key = some id) :
    engine.park cfg request now = (.ok (.replayedClosed, engine.handle id), engine) := by
  rw [park, if_neg hkey, if_neg hlive, MemoryStore.get, hnone]
  rw [hretained]

/-- The ticket as a successful `redeem` leaves it. -/
def redeemedTicket (cfg : Settings) (key : Text) (outcome : Option FluxMsg)
    (now : Time) (id : TicketID) (ticket : Ticket) : Ticket :=
  { ticket with
    outcome := outcome
    closedAt := now
    state := .closed
    timer := if 0 < cfg.retain then some (.purge key id) else ticket.timer }

lemma redeem_cases (cfg : Settings) (key : Text) (outcome : Option FluxMsg)
    (now : Time) (engine : Engine) :
    (∃ err, engine.redeem cfg key outcome now = (.error err, engine)) ∨
    (∃ id, engine.state ≠ .closed ∧ engine.store.lookup key = some id ∧
      (engine.redeem cfg key outcome now).1 = .ok ⟨id,
        redeemedTicket cfg key outcome now id (engine.tickets id)⟩ ∧
      (engine.redeem cfg key outcome now).2.toBooks = (if 0 < cfg.retain then
          (engine.toBooks.finish key id (redeemedTicket cfg key outcome now id
            (engine.tickets id))).retain key id
        else engine.toBooks.finish key id (redeemedTicket cfg key outcome now id
          (engine.tickets id)))) := by
  fun_cases redeem cfg key outcome now engine with
  | case1 | case2 | case3 | case4 => exact Or.inl ⟨_, rfl⟩
  | case5 _ hlive id store htake ticket redeemed closed hretain kept retaining =>
    obtain ⟨hstored, rfl⟩ := take_eq_some htake
    refine Or.inr ⟨id, hlive, hstored, ?_, ?_⟩
    · simp [redeemedTicket, hretain, kept, redeemed, ticket]
    · simp [redeemedTicket, hretain, retaining, closed, kept, redeemed, ticket, setTicket,
        afterFunc, decOpenLocked, Books.retain, Books.finish, stop]
  | case6 _ hlive id store htake ticket redeemed closed hretain =>
    obtain ⟨hstored, rfl⟩ := take_eq_some htake
    refine Or.inr ⟨id, hlive, hstored, ?_, ?_⟩
    · simp [redeemedTicket, hretain, redeemed, ticket]
    · simp only [redeemedTicket, if_neg hretain]
      rfl

/-- `Redeem` returns the ticket of its key, closed with the outcome it was given. -/
lemma redeem_ok {outcome : Option FluxMsg}
    (hreply : (engine.redeem cfg key outcome now).1 = .ok handle) :
    engine.store.lookup key = some handle.id ∧
      handle.ticket = redeemedTicket cfg key outcome now handle.id (engine.tickets handle.id) ∧
      (engine.redeem cfg key outcome now).2.tickets =
        Function.update engine.tickets handle.id handle.ticket := by
  have hcases := engine.redeem_cases cfg key outcome now
  grind [Books.finish, Books.retain]

lemma release_cases (key : Text) (engine : Engine) :
    (∃ err, engine.release key = (.error err, engine)) ∨
    (∃ id, engine.state ≠ .closed ∧ engine.store.lookup key = some id ∧
      (engine.release key).1 = .ok () ∧
      (engine.release key).2.toBooks = engine.toBooks.finish key id
        { engine.tickets id with state := .released }) := by
  fun_cases release key engine with
  | case1 | case2 | case3 => exact Or.inl ⟨_, rfl⟩
  | case4 _ hlive id store htake =>
    obtain ⟨hstored, rfl⟩ := take_eq_some htake
    exact Or.inr ⟨id, hlive, hstored, rfl, rfl⟩

/-- On a live engine `Release` takes the ticket of its key out of the store. -/
lemma release_stored (hkey : key ≠ [])
    (hlive : engine.state ≠ .closed) (hstored : engine.store.lookup key = some id) :
    (engine.release key).2.toBooks =
      engine.toBooks.finish key id { engine.tickets id with state := .released } := by
  rw [release, if_neg hkey, if_neg hlive, MemoryStore.take, hstored]
  rfl

lemma expire_cases (cfg : Settings) (id : TicketID) (engine : Engine) :
    engine.expire cfg id = (none, engine) ∨
    (engine.state ≠ .closed ∧ engine.store.lookup (engine.tickets id).key = some id ∧
      (engine.expire cfg id).1 = (if cfg.onExpire then
          some ⟨id, { engine.tickets id with state := .expired }⟩ else none) ∧
      (engine.expire cfg id).2.toBooks = engine.toBooks.finish (engine.tickets id).key id
          { engine.tickets id with state := .expired }) := by
  fun_cases expire cfg id engine with
  | case1 | case2 | case3 => exact Or.inl rfl
  | case4 hlive ticket hstored _ store htake =>
    obtain ⟨_, rfl⟩ := take_eq_some htake
    exact Or.inr ⟨hlive, not_not.mp hstored, rfl, rfl⟩

lemma purge_cases (key : Text) (id : TicketID) (engine : Engine) :
    engine.purge key id = engine ∨ (engine.retained.lookup key = some id ∧
      (engine.purge key id).toBooks = engine.toBooks.purge key) := by
  fun_cases purge key id engine with
  | case1 hretained => exact Or.inr ⟨hretained, rfl⟩
  | case2 => exact Or.inl rfl

lemma openCount_of_drainResult (hnil : engine.drainResult = .ok ()) : engine.openCount ≤ 0 := by
  grind [drainResult]

lemma drain_cases (done : Bool) (engine : Engine) :
    engine.drain done = (some (.error .closed), engine) ∨
    (engine.state ≠ .closed ∧ (engine.drain done).2.toBooks = engine.toBooks.startDrain ∧
      ((engine.drain done).1 = some (.ok ()) → engine.openCount ≤ 0)) := by
  fun_cases drain done engine with
  | case1 => exact Or.inl rfl
  | case2 hlive draining _ =>
    exact Or.inr ⟨hlive, rfl, fun hnil => @openCount_of_drainResult draining (Option.some.inj hnil)⟩
  | case3 hlive => exact Or.inr ⟨hlive, rfl, nofun⟩

lemma wake_cases (done : Bool) (engine : Engine) : (engine.wake done).2.toBooks = engine.toBooks ∧
      ((engine.wake done).1 = some (.ok ()) → 0 < engine.waiting ∧ engine.openCount ≤ 0) := by
  fun_cases wake done engine with
  | case1 | case3 => exact ⟨rfl, nofun⟩
  | case2 hwaiting =>
    refine ⟨rfl, fun hnil => ⟨Nat.pos_of_ne_zero hwaiting, ?_⟩⟩
    exact openCount_of_drainResult (Option.some.inj hnil)

lemma close_cases (engine : Engine) : (engine.state = .closed ∧ engine.close = engine) ∨
    (engine.state ≠ .closed ∧ engine.close.toBooks = engine.toBooks.shut ∧
      engine.close.waiting = engine.waiting) := by
  fun_cases close engine with
  | case1 hclosed => exact Or.inl ⟨hclosed, rfl⟩
  | case2 hlive purged dropped stopped =>
    have hstopped := stopAll_frame dropped engine
    exact Or.inr ⟨hlive, congrArg Books.shut hstopped.1, hstopped.2⟩

/-- A callback that runs does what `expire` or `purge` does. -/
lemma callback_cases (cfg : Settings) (callback : Callback) (engine : Engine) :
    engine.callback cfg callback = (none, engine) ∨
    (∃ started : Engine, started.toBooks = engine.toBooks ∧ ((∃ id, callback = .expire id ∧
          engine.callback cfg callback = started.expire cfg id) ∨
        (∃ key id, callback = .purge key id ∧
          engine.callback cfg callback = (none, started.purge key id)))) := by
  fun_cases Engine.callback cfg callback engine with
  | case1 id _ started => exact Or.inr ⟨started, rfl, Or.inl ⟨id, rfl, rfl⟩⟩
  | case2 key id _ started => exact Or.inr ⟨started, rfl, Or.inr ⟨key, id, rfl, rfl⟩⟩
  | case3 => exact Or.inl rfl

end Engine

lemma Ticket.Continues.of_redeemed (cfg : Settings) (key : Text)
    (outcome : Option FluxMsg) (now : Time) (id : TicketID) (ticket : Ticket) :
    ticket.Continues (Engine.redeemedTicket cfg key outcome now id ticket) :=
  ⟨rfl, rfl, rfl, rfl⟩

lemma Ticket.Continues.of_state (ticket : Ticket) (state : TicketState) :
    ticket.Continues { ticket with state := state } :=
  ⟨rfl, rfl, rfl, rfl⟩

/-- What a step did to the books, and why. -/
inductive Cause (cfg : Settings) (engine : Engine) (op : Op) (input : Input) : Books → Prop where
  | keep : Cause cfg engine op input engine.toBooks
  | park (request : ParkRequest) (hop : op = .park request)
      (haccepts : Accepts cfg engine.toBooks request.key) :
      Cause cfg engine op input (engine.toBooks.park
        (Engine.newTicket cfg request input.now engine.next))
  | redeem (key : Text) (outcome : Option FluxMsg) (id : TicketID)
      (hop : op = .redeem key outcome) (hlive : engine.state ≠ .closed)
      (hstored : engine.store.lookup key = some id)
      (hreply : (engine.redeem cfg key outcome input.now).1 = .ok ⟨id,
        Engine.redeemedTicket cfg key outcome input.now id (engine.tickets id)⟩) :
      Cause cfg engine op input
        (if 0 < cfg.retain then
          (engine.toBooks.finish key id (Engine.redeemedTicket cfg key outcome
            input.now id (engine.tickets id))).retain key id
        else engine.toBooks.finish key id (Engine.redeemedTicket cfg key outcome
          input.now id (engine.tickets id)))
  | release (key : Text) (id : TicketID) (hop : op = .release key)
      (hlive : engine.state ≠ .closed) (hstored : engine.store.lookup key = some id)
      (hreply : (engine.release key).1 = .ok ()) :
      Cause cfg engine op input
        (engine.toBooks.finish key id { engine.tickets id with state := .released })
  | expire (id : TicketID) (hop : op = .callback (.expire id))
      (hlive : engine.state ≠ .closed)
      (hstored : engine.store.lookup (engine.tickets id).key = some id) :
      Cause cfg engine op input (engine.toBooks.finish (engine.tickets id).key id
        { engine.tickets id with state := .expired })
  | purge (key : Text) (id : TicketID) (hop : op = .callback (.purge key id))
      (hretained : engine.retained.lookup key = some id) :
      Cause cfg engine op input (engine.toBooks.purge key)
  | startDrain (hop : op = .drain) (hlive : engine.state ≠ .closed) :
      Cause cfg engine op input engine.toBooks.startDrain
  | shut (hop : op = .close) (hlive : engine.state ≠ .closed) :
      Cause cfg engine op input engine.toBooks.shut

lemma exec_cause (cfg : Settings) (op : Op) (input : Input) (engine : Engine) :
    Cause cfg engine op input (exec cfg op input engine).2.toBooks := by
  cases op with
  | park request =>
    have hcases := engine.park_cases cfg request input.now
    grind [intro Cause, exec]
  | redeem key outcome =>
    have hcases := engine.redeem_cases cfg key outcome input.now
    grind [intro Cause, exec]
  | release key =>
    have hcases := engine.release_cases key
    grind [intro Cause, exec]
  | drain =>
    have hcases := engine.drain_cases input.done
    grind [intro Cause, exec]
  | wake =>
    have hcases := engine.wake_cases input.done
    grind [intro Cause, exec]
  | close =>
    have hcases := engine.close_cases
    grind [intro Cause, exec]
  | elapse timer => grind [intro Cause, exec, Engine.elapse]
  | callback callback =>
    rcases engine.callback_cases cfg callback with
      heq | ⟨started, hsame, ⟨id, rfl, heq⟩ | ⟨key, id, rfl, heq⟩⟩
    · grind [intro Cause, exec]
    · have hcases := started.expire_cases cfg id
      grind [intro Cause, exec]
    · have hcases := started.purge_cases key id
      grind [intro Cause, exec]
  | inFlightSnapshot => exact .keep

lemma Cause.change {cfg : Settings} {engine : Engine} {op : Op} {input : Input}
    {after : Books} (hcause : Cause cfg engine op input after) :
    Change cfg engine.toBooks after := by
  cases hcause with
  | keep => exact .keep
  | park _ _ haccepts => exact .park _ haccepts rfl
  | redeem key _ id _ hlive hstored _ =>
    split
    · exact .retain key id _ hlive hstored (.of_redeemed ..) rfl
    · exact .finish key id _ hlive hstored (.of_redeemed ..) nofun
  | release key id _ hlive hstored _ =>
    exact .finish key id _ hlive hstored (.of_state ..) nofun
  | expire id _ hlive hstored => exact .finish _ id _ hlive hstored (.of_state ..) nofun
  | purge key id _ hretained => exact .purge key id hretained
  | startDrain _ hlive => exact .startDrain hlive
  | shut _ hlive => exact .shut hlive

/-- Whatever the step, the books change in one of the listed ways. -/
lemma exec_change (cfg : Settings) (op : Op) (input : Input) (engine : Engine) :
    Change cfg engine.toBooks (exec cfg op input engine).2.toBooks :=
  (exec_cause cfg op input engine).change

end Fluxrig.Valet
