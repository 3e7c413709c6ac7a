import Fluxrig.Conductor.Duties

/-!
# Compensation of a failed emission

A handler whose emission fails calls `Release` with its correlation key.  The
engine removes whatever ticket is open under that key, and the emission may have
taken so long that the handler's own ticket is gone and the key was parked
again.  As long as nobody parks a key that another handler has parked and not
finished with, the ticket removed is the handler's own.
-/

namespace Fluxrig.Conductor

open Fluxrig.Core Message
open Valet (TicketID ParkRequest)

/-- The key a handler has parked and may still release, and the ticket it got. -/
def Duty.own : Duty → Option (Text × TicketID)
  | sending (.request key own) _ _ => some (key, own)
  | undoing key own => some (key, own)
  | _ => none

/-- The handler is between its `Park` of this key and the end of its emission,
compensation included. -/
def Duty.Holds (key : Text) (duty : Duty) : Prop :=
  duty.own.map Prod.fst = some key

instance (key : Text) : DecidablePred (Duty.Holds key) :=
  fun _ => inferInstanceAs (Decidable (_ = _))

instance (cfg : Valet.Settings) (books : Valet.Books) (key : Text) :
    Decidable (Valet.Accepts cfg books key) :=
  decidable_of_iff (books.state = .running ∧ books.store.lookup key = none ∧
      books.retained.lookup key = none ∧
      (0 < cfg.maxInFlight → books.openCount < cfg.maxInFlight))
    ⟨fun h => ⟨h.1, h.2.1, h.2.2.1, h.2.2.2⟩, fun h => ⟨h.1, h.2, h.3, h.4⟩⟩

/-- When a `Park` is about to create a ticket, no other handler is still busy
with a ticket it created for the same key. -/
def Exclusive (gear : Gear) (config : System) (thread : ℕ) : Op → Prop
  | .valet (.park request) =>
      Valet.Accepts gear.valet config.state.engine.toBooks request.key →
        ¬ (rules gear).OthersOwe config thread (Duty.Holds request.key)
  | _ => True

instance (gear : Gear) (config : System) (thread : ℕ) :
    ∀ op : Op, Decidable (Exclusive gear config thread op)
  | .valet (.park _) => inferInstanceAs (Decidable (_ → _))
  | .valet (.redeem _ _) => isTrue trivial
  | .valet (.release _) => isTrue trivial
  | .valet .drain => isTrue trivial
  | .valet .wake => isTrue trivial
  | .valet .close => isTrue trivial
  | .valet (.elapse _) => isTrue trivial
  | .valet (.callback _) => isTrue trivial
  | .valet (.inFlightSnapshot _) => isTrue trivial
  | .release _ _ => isTrue trivial
  | .pick _ _ => isTrue trivial
  | .emit _ _ _ => isTrue trivial

/-- Under a key that a handler holds, only its own ticket can be open. -/
def OwnOpen (gear : Gear) (config : System) : Prop :=
  ∀ (thread : ℕ) (entry : Call × Handler), config.threads[thread]? = some entry →
    ∀ key own, (dutyOf gear entry.2).own = some (key, own) →
      ∀ id, config.state.engine.store.lookup key = some id → id = own

section

variable {gear : Gear} {config : System}

section

variable (hown : OwnOpen gear config)

include hown

lemma OwnOpen.began (call : Call) : OwnOpen gear (began gear config call) := by
  intro thread entry hentry key own hholds id hstored
  rcases Config.getElem?_concat hentry with hold | ⟨_, hnew⟩
  · exact hown thread entry hold key own hholds id hstored
  · rw [hnew, dutyOf_body] at hholds
    nomatch hholds

/-- The handler that takes the step: it holds a key only if it has just parked
it, or if it held it before. -/
lemma OwnOpen.self {thread : ℕ} {call : Call} {op : Op} {rest : op.Reply → Handler}
    {input : Input} {duty : Duty}
    (hthread : config.threads[thread]? = some (call, .perform op rest))
    (htakes : Takes gear config.state input op duty) {key : Text} {own : TicketID}
    (hholds : duty.own = some (key, own)) {id : TicketID}
    (hstored : (exec gear op input config.state).2.engine.store.lookup key = some id) :
    id = own := by
  cases htakes with
  | clear | replay | response | timeout => nomatch hholds
  | request request _ _ _ hreply =>
    cases hholds
    obtain ⟨_, hid, hbooks⟩ := Valet.Engine.park_parked hreply
    have hlookup : (config.state.engine.park gear.valet request
        input.valet.now).2.store.lookup request.key = some config.state.engine.next := by
      rw [hbooks]
      exact AList.lookup_insert _
    rw [hid]
    exact Option.some.inj (hstored.symm.trans hlookup)
  | undo =>
    exact hown thread _ hthread key own hholds id hstored

lemma OwnOpen.performed {thread : ℕ} {call : Call} {op : Op} {rest : op.Reply → Handler}
    {input : Input} (hthread : config.threads[thread]? = some (call, .perform op rest))
    (hexclusive : Exclusive gear config thread op) (htakes : Takes gear config.state input op
      (dutyOf gear (rest (exec gear op input config.state).1))) :
    OwnOpen gear (performed gear config thread call op rest input) := by
  intro other entry hentry key own hholds id hstored
  rcases Config.getElem?_set_cases hentry with ⟨rfl, rfl⟩ | ⟨hother, hold⟩
  · exact hown.self hthread htakes hholds hstored
  · by_cases hbefore : config.state.engine.store.lookup key = some id
    · exact hown other entry hold key own hholds id hbefore
    · -- The key was parked in this step, although `other` holds it.
      obtain ⟨request, rfl, rfl, _, haccepts⟩ := exec_enters_store hstored hbefore
      have howes : (rules gear).OthersOwe config thread (Duty.Holds request.key) :=
        ⟨other, entry, hother, hold, congrArg (Option.map Prod.fst) hholds⟩
      exact absurd howes (hexclusive haccepts)

end

end

lemma ownOpen_reach {gear : Gear} {events : List (Event Call Input)}
    (hexclusive : Config.EveryStep (exec gear) (body gear)
      (Config.EachOp (Exclusive gear)) System.new events) :
    OwnOpen gear (reach gear events) := by
  refine (reach_invariant (fun _ _ hentry => nomatch hentry)
    (fun config call hown => hown.began call) ?_ hexclusive).2
  intro config thread call op rest input _ hown hgood hthread _ htakes
  have hop : config.nextOp thread = some op := by
    simp [Config.nextOp, hthread, Program.next?]
  exact hown.performed hthread (hgood op hop) htakes

/-- The tickets a compensating `Release` removes from the store. -/
def Removes (world : World) (key : Text) (id : TicketID) : Prop :=
  ∃ other, world.engine.store.lookup other = some id ∧
    (world.engine.release key).2.store.lookup other ≠ some id

lemma stored_of_removes {world : World} {key : Text} {id : TicketID}
    (hremoves : Removes world key id) : world.engine.store.lookup key = some id := by
  obtain ⟨other, hstored, hleft⟩ := hremoves
  rcases world.engine.release_cases key with ⟨_, heq⟩ | ⟨_, _, _, _, hbooks⟩
  · rw [heq] at hleft
    exact absurd hstored hleft
  · rw [hbooks] at hleft
    have hkey : other = key := by
      by_contra hne
      exact hleft ((AList.lookup_erase_ne hne).trans hstored)
    exact hkey ▸ hstored

/-- In every interleaving of handlers, replies and callbacks in which no `Park`
creates a ticket for a key that another handler still holds: a handler about to
compensate for its failed emission removes no ticket but its own. -/
theorem release_own_of_exclusive (gear : Gear) (events : List (Event Call Input))
    (hexclusive : Config.EveryStep (exec gear) (body gear)
      (Config.EachOp (Exclusive gear)) System.new events)
    (thread : ℕ) (key : Text) (own : TicketID)
    (hnext : (reach gear events).nextOp thread = some (.release key own)) :
    ∀ id, Removes (reach gear events).state key id → id = own := by
  intro id hremoves
  obtain ⟨call, rest, hthread⟩ := Config.exists_perform_of_nextOp hnext
  exact ownOpen_reach hexclusive thread _ hthread key own rfl id (stored_of_removes hremoves)

/-! ## A run that removes another handler's ticket -/

/-- A conductor with one catch-all route to one destination. -/
def sampleGear : Gear where
  origin := []
  knownOrigins := []
  corrKey := [utf8 "stan"]
  parkFields := [utf8 "pin"]
  routes := [⟨[], [], .leaf ⟨utf8 "out_scheme", ⟨utf8 "_scheme", rfl⟩⟩⟩]
  valet := Valet.sampleSettings
  sprint := fun _ => []
  corrKey_ne_nil := List.cons_ne_nil _ _
  onExpire_set := rfl

def sampleMsg : FluxMsg where
  fluxID := 1
  refFluxID := 0
  traceID := []
  srcGearID := 2
  metadata := ∅
  data := some [(utf8 "stan", .text (utf8 "000001")), (utf8 "pin", .text (utf8 "1234"))]
  flags := 0
  rawPayload := []
  path := []
  tsInit := 0

def sampleKey : Text := utf8 "6:000001"

/-- Every port is available and accepts. -/
def calm (now : Valet.Time) : Input := ⟨⟨now, false⟩, fun _ => true, fun _ => true⟩

/-- Every port is available and refuses. -/
def refusing (now : Valet.Time) : Input := ⟨⟨now, false⟩, fun _ => true, fun _ => false⟩

/-- Thread 0 parks ticket 0 and begins to emit; the ticket expires; thread 3
parks the retransmission as ticket 1 and sends it out; only then does the
emission of thread 0 fail. -/
def slowEmission : List (Event Call Input) :=
  [.start (.message (utf8 "in") sampleMsg), .step 0 (calm 0), .step 0 (calm 0),
    .start (.elapse ⟨.expire 0, 30⟩), .step 1 (calm 30),
    .start (.callback (.expire 0)), .step 2 (calm 30), .step 2 (calm 30),
    .start (.message (utf8 "in") sampleMsg), .step 3 (calm 31), .step 3 (calm 31),
    .step 3 (calm 31), .step 0 (refusing 32)]

theorem release_removes_other :
    (reach sampleGear slowEmission).nextOp 0 = some (.release sampleKey 0) ∧
      Removes (reach sampleGear slowEmission).state sampleKey 1 := by
  have hstored : (reach sampleGear slowEmission).state.engine.store.lookup sampleKey =
      some 1 := rfl
  have hleft : ((reach sampleGear slowEmission).state.engine.release sampleKey).2.store.lookup
      sampleKey = none := rfl
  exact ⟨rfl, sampleKey, hstored, hleft ▸ nofun⟩

/-- Here the second handler parks another key while the first still emits. -/
def otherKey : List (Event Call Input) :=
  [.start (.message (utf8 "in") sampleMsg), .step 0 (calm 0), .step 0 (calm 0),
    .start (.message (utf8 "in")
      { sampleMsg with data := some [(utf8 "stan", .text (utf8 "000002"))] }),
    .step 1 (calm 1), .step 1 (calm 1), .step 0 (refusing 2)]

theorem otherKey_releases_own :
    (reach sampleGear otherKey).nextOp 0 = some (.release sampleKey 0) ∧
      Removes (reach sampleGear otherKey).state sampleKey 0 ∧
      ∀ id, Removes (reach sampleGear otherKey).state sampleKey id → id = 0 := by
  have hstored : (reach sampleGear otherKey).state.engine.store.lookup sampleKey = some 0 := rfl
  have hleft : ((reach sampleGear otherKey).state.engine.release sampleKey).2.store.lookup
      sampleKey = none := rfl
  exact ⟨rfl, ⟨sampleKey, hstored, hleft ▸ nofun⟩,
    release_own_of_exclusive sampleGear otherKey (by decide) 0 sampleKey 0 rfl⟩

end Fluxrig.Conductor
