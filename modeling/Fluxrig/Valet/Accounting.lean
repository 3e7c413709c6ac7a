import Fluxrig.Core.Timeline
import Fluxrig.Valet.Changes

/-!
# In-flight accounting

The counters of the engine follow the store through every run: of `Park`,
`Redeem`, `Release`, `Drain` and `Close`, of timers going off and of their
callbacks, in any order and however late a callback takes the lock.  The
invariant `Accounted` is kept by each way the books can change.
-/

namespace Fluxrig.Valet

open Fluxrig.Core Message

/-- A run of atomic steps. -/
abbrev Steps := List (Op × Input)

/-- The engine after the first `time` steps of a run. -/
def engineAt (cfg : Settings) (steps : Steps) (time : ℕ) : Engine :=
  stateAt (fun engine step => (exec cfg step.1 step.2 engine).2) .new steps time

namespace Books

/-- The destinations of the tickets in the store, one for each ticket. -/
def destinations (books : Books) : Multiset Text :=
  (books.store.entries.map fun entry => (books.tickets entry.2).destination : List Text)

/-- The number of open tickets with this destination. -/
def openTo (books : Books) (dest : Text) : ℕ :=
  books.destinations.count dest

end Books

/-- The counters agree with the store. -/
structure Accounted (cfg : Settings) (books : Books) : Prop where
  openCount_eq : books.openCount = books.store.entries.length
  counts : books.destCounts.Counts books.destinations
  stored : ∀ key id, books.store.lookup key = some id →
    id < books.next ∧ (books.tickets id).key = key ∧ (books.tickets id).state = .opened
  apart : ∀ key, books.retained.lookup key ≠ none → books.store.lookup key = none
  bounded : 0 < cfg.maxInFlight → books.openCount ≤ cfg.maxInFlight

namespace Accounted

variable {cfg : Settings} {books : Books}

lemma new (cfg : Settings) : Accounted cfg Engine.new.toBooks where
  openCount_eq := rfl
  counts := Tally.counts_empty
  stored := fun _ _ hstored => nomatch hstored
  apart := fun _ _ => rfl
  bounded := fun _ => cfg.maxInFlight_nonneg

section

variable (haccounted : Accounted cfg books)

include haccounted

lemma store_eq_empty (hnone : books.openCount ≤ 0) : books.store = ∅ := by
  have hlength : (books.store.entries.length : ℤ) ≤ 0 := haccounted.openCount_eq ▸ hnone
  apply AList.ext
  exact List.length_eq_zero_iff.mp (by omega)

lemma lt_next_of_mem {entry : (_ : Text) × TicketID} (hentry : entry ∈ books.store.entries) :
    entry.2 < books.next :=
  (haccounted.stored entry.1 entry.2 (AList.mem_lookup_iff.mpr hentry)).1

lemma park {ticket : Ticket}
    (haccepts : Accepts cfg books ticket.key) (hopened : ticket.state = .opened) :
    Accounted cfg (books.park ticket) := by
  have hfresh : ticket.key ∉ books.store := AList.lookup_eq_none.mp haccepts.notOpen
  have hentries : (books.park ticket).store.entries =
      ⟨ticket.key, books.next⟩ :: books.store.entries :=
    AList.entries_insert_of_notMem hfresh
  refine ⟨?_, ?_, ?_, ?_, ?_⟩
  · rw [hentries, List.length_cons, Nat.cast_succ, ← haccounted.openCount_eq]
    rfl
  · have hdestinations : (books.park ticket).destinations =
        ticket.destination ::ₘ books.destinations := by
      rw [Books.destinations, hentries, List.map_cons]
      have hself : ((books.park ticket).tickets books.next).destination =
          ticket.destination := by simp [Books.park]
      have hrest : books.store.entries.map
            (fun entry => ((books.park ticket).tickets entry.2).destination) =
          books.store.entries.map fun entry => (books.tickets entry.2).destination := by
        apply List.map_congr_left
        intro entry hentry
        have hne : entry.2 ≠ books.next := (haccounted.lt_next_of_mem hentry).ne
        simp [Books.park, Function.update_of_ne hne]
      rw [hself, hrest]
      rfl
    rw [hdestinations]
    exact haccounted.counts.inc ticket.destination
  · have hbefore := haccounted.stored
    simp only [Books.park, Function.update_apply, lookup_insert_eq]
    grind
  · grind [Books.park, haccounted.apart, haccepts.notRetained]
  · intro hlimit
    have hroom := haccepts.room hlimit
    exact Int.add_one_le_of_lt hroom

/-- A ticket that left the store is counted no more. -/
lemma finish {key : Text} {id : TicketID}
    {ticket : Ticket} (hstored : books.store.lookup key = some id)
    (hcontinues : (books.tickets id).Continues ticket) :
    Accounted cfg (books.finish key id ticket) := by
  have hperm := entries_perm_cons_erase hstored
  refine ⟨?_, ?_, ?_, ?_, ?_⟩
  · have hlength := hperm.length_eq
    rw [List.length_cons] at hlength
    have hcount := haccounted.openCount_eq
    change books.openCount - 1 = ((books.store.erase key).entries.length : ℤ)
    omega
  · have hdestination : ∀ other : TicketID,
        (Function.update books.tickets id ticket other).destination =
          (books.tickets other).destination := by
      intro other
      by_cases hother : other = id
      · subst hother
        rw [Function.update_self, hcontinues.destination]
      · rw [Function.update_of_ne hother]
    have hdestinations : books.destinations =
        (books.tickets id).destination ::ₘ (books.finish key id ticket).destinations := by
      have hmap : (books.finish key id ticket).destinations =
          ((books.store.erase key).entries.map fun entry =>
            (books.tickets entry.2).destination : List Text) := by
        simp only [Books.destinations, Books.finish, hdestination]
      rw [hmap, Books.destinations]
      exact Multiset.coe_eq_coe.mpr (hperm.map _)
    have hcounts := haccounted.counts
    rw [hdestinations] at hcounts
    exact hcounts.dec
  · have hbefore := haccounted.stored
    simp only [Books.finish, Function.update_apply, lookup_erase_eq]
    grind
  · grind [Books.finish, haccounted.apart]
  · intro hlimit
    have hbound := haccounted.bounded hlimit
    change books.openCount - 1 ≤ cfg.maxInFlight
    omega

lemma retain {key : Text} {id : TicketID}
    (hgone : books.store.lookup key = none) : Accounted cfg (books.retain key id) :=
  { haccounted with apart := by grind [Books.retain, haccounted.apart] }

lemma purge (key : Text) : Accounted cfg (books.purge key) :=
  { haccounted with apart := by grind [Books.purge, haccounted.apart] }

lemma startDrain : Accounted cfg books.startDrain := { haccounted with }

end

lemma shut (cfg : Settings) (books : Books) : Accounted cfg books.shut where
  openCount_eq := rfl
  counts := Tally.counts_empty
  stored := fun _ _ hstored => nomatch hstored
  apart := fun _ _ => rfl
  bounded := fun _ => cfg.maxInFlight_nonneg

/-- Every change of the books keeps the accounts. -/
lemma change (haccounted : Accounted cfg books) {after : Books}
    (hchange : Change cfg books after) : Accounted cfg after := by
  cases hchange with
  | keep => exact haccounted
  | park _ haccepts hopened => exact haccounted.park haccepts hopened
  | finish _ _ _ _ hstored hcontinues =>
    exact haccounted.finish hstored hcontinues
  | retain _ _ _ _ hstored hcontinues =>
    exact (haccounted.finish hstored hcontinues).retain (AList.lookup_erase ..)
  | purge key => exact haccounted.purge key
  | startDrain => exact haccounted.startDrain
  | shut => exact shut cfg books

end Accounted

variable {cfg : Settings} {steps : Steps}

/-- An engine that stopped taking new work does not resume it. -/
lemma Change.not_running {books after : Books} (hchange : Change cfg books after)
    (hstopped : books.state ≠ .running) : after.state ≠ .running := by
  cases hchange with
  | keep | finish | retain | purge => exact hstopped
  | park _ haccepts => exact absurd haccepts.running hstopped
  | startDrain | shut => exact nofun

/-- The engine takes no new work and has no open ticket. -/
structure Books.Drained (books : Books) : Prop where
  stopped : books.state ≠ .running
  empty : books.store = ∅

lemma Change.drained {books after : Books} (hchange : Change cfg books after)
    (hdrained : books.Drained) : after.Drained := by
  refine ⟨hchange.not_running hdrained.stopped, ?_⟩
  have hempty := hdrained.empty
  have hnone : ∀ key id, books.store.lookup key ≠ some id := by
    intro key id hstored
    rw [hempty] at hstored
    nomatch hstored
  cases hchange with
  | keep | purge | startDrain => exact hempty
  | park _ haccepts => exact absurd haccepts.running hdrained.stopped
  | finish key id _ _ hstored | retain key id _ _ hstored =>
    exact absurd hstored (hnone key id)
  | shut => rfl

/-- Only `drain` adds a waiting call, and it stops new work. -/
lemma waiting_exec (cfg : Settings) (op : Op) (input : Input) (engine : Engine)
    (hwaiting : 0 < (exec cfg op input engine).2.waiting) :
    0 < engine.waiting ∨ (exec cfg op input engine).2.state = .draining := by
  revert hwaiting
  cases op with
  | park request =>
    simp only [exec]
    fun_cases Engine.park cfg request input.now engine <;>
      grind [Engine.setTicket, Engine.afterFunc]
  | redeem key outcome =>
    simp only [exec]
    fun_cases Engine.redeem cfg key outcome input.now engine <;>
      grind [Engine.setTicket, Engine.afterFunc, Engine.stop, Engine.decOpenLocked]
  | release key =>
    simp only [exec]
    fun_cases Engine.release key engine <;>
      grind [Engine.setTicket, Engine.stop, Engine.decOpenLocked]
  | drain =>
    simp only [exec]
    fun_cases Engine.drain input.done engine <;> grind
  | wake =>
    simp only [exec]
    fun_cases Engine.wake input.done engine <;> grind
  | close =>
    have hcases := engine.close_cases
    grind [exec]
  | elapse timer => grind [exec, Engine.elapse]
  | callback callback =>
    simp only [exec]
    fun_cases Engine.callback cfg callback engine with
    | case1 id _ started =>
      fun_cases Engine.expire cfg id started <;> grind [Engine.setTicket, Engine.decOpenLocked]
    | case2 => grind [Engine.purge]
    | case3 => exact Or.inl
  | inFlightSnapshot => exact Or.inl

/-- The accounts agree, and a `Drain` waits only on an engine that takes no new
work. -/
structure Consistent (cfg : Settings) (engine : Engine) : Prop where
  accounted : Accounted cfg engine.toBooks
  waiting : 0 < engine.waiting → engine.state ≠ .running

lemma Consistent.exec {engine : Engine} (hconsistent : Consistent cfg engine)
    (op : Op) (input : Input) : Consistent cfg (exec cfg op input engine).2 where
  accounted := hconsistent.accounted.change (exec_change cfg op input engine)
  waiting := by
    intro hwaiting
    rcases waiting_exec cfg op input engine hwaiting with hbefore | hdraining
    · exact (exec_change cfg op input engine).not_running (hconsistent.waiting hbefore)
    · rw [hdraining]
      exact nofun

lemma consistent_engineAt (cfg : Settings) (steps : Steps) (time : ℕ) :
    Consistent cfg (engineAt cfg steps time) := by
  have hnew : Consistent cfg Engine.new :=
    ⟨Accounted.new cfg, fun hwaiting => absurd hwaiting (Nat.lt_irrefl 0)⟩
  exact stateAt_invariant hnew
    (fun engine step _ hconsistent => hconsistent.exec step.1 step.2) time

/-- What every step preserves holds from any time on at which it holds. -/
lemma engineAt_of_le {holds : Engine → Prop} {early late : ℕ}
    (hstep : ∀ engine op input, holds engine → holds (exec cfg op input engine).2)
    (hearly : holds (engineAt cfg steps early)) (hle : early ≤ late) :
    holds (engineAt cfg steps late) :=
  stateAt_of_le (fun engine step _ hholds => hstep engine step.1 step.2 hholds) hearly hle

lemma engineAt_succ {time : ℕ} {op : Op} {input : Input}
    (hstep : steps[time]? = some (op, input)) :
    engineAt cfg steps (time + 1) = (exec cfg op input (engineAt cfg steps time)).2 :=
  stateAt_succ hstep

/-- Step `time` of the run is a `Drain` that returns nil: at once, or after it
waited. -/
def DrainReturnsNil (cfg : Settings) (steps : Steps) (time : ℕ) : Prop :=
  ∃ input,
    (steps[time]? = some (.drain, input) ∧
      ((engineAt cfg steps time).drain input.done).1 = some (.ok ())) ∨
    (steps[time]? = some (.wake, input) ∧
      ((engineAt cfg steps time).wake input.done).1 = some (.ok ()))

lemma drained_of_drainReturnsNil {time : ℕ} (hnil : DrainReturnsNil cfg steps time) :
    (engineAt cfg steps (time + 1)).Drained := by
  have hconsistent := consistent_engineAt cfg steps time
  obtain ⟨input, ⟨hstep, hreply⟩ | ⟨hstep, hreply⟩⟩ := hnil
  · rw [engineAt_succ hstep]
    rcases (engineAt cfg steps time).drain_cases input.done with heq | ⟨_, hbooks, hnone⟩
    · rw [heq] at hreply
      nomatch hreply
    · have hempty := hconsistent.accounted.store_eq_empty (hnone hreply)
      constructor
      · exact (congrArg Books.state hbooks).trans_ne nofun
      · exact (congrArg Books.store hbooks).trans hempty
  · rw [engineAt_succ hstep]
    obtain ⟨hbooks, hreturned⟩ := (engineAt cfg steps time).wake_cases input.done
    obtain ⟨hwaiting, hnone⟩ := hreturned hreply
    have hempty := hconsistent.accounted.store_eq_empty hnone
    constructor
    · exact (congrArg Books.state hbooks).trans_ne (hconsistent.waiting hwaiting)
    · exact (congrArg Books.store hbooks).trans hempty

/-- In every run, after every step: the open count is the number of tickets in
the store, each of them open and under its own key; each destination is counted
by the number of open tickets with that destination, and no other entry is kept;
no key is both open and retained; the in-flight limit is respected; and once a
`Drain` has returned nil, no ticket is open again. -/
theorem accounts_agree (cfg : Settings) (steps : Steps) (time : ℕ) :
    (engineAt cfg steps time).openCount = (engineAt cfg steps time).store.entries.length ∧
      (∀ key id, (engineAt cfg steps time).store.lookup key = some id →
        ((engineAt cfg steps time).tickets id).key = key ∧
          ((engineAt cfg steps time).tickets id).state = .opened) ∧
      (∀ dest, (engineAt cfg steps time).destCounts.lookup dest =
        if (engineAt cfg steps time).openTo dest = 0 then none
        else some ((engineAt cfg steps time).openTo dest : ℤ)) ∧
      (∀ dest number, (engineAt cfg steps time).destCounts.lookup dest =
        some number → 0 < number) ∧
      (∀ key, ¬ (key ∈ (engineAt cfg steps time).store ∧
        key ∈ (engineAt cfg steps time).retained)) ∧
      (0 < cfg.maxInFlight → (engineAt cfg steps time).openCount ≤ cfg.maxInFlight) ∧
      (∀ drained < time, DrainReturnsNil cfg steps drained →
        (engineAt cfg steps time).store = ∅) := by
  have haccounted := (consistent_engineAt cfg steps time).accounted
  refine ⟨haccounted.openCount_eq, fun key id hstored => (haccounted.stored key id hstored).2,
    ?_, fun dest number => haccounted.counts.pos, ?_, haccounted.bounded, ?_⟩
  · intro dest
    rw [haccounted.counts dest, Books.openTo]
    by_cases hmem : dest ∈ (engineAt cfg steps time).destinations
    · rw [if_pos hmem, if_neg (Multiset.count_ne_zero.mpr hmem)]
    · rw [if_neg hmem, if_pos (Multiset.count_eq_zero_of_notMem hmem)]
  · rintro key ⟨hopen, hretained⟩
    have hsome : (engineAt cfg steps time).retained.lookup key ≠ none := by
      rw [Ne, AList.lookup_eq_none]
      exact not_not.mpr hretained
    exact AList.lookup_eq_none.mp (haccounted.apart key hsome) hopen
  · intro drained hlt hnil
    have hrest : (engineAt cfg steps time).Drained :=
      engineAt_of_le (fun engine op input hdrained =>
        (exec_change cfg op input engine).drained hdrained)
        (drained_of_drainReturnsNil hnil) hlt
    exact hrest.empty

end Fluxrig.Valet
