import Fluxrig.Valet.Accounting

/-!
# The life of a ticket

A ticket is told apart by its identity, not by its key, which may be parked
again.  `Ends` says that a step takes one ticket out of the open state; a ticket
that has ended is never touched again.  A late callback of an old ticket
therefore finds another ticket, or none, under its key and does nothing.
-/

namespace Fluxrig.Valet

open Fluxrig.Core Message

/-- Between these books the open ticket `id` ended as `how`. -/
structure Ends (books after : Books) (id : TicketID) (how : TicketState) : Prop where
  created : id < books.next
  opened : (books.tickets id).state = .opened
  ended : (after.tickets id).state = how

section

variable {cfg : Settings} {books after : Books}

section

variable (hchange : Change cfg books after)

include hchange

/-- Tickets are never uncreated. -/
lemma Change.next_le : books.next ≤ after.next := by
  cases hchange with
  | park => exact Nat.le_succ books.next
  | keep | finish _ _ _ _ _ _ _ | retain _ _ _ _ _ _ _ | purge _ _ _ | startDrain _ | shut _ =>
    exact le_refl _

variable {id : TicketID}

/-- A ticket that is not in the store is left alone. -/
lemma Change.ticket_eq (hcreated : id < books.next)
    (hgone : ∀ key, books.store.lookup key ≠ some id) : after.tickets id = books.tickets id := by
  cases hchange with
  | park | finish | retain =>
    simp only [Books.park, Books.finish, Books.retain, Function.update_apply]
    grind
  | _ => rfl

/-- Some fields of a ticket are fixed when it is created. -/
lemma Change.continues (hcreated : id < books.next) :
    (books.tickets id).Continues (after.tickets id) := by
  have hsame : (books.tickets id).Continues (books.tickets id) := ⟨rfl, rfl, rfl, rfl⟩
  cases hchange with
  | park | finish | retain =>
    simp only [Books.park, Books.finish, Books.retain, Function.update_apply]
    grind
  | _ => exact hsame

/-- Only new tickets enter the store. -/
lemma Change.stays_gone (hcreated : id < books.next)
    (hgone : ∀ key, books.store.lookup key ≠ some id) (key : Text) :
    after.store.lookup key ≠ some id := by
  cases hchange with
  | shut =>
    exact nofun
  | _ => grind [Books.park, Books.finish, Books.retain, Books.purge, Books.startDrain]

end

end

/-- The ticket was created and is out of the store for good. -/
structure Books.Gone (books : Books) (id : TicketID) : Prop where
  created : id < books.next
  absent : ∀ key, books.store.lookup key ≠ some id

variable {cfg : Settings} {books after : Books} {id : TicketID}

lemma Change.gone (hchange : Change cfg books after) (hgone : books.Gone id) : after.Gone id :=
  ⟨hgone.created.trans_le hchange.next_le, hchange.stays_gone hgone.created hgone.absent⟩

/-- A ticket that has ended is not in the store. -/
lemma Accounted.gone_of_ended (haccounted : Accounted cfg books)
    (hcreated : id < books.next) (hended : (books.tickets id).state ≠ .opened) :
    books.Gone id :=
  ⟨hcreated, fun key hstored => hended (haccounted.stored key id hstored).2.2⟩

/-- A ticket that has ended stays as it is. -/
lemma Accounted.frozen (haccounted : Accounted cfg books)
    (hchange : Change cfg books after) (hcreated : id < books.next)
    (hended : (books.tickets id).state ≠ .opened) : after.tickets id = books.tickets id :=
  hchange.ticket_eq hcreated (haccounted.gone_of_ended hcreated hended).absent

/-- Only closed tickets are retained, each under its own key, and only while the
engine is open. -/
def Retains (books : Books) : Prop :=
  ∀ key id, books.retained.lookup key = some id →
    id < books.next ∧ (books.tickets id).state = .closed ∧
      (books.tickets id).key = key ∧ books.state ≠ .closed

lemma Retains.new : Retains Engine.new.toBooks := fun _ _ hretained => nomatch hretained

lemma Retains.change (haccounted : Accounted cfg books) (hretains : Retains books)
    (hchange : Change cfg books after) : Retains after := by
  intro key id hretained
  -- A ticket that was retained before is frozen.
  have hkept : books.retained.lookup key = some id → after.state ≠ .closed →
      id < after.next ∧ (after.tickets id).state = .closed ∧
        (after.tickets id).key = key ∧ after.state ≠ .closed := by
    intro hbefore hlive
    obtain ⟨hcreated, hclosed, hkey, _⟩ := hretains key id hbefore
    have hended : (books.tickets id).state ≠ .opened := by
      rw [hclosed]
      decide
    rw [haccounted.frozen hchange hcreated hended]
    exact ⟨hcreated.trans_le hchange.next_le, hclosed, hkey, hlive⟩
  have hbefore := hretains key id
  cases hchange with
  | retain added other ticket hlive hstored hcontinues hclosed =>
    have hkey := hcontinues.key
    have hnew := haccounted.stored added other hstored
    simp only [Books.retain, Books.finish, Function.update_apply] at hretained hkept ⊢
    grind
  | shut =>
    cases hretained
  | park _ haccepts =>
    grind [Books.park]
  | _ => grind [Books.finish, Books.purge, Books.startDrain]

section

variable {cfg : Settings} {engine : Engine}

variable {after : Books} {key : Text} {id : TicketID} {op : Op} {input : Input}

section

variable (haccounted : Accounted cfg engine.toBooks)

include haccounted

lemma ends_of_finish {ticket : Ticket} (hstored : engine.store.lookup key = some id)
    (hafter : after.tickets = Function.update engine.tickets id ticket) :
    Ends engine.toBooks after id ticket.state := by
  obtain ⟨hcreated, _, hopened⟩ := haccounted.stored key id hstored
  refine ⟨hcreated, hopened, ?_⟩
  rw [hafter, Function.update_self]

/-- A `Redeem` that succeeds ends the ticket it returns. -/
lemma ends_of_redeem {outcome : Option FluxMsg} {now : Time} {handle : Handle}
    (hreply : (engine.redeem cfg key outcome now).1 = .ok handle) :
    Ends engine.toBooks (engine.redeem cfg key outcome now).2.toBooks handle.id .closed := by
  obtain ⟨hstored, hticket, htickets⟩ := Engine.redeem_ok hreply
  have hends := ends_of_finish haccounted hstored htickets
  have hclosed : handle.ticket.state = .closed := by rw [hticket]; rfl
  exact hclosed ▸ hends

/-- A `Release` that succeeds ends the ticket of its key. -/
lemma ends_of_release
    (hreply : (engine.release key).1 = .ok ()) (hstored : engine.store.lookup key = some id) :
    Ends engine.toBooks (engine.release key).2.toBooks id .released := by
  rcases engine.release_cases key with ⟨_, heq⟩ | ⟨found, _, hfound, _, hbooks⟩
  · rw [heq] at hreply
    nomatch hreply
  · obtain rfl := Option.some.inj (hfound.symm.trans hstored)
    exact ends_of_finish haccounted hstored (congrArg Books.tickets hbooks)

/-- An `OnExpire` call follows the expiry of the ticket it is called with. -/
lemma ends_of_callback {callback : Callback} {handle : Handle}
    (hreply : (engine.callback cfg callback).1 = some handle) :
    callback = .expire handle.id ∧
      Ends engine.toBooks (engine.callback cfg callback).2.toBooks handle.id .expired := by
  rcases engine.callback_cases cfg callback with
    heq | ⟨started, hsame, ⟨id, hcallback, heq⟩ | ⟨key, id, _, heq⟩⟩
  · rw [heq] at hreply
    nomatch hreply
  · rw [heq] at hreply ⊢
    rcases started.expire_cases cfg id with hnone | ⟨_, hstored, hcall, hbooks⟩
    · rw [hnone] at hreply
      nomatch hreply
    · rw [hcall] at hreply
      split at hreply
      · have hid : handle.id = id := by rw [← Option.some.inj hreply]
        rw [hid]
        rw [← hsame] at haccounted ⊢
        exact ⟨hcallback, ends_of_finish haccounted hstored (congrArg Books.tickets hbooks)⟩
      · nomatch hreply
  · rw [heq] at hreply
    nomatch hreply

end

section

variable (hcause : Cause cfg engine op input after)

include hcause

/-- An open ticket leaves the store by a `Redeem` that returns it, by a `Release`
of its key, by its own expiry, or by `Close`. -/
lemma Cause.leaves_store (hstored : engine.store.lookup key = some id)
    (hleft : after.store.lookup key ≠ some id) : (∃ outcome handle, op = .redeem key outcome ∧
      (engine.redeem cfg key outcome input.now).1 = .ok handle ∧ handle.id = id ∧
      (0 < cfg.retain → after.retained.lookup key = some id)) ∨
    (op = .release key ∧ (engine.release key).1 = .ok ()) ∨
    (op = .callback (.expire id) ∧ (after.tickets id).state = .expired) ∨
    (op = .close ∧ after = engine.toBooks.shut) := by
  cases hcause with
  | park request _ haccepts =>
    have hfree := haccepts.notOpen
    grind [Books.park, Engine.newTicket]
  | redeem taken outcome found hop _ hfound hreply =>
    have hsame : taken = key ∧ found = id := by grind [Books.finish, Books.retain]
    obtain ⟨rfl, rfl⟩ := hsame
    exact Or.inl ⟨outcome, _, hop, hreply, rfl, by grind [Books.retain]⟩
  | release => grind [Books.finish]
  | expire =>
    simp only [Books.finish, Function.update_apply] at hleft ⊢
    grind
  | shut hop => exact Or.inr (Or.inr (Or.inr ⟨hop, rfl⟩))
  | _ => exact absurd hstored hleft

/-- A ticket enters the store only by the `Park` that creates it. -/
lemma Cause.enters_store (hstored : after.store.lookup key = some id)
    (hnew : engine.store.lookup key ≠ some id) :
    ∃ request, op = .park request ∧ request.key = key ∧ id = engine.next ∧
      Accepts cfg engine.toBooks key := by
  cases hcause with
  | park request hop haccepts =>
    refine ⟨request, hop, ?_⟩
    grind [Books.park, Engine.newTicket]
  | shut =>
    cases hstored
  | _ => grind [Books.finish, Books.retain, Books.purge, Books.startDrain]

/-- A ticket is created only by a `Park`, from its request. -/
lemma Cause.creates (hnew : ¬ id < engine.next) (hcreated : id < after.next) :
    ∃ request, op = .park request ∧
      after.tickets id = Engine.newTicket cfg request input.now id := by
  cases hcause with
  | park request hop =>
    refine ⟨request, hop, ?_⟩
    simp only [Books.park, Function.update_apply] at hcreated ⊢
    grind
  | _ => grind [Books.finish, Books.retain, Books.purge, Books.startDrain, Books.shut]

end

/-- A retained ticket is dropped by its own purge callback or by `Close`. -/
lemma Cause.leaves_retained (haccounted : Accounted cfg engine.toBooks)
    (hcause : Cause cfg engine op input after)
    (hretained : engine.retained.lookup key = some id)
    (hleft : after.retained.lookup key ≠ some id) :
    (op = .callback (.purge key id) ∧ after.retained.lookup key = none) ∨
      (op = .close ∧ after = engine.toBooks.shut) := by
  have hapart := haccounted.apart key
  cases hcause <;> grind [Books.park, Books.finish, Books.retain, Books.purge, Books.startDrain]

/-- Only a `Redeem` retains a ticket, and it returns what it retains. -/
lemma Cause.enters_retained (hcause : Cause cfg engine op input after)
    (hnew : engine.retained.lookup key ≠ some id)
    (hretained : after.retained.lookup key = some id) :
    ∃ outcome, op = .redeem key outcome ∧
      (engine.redeem cfg key outcome input.now).1 = .ok ⟨id, after.tickets id⟩ := by
  cases hcause with
  | redeem _ outcome _ hop _ _ hreply =>
    by_cases hretain : 0 < cfg.retain
    · rw [if_pos hretain] at hretained ⊢
      simp only [Books.retain, Books.finish, lookup_insert_eq] at hretained ⊢
      split at hretained
      · subst key
        cases hretained
        exact ⟨outcome, hop, by rw [hreply, Function.update_self]⟩
      · exact absurd hretained hnew
    · rw [if_neg hretain] at hretained
      exact absurd hretained hnew
  | shut => cases hretained
  | _ => grind [Books.park, Books.finish, Books.purge, Books.startDrain]

end

variable (cfg : Settings) (steps : Steps)

variable (id : TicketID) (time : ℕ)

/-- Step `time` takes ticket `id` out of the open state. -/
def LeavesOpen : Prop :=
  id < (engineAt cfg steps time).next ∧
    ((engineAt cfg steps time).tickets id).state = .opened ∧
    ((engineAt cfg steps (time + 1)).tickets id).state ≠ .opened

/-- Step `time` is a `Redeem` that succeeds with ticket `id`. -/
def Redeems : Prop :=
  ∃ key outcome input handle, steps[time]? = some (.redeem key outcome, input) ∧
    ((engineAt cfg steps time).redeem cfg key outcome input.now).1 = .ok handle ∧ handle.id = id

/-- Step `time` is a `Release` that succeeds and removes ticket `id`. -/
def Releases : Prop :=
  ∃ key input, steps[time]? = some (.release key, input) ∧
    ((engineAt cfg steps time).release key).1 = .ok () ∧
    (engineAt cfg steps time).store.lookup key = some id

/-- Step `time` is the expiry callback of ticket `id`, and the ticket expires. -/
def Expires : Prop :=
  ∃ input, steps[time]? = some (.callback (.expire id), input) ∧
    ((engineAt cfg steps time).tickets id).state = .opened ∧
    ((engineAt cfg steps (time + 1)).tickets id).state = .expired

/-- Step `time` is a callback after which `OnExpire` is called with ticket `id`. -/
def CallsOnExpire : Prop :=
  ∃ callback input handle, steps[time]? = some (.callback callback, input) ∧
    ((engineAt cfg steps time).callback cfg callback).1 = some handle ∧
    handle.id = id

/-- Step `time` is a purge callback that drops the retained ticket `id`. -/
def Purges : Prop :=
  ∃ key input, steps[time]? = some (.callback (.purge key id), input) ∧
    (engineAt cfg steps time).retained.lookup key = some id ∧
    (engineAt cfg steps (time + 1)).retained.lookup key = none

/-- Step `time` is a `Park` of `key` that reports Parked with the new ticket
`id`. -/
def ParksNew (key : Text) (id : TicketID) (time : ℕ) : Prop :=
  ∃ request input handle, steps[time]? = some (.park request, input) ∧
    request.key = key ∧
    ((engineAt cfg steps time).park cfg request input.now).1 =
      .ok (.parked, handle) ∧ handle.id = id

section

variable {cfg : Settings} {steps : Steps} {id : TicketID} {time : ℕ}

lemma change_engineAt (cfg : Settings) (steps : Steps) (time : ℕ) :
    Change cfg (engineAt cfg steps time).toBooks (engineAt cfg steps (time + 1)).toBooks := by
  cases hstep : steps[time]? with
  | none =>
    have hsame : engineAt cfg steps (time + 1) = engineAt cfg steps time :=
      stateAt_succ_of_none hstep
    rw [hsame]
    exact .keep
  | some step =>
    rw [engineAt_succ hstep]
    exact exec_change cfg step.1 step.2 _

/-- The ticket ended in step `time`, as `how`. -/
def EndsAt (cfg : Settings) (steps : Steps) (id : TicketID) (how : TicketState)
    (time : ℕ) : Prop :=
  Ends (engineAt cfg steps time).toBooks (engineAt cfg steps (time + 1)).toBooks id how

variable {early late : ℕ}

lemma stays_ended (hcreated : id < (engineAt cfg steps early).next)
    (hended : ((engineAt cfg steps early).tickets id).state ≠ .opened)
    (hle : early ≤ late) : ((engineAt cfg steps late).tickets id).state ≠ .opened := by
  have hholds : id < (engineAt cfg steps late).next ∧
      ((engineAt cfg steps late).tickets id).state ≠ .opened := by
    induction late, hle using Nat.le_induction with
    | base => exact ⟨hcreated, hended⟩
    | succ time _ ih =>
      have hchange := change_engineAt cfg steps time
      have haccounted := (consistent_engineAt cfg steps time).accounted
      rw [haccounted.frozen hchange ih.1 ih.2]
      exact ⟨ih.1.trans_le hchange.next_le, ih.2⟩
  exact hholds.2

/-- A ticket that ended does not end again, and never in another way. -/
lemma EndsAt.unique {first second : TicketState}
    (hfirst : EndsAt cfg steps id first early) (hfirstEnd : first ≠ .opened)
    (hsecond : EndsAt cfg steps id second late) (hsecondEnd : second ≠ .opened) :
    early = late ∧ first = second := by
  have hlate : ∀ {how : TicketState} {before after : ℕ},
      EndsAt cfg steps id how before → how ≠ .opened → before < after →
      ((engineAt cfg steps after).tickets id).state ≠ .opened := by
    intro how before after hends hended hlt
    exact stays_ended (hends.created.trans_le (change_engineAt cfg steps before).next_le)
      (hends.ended ▸ hended) hlt
  rcases lt_trichotomy early late with hlt | rfl | hlt
  · exact absurd hsecond.opened (hlate hfirst hfirstEnd hlt)
  · exact ⟨rfl, hfirst.ended.symm.trans hsecond.ended⟩
  · exact absurd hfirst.opened (hlate hsecond hsecondEnd hlt)

lemma Redeems.endsAt (hredeems : Redeems cfg steps id time) :
    EndsAt cfg steps id .closed time := by
  obtain ⟨key, outcome, input, handle, hstep, hreply, rfl⟩ := hredeems
  have haccounted := (consistent_engineAt cfg steps time).accounted
  rw [EndsAt, engineAt_succ hstep]
  exact ends_of_redeem haccounted hreply

lemma Releases.endsAt (hreleases : Releases cfg steps id time) :
    EndsAt cfg steps id .released time := by
  obtain ⟨key, input, hstep, hreply, hstored⟩ := hreleases
  have haccounted := (consistent_engineAt cfg steps time).accounted
  rw [EndsAt, engineAt_succ hstep]
  exact ends_of_release haccounted hreply hstored

lemma CallsOnExpire.endsAt (hcalls : CallsOnExpire cfg steps id time) :
    EndsAt cfg steps id .expired time := by
  obtain ⟨callback, input, handle, hstep, hreply, rfl⟩ := hcalls
  have haccounted := (consistent_engineAt cfg steps time).accounted
  rw [EndsAt, engineAt_succ hstep]
  exact (ends_of_callback haccounted hreply).2

lemma LeavesOpen.endsAt (hleaves : LeavesOpen cfg steps id time) : EndsAt cfg steps id
      ((engineAt cfg steps (time + 1)).tickets id).state time :=
  ⟨hleaves.1, hleaves.2.1, rfl⟩

lemma cause_engineAt (cfg : Settings) {op : Op} {input : Input}
    (hstep : steps[time]? = some (op, input)) :
    Cause cfg (engineAt cfg steps time) op input (engineAt cfg steps (time + 1)).toBooks := by
  rw [engineAt_succ hstep]
  exact exec_cause cfg op input _

/-- A property lost between two times is lost at one step in between. -/
lemma exists_losing_engineAt (holds : Engine → Prop)
    (hearly : holds (engineAt cfg steps early)) (hle : early ≤ late)
    (hlate : ¬ holds (engineAt cfg steps late)) :
    ∃ time op input, early ≤ time ∧ time < late ∧ steps[time]? = some (op, input) ∧
      holds (engineAt cfg steps time) ∧
      ¬ holds (engineAt cfg steps (time + 1)) := by
  obtain ⟨time, step, hfrom, hbefore, hstep, hnow, hlost⟩ := exists_losing_step hearly hle hlate
  refine ⟨time, step.1, step.2, hfrom, hbefore, hstep, hnow, ?_⟩
  rw [engineAt_succ hstep]
  exact hlost

/-- A ticket leaves the open state by being redeemed, released or expired. -/
lemma LeavesOpen.how (hleaves : LeavesOpen cfg steps id time) :
    Redeems cfg steps id time ∨ Releases cfg steps id time ∨ Expires cfg steps id time := by
  obtain ⟨hcreated, hopened, hended⟩ := hleaves
  cases hstep : steps[time]? with
  | none =>
    have hsame : engineAt cfg steps (time + 1) = engineAt cfg steps time :=
      stateAt_succ_of_none hstep
    exact absurd hopened (hsame ▸ hended)
  | some step =>
    obtain ⟨op, input⟩ := step
    have hcause := cause_engineAt cfg hstep
    obtain ⟨key, hstored⟩ : ∃ key, (engineAt cfg steps time).store.lookup key = some id := by
      by_contra hnone
      have hsame := hcause.change.ticket_eq hcreated fun key hstored => hnone ⟨key, hstored⟩
      exact hended (hsame ▸ hopened)
    have hleft : (engineAt cfg steps (time + 1)).store.lookup key ≠ some id :=
      fun hstill => hended
        ((consistent_engineAt cfg steps (time + 1)).accounted.stored key id hstill).2.2
    rcases hcause.leaves_store hstored hleft with
      ⟨outcome, handle, rfl, hreply, hid, _⟩ | ⟨rfl, hreply⟩ | ⟨rfl, hexpired⟩ | ⟨rfl, hshut⟩
    · exact Or.inl ⟨key, outcome, input, handle, hstep, hreply, hid⟩
    · exact Or.inr (Or.inl ⟨key, input, hstep, hreply, hstored⟩)
    · exact Or.inr (Or.inr ⟨input, hstep, hopened, hexpired⟩)
    · rw [hshut] at hended
      exact absurd hopened hended

/-- A `Park` that reports Parked stores the new ticket under its key, on an
engine that was running with the key neither open nor retained. -/
lemma ParksNew.stored {key : Text} (hparks : ParksNew cfg steps key id time) :
    Accepts cfg (engineAt cfg steps time).toBooks key ∧
      (engineAt cfg steps (time + 1)).store.lookup key = some id := by
  obtain ⟨request, input, handle, hstep, rfl, hreply, rfl⟩ := hparks
  obtain ⟨haccepts, hid, hbooks⟩ := Engine.park_parked hreply
  refine ⟨haccepts, ?_⟩
  rw [engineAt_succ hstep, hid]
  exact (congrArg (fun books => books.store.lookup request.key) hbooks).trans
    (AList.lookup_insert _)

/-- An engine that runs at some time was not closed before. -/
lemma not_closed_of_running (hrunning : (engineAt cfg steps late).state = .running)
    (hle : early ≤ late) : (engineAt cfg steps early).state = .running := by
  by_contra hstopped
  have hlate : (engineAt cfg steps late).state ≠ .running :=
    engineAt_of_le (fun engine op input hbefore =>
      (exec_change cfg op input engine).not_running hbefore) hstopped hle
  exact hlate hrunning

/-- Between two parks of one key the first ticket has ended, and if it was
redeemed its retention is over. -/
lemma ended_between {key : Text} {other : TicketID} (hfirst : ParksNew cfg steps key id early)
    (hsecond : ParksNew cfg steps key other late) (hlt : early < late) :
    ∃ between, early < between ∧ between < late ∧
      (Releases cfg steps id between ∨ Expires cfg steps id between ∨
        (Redeems cfg steps id between ∧ (0 < cfg.retain →
          ∃ purged, between < purged ∧ purged < late ∧ Purges cfg steps id purged))) := by
  have haccepts := hsecond.stored.1
  have hgone : (engineAt cfg steps late).store.lookup key ≠ some id := by
    rw [haccepts.notOpen]
    exact nofun
  -- `Close` is no explanation for anything before the second park.
  have hnotShut : ∀ time < late, ∀ books : Books,
      (engineAt cfg steps (time + 1)).toBooks ≠ books.shut := by
    intro time hbefore books hshut
    have hrunning := not_closed_of_running haccepts.running (Nat.succ_le_of_lt hbefore)
    rw [hshut] at hrunning
    nomatch hrunning
  obtain ⟨between, op, input, hfrom, hbefore, hstep, hstored, hleft⟩ :=
    exists_losing_engineAt (fun engine => engine.store.lookup key = some id)
      hfirst.stored.2 (Nat.succ_le_of_lt hlt) hgone
  have haccounted := (consistent_engineAt cfg steps between).accounted
  have hopened := (haccounted.stored key id hstored).2.2
  refine ⟨between, Nat.lt_of_succ_le hfrom, hbefore, ?_⟩
  rcases (cause_engineAt cfg hstep).leaves_store hstored hleft with
    ⟨outcome, handle, rfl, hreply, hid, hretained⟩ | ⟨rfl, hreply⟩ | ⟨rfl, hexpired⟩ | ⟨_, hshut⟩
  · refine Or.inr (Or.inr ⟨⟨key, outcome, input, handle, hstep, hreply, hid⟩, ?_⟩)
    intro hretain
    have hdropped : (engineAt cfg steps late).retained.lookup key ≠ some id := by
      rw [haccepts.notRetained]
      exact nofun
    obtain ⟨purged, cause, drawn, hafter, hdone, hpurge, hkept, hlost⟩ :=
      exists_losing_engineAt (fun engine => engine.retained.lookup key = some id)
        (hretained hretain) (Nat.succ_le_of_lt hbefore) hdropped
    have hbooks := (consistent_engineAt cfg steps purged).accounted
    refine ⟨purged, Nat.lt_of_succ_le hafter, hdone, ?_⟩
    rcases (cause_engineAt cfg hpurge).leaves_retained hbooks hkept hlost with
      ⟨rfl, hnone⟩ | ⟨_, hshut⟩
    · exact ⟨key, drawn, hpurge, hkept, hnone⟩
    · exact absurd hshut (hnotShut purged hdone _)
  · exact Or.inl ⟨key, input, hstep, hreply, hstored⟩
  · exact Or.inr (Or.inl ⟨input, hstep, hopened, hexpired⟩)
  · exact absurd hshut (hnotShut between hbefore _)

lemma retains_engineAt (cfg : Settings) (steps : Steps) (time : ℕ) :
    Retains (engineAt cfg steps time).toBooks := by
  induction time with
  | zero => exact Retains.new
  | succ time ih =>
    exact ih.change (consistent_engineAt cfg steps time).accounted
      (change_engineAt cfg steps time)

/-- A retained ticket is what the `Redeem` that retained it has returned. -/
lemma retained_redeemed {key : Text}
    (hretained : (engineAt cfg steps time).retained.lookup key = some id) :
    ∃ earlier outcome input, earlier < time ∧
      steps[earlier]? = some (.redeem key outcome, input) ∧
      ((engineAt cfg steps earlier).redeem cfg key outcome input.now).1 =
        .ok ((engineAt cfg steps time).handle id) := by
  induction time with
  | zero => nomatch hretained
  | succ time ih =>
    by_cases hbefore : (engineAt cfg steps time).retained.lookup key = some id
    · -- a closed ticket does not change
      obtain ⟨hcreated, hclosed, -⟩ := retains_engineAt cfg steps time key id hbefore
      have hfrozen := (consistent_engineAt cfg steps time).accounted.frozen
        (change_engineAt cfg steps time) hcreated (hclosed ▸ nofun)
      obtain ⟨earlier, outcome, input, hlt, hstep, hreply⟩ := ih hbefore
      refine ⟨earlier, outcome, input, Nat.lt_succ_of_lt hlt, hstep, ?_⟩
      rw [hreply, Engine.handle, Engine.handle, hfrozen]
    · cases hstep : steps[time]? with
      | none =>
        rw [engineAt, stateAt_succ_of_none hstep] at hretained
        exact absurd hretained hbefore
      | some step =>
        obtain ⟨outcome, hop, hreply⟩ :=
          (cause_engineAt cfg hstep).enters_retained hbefore hretained
        exact ⟨time, outcome, step.2, Nat.lt_succ_self time, by rw [← hop]; exact hstep, hreply⟩

end

/-- In every run, a `Park` that is answered from the retention window gets the ticket that
an earlier `Redeem` of its key returned. -/
theorem replays_redeemed (cfg : Settings) (steps : Steps) (time : ℕ) (request : ParkRequest)
    (now : Time) (handle : Handle)
    (hreply : ((engineAt cfg steps time).park cfg request now).1 =
      .ok (.replayedClosed, handle)) :
    ∃ earlier outcome input, earlier < time ∧
      steps[earlier]? = some (.redeem request.key outcome, input) ∧
      ((engineAt cfg steps earlier).redeem cfg request.key outcome input.now).1 = .ok handle := by
  obtain ⟨hretained, hhandle, -⟩ := Engine.park_replayed hreply
  rw [hhandle]
  exact retained_redeemed hretained

/-- In every run, stale callbacks included: a ticket leaves the open state at
most once, and only by being redeemed, released or expired; once it is out of
the store it stays out; `OnExpire` is called with it at most once, and never if
it is ever redeemed or released; at most one `Redeem` returns it; and between
two parks of one key that both report Parked, the first ticket was released,
expired, or redeemed and, if there is a retention window, purged. -/
theorem ticket_ends_once (cfg : Settings) (steps : Steps) :
    (∀ id early late, LeavesOpen cfg steps id early →
        LeavesOpen cfg steps id late → early = late) ∧
      (∀ id time, LeavesOpen cfg steps id time →
        Redeems cfg steps id time ∨ Releases cfg steps id time ∨ Expires cfg steps id time) ∧
      (∀ id early late, (engineAt cfg steps early).Gone id → early ≤ late →
        (engineAt cfg steps late).Gone id) ∧
      (∀ id early late, CallsOnExpire cfg steps id early →
        CallsOnExpire cfg steps id late → early = late) ∧
      (∀ id called time, CallsOnExpire cfg steps id called →
        ¬ Redeems cfg steps id time ∧ ¬ Releases cfg steps id time) ∧
      (∀ id early late, Redeems cfg steps id early → Redeems cfg steps id late → early = late) ∧
      (∀ key first second early late, early < late → ParksNew cfg steps key first early →
        ParksNew cfg steps key second late →
        ∃ between, early < between ∧ between < late ∧
          (Releases cfg steps first between ∨ Expires cfg steps first between ∨
            (Redeems cfg steps first between ∧ (0 < cfg.retain →
              ∃ purged, between < purged ∧ purged < late ∧ Purges cfg steps first purged)))) := by
  refine ⟨?_, fun id time => LeavesOpen.how, ?_, ?_, ?_, ?_, ?_⟩
  · intro id early late hearly hlate
    exact (hearly.endsAt.unique hearly.2.2 hlate.endsAt hlate.2.2).1
  · intro id early late hgone hle
    exact engineAt_of_le (fun engine op input hbefore =>
      (exec_change cfg op input engine).gone hbefore) hgone hle
  · intro id early late hearly hlate
    exact (hearly.endsAt.unique nofun hlate.endsAt nofun).1
  · intro id called time hcalled
    refine ⟨fun hredeems => ?_, fun hreleases => ?_⟩
    · exact nomatch (hcalled.endsAt.unique nofun hredeems.endsAt nofun).2
    · exact nomatch (hcalled.endsAt.unique nofun hreleases.endsAt nofun).2
  · intro id early late hearly hlate
    exact (hearly.endsAt.unique nofun hlate.endsAt nofun).1
  · intro key first second early late hlt hfirst hsecond
    exact ended_between hfirst hsecond hlt

def sampleSettings : Settings where
  defaultTTL := 30
  maxTTL := 0
  maxInFlight := 2
  retain := 5
  onExpire := true
  defaultTTL_pos := by decide
  maxTTL_cap := Or.inl rfl
  maxInFlight_nonneg := by decide
  retain_nonneg := by decide

def sampleRequest : ParkRequest where
  key := utf8 "k1"
  destination := utf8 "out_scheme_a"
  request := none
  returnCtx := ∅
  ttl := 0

/-- The key is parked, its expiry timer goes off just before the reply is
redeemed, the late expiry callback runs, the retention ends, and the key is
parked again. -/
def reuseRun : Steps :=
  [(.park sampleRequest, ⟨0, false⟩),
    (.elapse ⟨.expire 0, 30⟩, ⟨30, false⟩),
    (.redeem (utf8 "k1") none, ⟨30, false⟩),
    (.callback (.expire 0), ⟨31, false⟩),
    (.elapse ⟨.purge (utf8 "k1") 0, 35⟩, ⟨35, false⟩),
    (.callback (.purge (utf8 "k1") 0), ⟨36, false⟩),
    (.park sampleRequest, ⟨40, false⟩)]

theorem reuseRun_replays : ∃ handle, ((engineAt sampleSettings reuseRun 3).park sampleSettings
      sampleRequest 31).1 = .ok (.replayedClosed, handle) ∧
    ∃ earlier outcome input, earlier < 3 ∧
      reuseRun[earlier]? = some (.redeem (utf8 "k1") outcome, input) ∧
      ((engineAt sampleSettings reuseRun earlier).redeem sampleSettings (utf8 "k1") outcome
        input.now).1 = .ok handle :=
  ⟨_, rfl, replays_redeemed sampleSettings reuseRun 3 sampleRequest 31 _ rfl⟩

theorem reuseRun_ends : ParksNew sampleSettings reuseRun (utf8 "k1") 0 0 ∧
      ParksNew sampleSettings reuseRun (utf8 "k1") 1 6 ∧
      ∃ between, 0 < between ∧ between < 6 ∧ (Releases sampleSettings reuseRun 0 between ∨
          Expires sampleSettings reuseRun 0 between ∨
          (Redeems sampleSettings reuseRun 0 between ∧ (0 < sampleSettings.retain →
            ∃ purged, between < purged ∧ purged < 6 ∧
              Purges sampleSettings reuseRun 0 purged))) := by
  have hfirst : ParksNew sampleSettings reuseRun (utf8 "k1") 0 0 :=
    ⟨sampleRequest, ⟨0, false⟩, _, rfl, rfl, rfl, rfl⟩
  have hsecond : ParksNew sampleSettings reuseRun (utf8 "k1") 1 6 :=
    ⟨sampleRequest, ⟨40, false⟩, _, rfl, rfl, rfl, rfl⟩
  exact ⟨hfirst, hsecond, (ticket_ends_once sampleSettings reuseRun).2.2.2.2.2.2
    (utf8 "k1") 0 1 0 6 (by decide) hfirst hsecond⟩

end Fluxrig.Valet
