import Fluxrig.Runtime.Outbox

/-!
# The accounts of the outbox

Every emission that was parked has been forwarded, was dropped, or is still
queued, and the queue stays within its limit.  Messages come before events: an
event that finds no room is refused, and a message that finds none takes the
place of an event as long as there is one.
-/

namespace Fluxrig.Runtime

open Fluxrig.Core Message

/-- The outbox after the first `time` locked sections. -/
def boxAt (cfg : OutboxSettings) (ops : List OutboxOp) (time : ℕ) : Outbox :=
  stateAt (fun box op => box.after cfg op) .new ops time

/-- The accounts balance and the limit is kept. -/
structure Balanced (cfg : OutboxSettings) (box : Outbox) : Prop where
  parked_eq : box.parked = box.drained + box.dropped + box.items.length
  bounded : box.items.length ≤ cfg.max

/-- The entries a step took out of the queue. -/
def lost (before after : Outbox) : Multiset Item :=
  (before.items : Multiset Item) - (after.items : Multiset Item)

section

variable {cfg : OutboxSettings} {box : Outbox}

lemma oldestEvent_isSome_iff :
    box.oldestEventLocked.isSome = true ↔ ∃ item ∈ box.items, item.kind = .event := by
  rw [Outbox.oldestEventLocked, List.find?_isSome]
  simp only [decide_eq_true_eq]

/-- An eviction takes the victim out of the queue. -/
lemma evict_split (hnonempty : box.items ≠ []) :
    ∃ item front back, box.victim = some item ∧ box.items = front ++ item :: back ∧
      box.evict.items = front ++ back := by
  by_cases hevent : box.oldestEventLocked.isSome = true
  · obtain ⟨event, hmem, hkind⟩ := oldestEvent_isSome_iff.mp hevent
    obtain ⟨item, front, back, hfront, hitem, hitems, herased⟩ :=
      List.exists_of_eraseP hmem (p := fun item => item.kind = .event) (by simpa using hkind)
    have hfound : box.oldestEventLocked = some item := by
      rw [Outbox.oldestEventLocked, List.find?_eq_some_iff_append]
      exact ⟨hitem, front, back, hitems, fun other hother => by simpa using hfront other hother⟩
    refine ⟨item, front, back, ?_, hitems, ?_⟩
    · rw [Outbox.victim, hfound]
      rfl
    · rw [Outbox.evict, if_pos hevent, herased]
  · obtain ⟨item, rest, hitems⟩ := List.exists_cons_of_ne_nil hnonempty
    have hnone : box.oldestEventLocked = none := by simpa using hevent
    refine ⟨item, [], rest, ?_, hitems, ?_⟩
    · rw [Outbox.victim, hnone, hitems]
      rfl
    · rw [Outbox.evict, if_neg hevent, hitems]
      rfl

/-- The victim is an event if one is queued. -/
lemma victim_event {item : Item} (hvictim : box.victim = some item)
    (hevent : ∃ event ∈ box.items, event.kind = .event) : item.kind = .event := by
  obtain ⟨found, hfound⟩ := Option.isSome_iff_exists.mp (oldestEvent_isSome_iff.mpr hevent)
  rw [Outbox.victim, hfound, Option.some_or, Option.some.injEq] at hvictim
  have hkind := List.find?_some hfound
  rw [← hvictim]
  exact of_decide_eq_true hkind

/-- An eviction takes one entry out, an event if there is one. -/
lemma evict_perm (hnonempty : box.items ≠ []) : ∃ item, box.items.Perm (item :: box.evict.items) ∧
      ((∃ event ∈ box.items, event.kind = .event) → item.kind = .event) := by
  obtain ⟨item, front, back, hvictim, hitems, hevicted⟩ := evict_split hnonempty
  refine ⟨item, ?_, victim_event hvictim⟩
  rw [hitems, hevicted]
  exact List.perm_middle

lemma makeRoom_of_room {max : ℕ} (rounds : ℕ) (hroom : box.items.length < max) :
    Outbox.makeRoom max rounds box = box := by
  cases rounds with
  | zero => rfl
  | succ => rw [Outbox.makeRoom, if_neg (not_le.mpr hroom)]

/-- A message goes to the end of the queue, after an eviction if it is full. -/
lemma park_cases (hbounded : box.items.length ≤ cfg.max) (subject : Text) (id : ℕ) :
    (box.items.length < cfg.max ∧ box.park cfg subject id = box.append ⟨id, subject, .message⟩) ∨
    (box.items.length = cfg.max ∧ box.items ≠ [] ∧
      box.park cfg subject id = box.evict.append ⟨id, subject, .message⟩) := by
  rcases hbounded.lt_or_eq with hroom | hfull
  · refine Or.inl ⟨hroom, ?_⟩
    rw [Outbox.park, makeRoom_of_room _ hroom]
  · have hpos : 0 < box.items.length := hfull ▸ cfg.max_pos
    have hnonempty : box.items ≠ [] := List.length_pos_iff.mp hpos
    refine Or.inr ⟨hfull, hnonempty, ?_⟩
    obtain ⟨item, hperm, _⟩ := evict_perm hnonempty
    have hlength : box.items.length = box.evict.items.length + 1 := hperm.length_eq
    rw [Outbox.park, hlength, Outbox.makeRoom, if_pos (by omega), makeRoom_of_room _ (by omega)]

section

variable (hbalanced : Balanced cfg box)

include hbalanced

lemma Balanced.append (hroom : box.items.length < cfg.max) (item : Item) :
    Balanced cfg (box.append item) where
  parked_eq := by
    have hparked := hbalanced.parked_eq
    simp only [Outbox.append, List.length_append, List.length_singleton]
    omega
  bounded := by
    simp only [Outbox.append, List.length_append, List.length_singleton]
    omega

lemma Balanced.evict (hnonempty : box.items ≠ []) :
    Balanced cfg box.evict ∧ box.evict.items.length < cfg.max := by
  obtain ⟨item, hperm, _⟩ := evict_perm hnonempty
  have hlength : box.items.length = box.evict.items.length + 1 := hperm.length_eq
  have hparked := hbalanced.parked_eq
  have hbounded := hbalanced.bounded
  refine ⟨⟨?_, by omega⟩, by omega⟩
  change box.parked = box.drained + (box.dropped + 1) + box.evict.items.length
  omega

lemma Balanced.park (subject : Text) (id : ℕ) : Balanced cfg (box.park cfg subject id) := by
  rcases park_cases hbalanced.bounded subject id with ⟨hroom, heq⟩ | ⟨_, hnonempty, heq⟩
  · rw [heq]
    exact hbalanced.append hroom _
  · rw [heq]
    obtain ⟨hevicted, hroom⟩ := hbalanced.evict hnonempty
    exact hevicted.append hroom _

lemma Balanced.parkEvent (subject : Text) (id : ℕ) :
    Balanced cfg (box.parkEvent cfg subject id).2 := by
  rw [Outbox.parkEvent]
  split
  · exact hbalanced
  next hroom => exact hbalanced.append (not_le.mp hroom) _

lemma Balanced.remove (item : Item)
    (dropped : Bool) : Balanced cfg (box.remove item dropped) := by
  have hparked := hbalanced.parked_eq
  have hbounded := hbalanced.bounded
  rw [Outbox.remove]
  split
  next hheld =>
    obtain ⟨found, hmem, hsame⟩ := List.any_eq_true.mp hheld
    have hlength := List.length_eraseP_of_mem hmem hsame
    have hpos : 0 < box.items.length := List.length_pos_of_mem hmem
    constructor
    · dsimp only
      split
      · omega
      · omega
    · dsimp only
      omega
  · exact hbalanced

/-- Every locked section keeps the accounts. -/
lemma Balanced.after (op : OutboxOp) : Balanced cfg (box.after cfg op) := by
  have hflags : ∀ other : Outbox, other.items = box.items → other.parked = box.parked →
      other.drained = box.drained → other.dropped = box.dropped →
      Balanced cfg other := by
    intro other hitems hparked hdrained hdropped
    constructor
    · rw [hitems, hparked, hdrained, hdropped, hbalanced.parked_eq]
    · rw [hitems]
      exact hbalanced.bounded
  cases op with
  | park subject id => exact hbalanced.park subject id
  | parkEvent subject id => exact hbalanced.parkEvent subject id
  | parkIfHeld subject id =>
    rw [Outbox.after, Outbox.parkIfHeld]
    split
    · exact hbalanced
    · exact hbalanced.park subject id
  | parkEventIfHeld subject id =>
    rw [Outbox.after, Outbox.parkEventIfHeld]
    split
    · exact hbalanced
    · exact hbalanced.parkEvent subject id
  | remove item dropped => exact hbalanced.remove item dropped
  | beginDrain =>
    rw [Outbox.after, Outbox.beginDrain]
    split <;> exact hflags _ rfl rfl rfl rfl
  | endDrain => exact hflags _ rfl rfl rfl rfl
  | endPass =>
    rw [Outbox.after, Outbox.endPass]
    split <;> exact hflags _ rfl rfl rfl rfl

end

end

lemma balanced_boxAt (cfg : OutboxSettings) (ops : List OutboxOp) (time : ℕ) :
    Balanced cfg (boxAt cfg ops time) := by
  have hnew : Balanced cfg Outbox.new := ⟨rfl, Nat.zero_le _⟩
  exact stateAt_invariant hnew (fun box op _ hbalanced => hbalanced.after op) time

/-- Locked sections that park a message. -/
def OutboxOp.ParksMessage : OutboxOp → Prop
  | park _ _ => True
  | parkIfHeld _ _ => True
  | _ => False

/-- Locked sections that park an event. -/
def OutboxOp.ParksEvent : OutboxOp → Prop
  | parkEvent _ _ => True
  | parkEventIfHeld _ _ => True
  | _ => False

section

variable {cfg : OutboxSettings} {box : Outbox}

lemma lost_self : lost box box = 0 := tsub_self _

lemma lost_append (item : Item) : lost box (box.append item) = 0 := by
  rw [lost, Outbox.append, ← Multiset.coe_add]
  exact tsub_eq_zero_of_le (Multiset.le_add_right _ _)

/-- What a parked message takes out of the queue is an event, if there is one. -/
lemma lost_park (hbounded : box.items.length ≤ cfg.max) (subject : Text) (id : ℕ)
    (hevent : ∃ event ∈ box.items, event.kind = .event) :
    ∀ item ∈ lost box (box.park cfg subject id), item.kind = .event := by
  intro item hlost
  rcases park_cases hbounded subject id with ⟨_, heq⟩ | ⟨_, hnonempty, heq⟩
  · rw [heq, lost_append] at hlost
    exact absurd hlost (Multiset.notMem_zero item)
  · obtain ⟨taken, hperm, hkind⟩ := evict_perm hnonempty
    have hsub : lost box (box.park cfg subject id) ≤ {taken} := by
      rw [heq, lost, Outbox.append, ← Multiset.coe_add, Multiset.coe_eq_coe.mpr hperm,
        ← Multiset.cons_coe]
      apply tsub_le_iff_right.mpr
      rw [← add_assoc]
      exact Multiset.le_add_right _ _
    have hitem : item = taken := Multiset.mem_singleton.mp (Multiset.mem_of_le hsub hlost)
    rw [hitem]
    exact hkind hevent

lemma lost_parkEvent (subject : Text) (id : ℕ) :
    lost box (box.parkEvent cfg subject id).2 = 0 := by
  rw [Outbox.parkEvent]
  split
  · exact lost_self
  · exact lost_append _

/-- A message is evicted only when no event is queued. -/
lemma lost_of_parksMessage (hbounded : box.items.length ≤ cfg.max) {op : OutboxOp}
    (hparks : op.ParksMessage) {item : Item}
    (hlost : item ∈ lost box (box.after cfg op)) (hkind : item.kind = .message) :
    ∀ other ∈ box.items, other.kind ≠ .event := by
  intro other hother hevent
  have hpark : ∀ subject id, item ∉ lost box (box.park cfg subject id) := by
    intro subject id hmem
    have hitem := lost_park hbounded subject id ⟨other, hother, hevent⟩ item hmem
    exact nomatch hkind.symm.trans hitem
  have hself : item ∉ lost box box := by
    rw [lost_self]
    exact Multiset.notMem_zero item
  cases op with
  | park subject id => exact hpark subject id hlost
  | parkIfHeld subject id =>
    rw [Outbox.after, Outbox.parkIfHeld] at hlost
    split at hlost
    · exact hself hlost
    · exact hpark subject id hlost
  | parkEvent | parkEventIfHeld | remove | beginDrain | endDrain | endPass => exact hparks

/-- Parking an event takes nothing out of the queue. -/
lemma lost_of_parksEvent {op : OutboxOp} (hparks : op.ParksEvent) :
    lost box (box.after cfg op) = 0 := by
  cases op with
  | parkEvent subject id => exact lost_parkEvent subject id
  | parkEventIfHeld subject id =>
    rw [Outbox.after, Outbox.parkEventIfHeld]
    split
    · exact lost_self
    · exact lost_parkEvent subject id
  | park | parkIfHeld | remove | beginDrain | endDrain | endPass => exact hparks.elim

end

/-- In every run of locked sections, at every point: what was parked is what was
forwarded, dropped or is queued; the queue is within the limit; a section that
parks an event takes nothing out of the queue; and one that parks a message
takes a message out only when no event is queued. -/
theorem outbox_conserves (cfg : OutboxSettings) (ops : List OutboxOp) (time : ℕ) :
    (boxAt cfg ops time).parked = (boxAt cfg ops time).drained +
        (boxAt cfg ops time).dropped + (boxAt cfg ops time).items.length ∧
      (boxAt cfg ops time).items.length ≤ cfg.max ∧
      ∀ op, ops[time]? = some op → (op.ParksEvent →
          lost (boxAt cfg ops time) (boxAt cfg ops (time + 1)) = 0) ∧
        (op.ParksMessage → ∀ item ∈ lost (boxAt cfg ops time) (boxAt cfg ops (time + 1)),
            item.kind = .message →
            ∀ other ∈ (boxAt cfg ops time).items, other.kind ≠ .event) := by
  have hbalanced := balanced_boxAt cfg ops time
  refine ⟨hbalanced.parked_eq, hbalanced.bounded, fun op hop => ?_⟩
  have hnext : boxAt cfg ops (time + 1) = (boxAt cfg ops time).after cfg op := stateAt_succ hop
  rw [hnext]
  constructor
  · exact fun hparks => lost_of_parksEvent hparks
  · exact fun hparks item hlost hkind =>
      lost_of_parksMessage hbalanced.bounded hparks hlost hkind

end Fluxrig.Runtime
