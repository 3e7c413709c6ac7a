import Fluxrig.Runtime.Drain
import Fluxrig.Runtime.Ledger

/-!
# What a step of an emission or a drain does

A step of an emission changes its stage and nothing else, puts it into the
queue, has it accepted by the bus, or starts a drain.  A step of a drain is one
of its turns.  The later modules argue about these moves.
-/

namespace Fluxrig.Runtime

open Fluxrig.Core Message

/-- The changes of stage that leave the queue alone.  `free` says that the
outbox does not hold the subject back. -/
inductive Advance (free : Prop) : Stage → Stage → Prop where
  | pass (hfree : free) : Advance free .called .publishing
  | shut : Advance free .called (.kicking false)
  | refuse : Advance free .publishing .refused
  | fail : Advance free .publishing (.returned false)
  | drop : Advance free .refused (.returned false)
  | kick : Advance free .accepted (.kicking true)
  | finish : Advance free .accepted (.returned true)

/-- The outbox keeps no order, or nothing on this subject. -/
def Free (cfg : OutboxSettings) (box : Outbox) (subject : Text) : Prop :=
  cfg.ordered = false ∨ box.heldLocked subject = false

/-- A message parked on a full queue takes the place of this item. -/
structure Evicts (cfg : OutboxSettings) (box : Outbox) (kind : Kind) (item : Item) : Prop where
  message : kind = .message
  full : cfg.max ≤ box.items.length
  victim : box.victim = some item

/-- Emission `id` is put at the end of the queue, which loses an evicted item at
most. -/
structure Enqueues (cfg : OutboxSettings) (box : Outbox) (id : ℕ)
    (emission : Emission) (stage : Stage) (after : Outbox) : Prop where
  waiting : emission.stage = .called ∧ stage = .kicking true ∨
    emission.stage = .refused ∧ stage = .returned true
  held : emission.stage = .called → ¬ Free cfg box emission.subject
  items_eq : ∃ kept, kept.Sublist box.items ∧
    after.items = kept ++ [⟨id, emission.subject, emission.kind⟩] ∧
    ∀ item ∈ box.items, item ∉ kept → Evicts cfg box emission.kind item
  draining_eq : after.draining = box.draining
  again_eq : after.again = box.again

section

variable {cfg : OutboxSettings} {box : Outbox}

lemma Enqueues.of_append {id : ℕ} {emission : Emission} {stage : Stage}
    (hwaiting : emission.stage = .called ∧ stage = .kicking true ∨
      emission.stage = .refused ∧ stage = .returned true)
    (hheld : emission.stage = .called → ¬ Free cfg box emission.subject) :
    Enqueues cfg box id emission stage (box.append ⟨id, emission.subject, emission.kind⟩) where
  waiting := hwaiting
  held := hheld
  items_eq := ⟨box.items, List.Sublist.refl _, rfl, fun _ hmem hnot => absurd hmem hnot⟩
  draining_eq := rfl
  again_eq := rfl

lemma Enqueues.of_park (hbalanced : Balanced cfg box) {id : ℕ}
    {emission : Emission} {stage : Stage} (hkind : emission.kind = .message)
    (hwaiting : emission.stage = .called ∧ stage = .kicking true ∨
      emission.stage = .refused ∧ stage = .returned true)
    (hheld : emission.stage = .called → ¬ Free cfg box emission.subject) :
    Enqueues cfg box id emission stage (box.park cfg emission.subject id) := by
  rcases park_cases hbalanced.bounded emission.subject id with ⟨_, heq⟩ | ⟨hfull, hnonempty, heq⟩
  · rw [heq, ← hkind]
    exact .of_append hwaiting hheld
  · obtain ⟨victim, front, back, hvictim, hitems, hevicted⟩ := evict_split hnonempty
    rw [heq, ← hkind]
    refine ⟨hwaiting, hheld, ⟨front ++ back, ?_, congrArg (· ++ _) hevicted, ?_⟩, rfl, rfl⟩
    · rw [hitems]
      exact (List.sublist_cons_self victim back).append_left front
    · intro item hmem hnot
      have hitem : item = victim := by
        rw [hitems] at hmem
        by_contra hne
        apply hnot
        simpa [hne] using hmem
      exact ⟨hkind, hfull.ge, hitem ▸ hvictim⟩

end

/-- The turns of a drain whose context has or has not `ended`: from a phase to
the next one, with the item the bus accepts and the outbox afterwards. -/
inductive Turn (cfg : OutboxSettings) (ended : Bool) (box : Outbox) :
    Phase → Option Item → Phase → Outbox → Prop where
  | stop (hended : ended = true) : Turn cfg ended box .top none .stopping box
  | look (hlive : ended = false) : Turn cfg ended box .top none .snapshot box
  | stopped : Turn cfg ended box .stopping none .done box.endDrain
  | empty (hempty : box.items = []) : Turn cfg ended box .snapshot none .done box.endDrain
  | snapshot (hitems : box.items ≠ []) :
      Turn cfg ended box .snapshot none (.items ⟨box.items, [], 0⟩) box
  | fruitless (held : List Text) : Turn cfg ended box (.items ⟨[], held, 0⟩) none .endPass box
  | repeats (held : List Text) (forwarded : ℕ) :
      Turn cfg ended box (.items ⟨[], held, forwarded + 1⟩) none .top box
  | interrupt (item : Item) (rest : List Item) (held : List Text) (forwarded : ℕ)
      (hended : ended = true) :
      Turn cfg ended box (.items ⟨item :: rest, held, forwarded⟩) none .stopping box
  | skip (item : Item) (rest : List Item) (held : List Text) (forwarded : ℕ)
      (hheld : item.subject ∈ held) :
      Turn cfg ended box (.items ⟨item :: rest, held, forwarded⟩) none
        (.items ⟨rest, held, forwarded⟩) box
  | turn (item : Item) (rest : List Item) (held : List Text) (forwarded : ℕ)
      (hfree : cfg.ordered = true → item.subject ∉ held) :
      Turn cfg ended box (.items ⟨item :: rest, held, forwarded⟩) none
        (.attempt ⟨rest, held, forwarded⟩ item 0) box
  | abandon (pass : Pass) (item : Item) (tries : ℕ) :
      Turn cfg ended box (.attempt pass item tries) none (.items (pass.hold item.subject)) box
  | check (pass : Pass) (item : Item) (tries : ℕ) :
      Turn cfg ended box (.attempt pass item tries) none (.checking pass item tries) box
  | queued (pass : Pass) (item : Item) (tries : ℕ) (hholds : box.holds item = true) :
      Turn cfg ended box (.checking pass item tries) none (.publish pass item tries) box
  | evicted (pass : Pass) (item : Item) (tries : ℕ) (hgone : box.holds item = false) :
      Turn cfg ended box (.checking pass item tries) none (.items pass) box
  | accept (pass : Pass) (item : Item) (tries : ℕ) :
      Turn cfg ended box (.publish pass item tries) (some item) (.settle pass item false) box
  | invalid (pass : Pass) (item : Item) (tries : ℕ) :
      Turn cfg ended box (.publish pass item tries) none (.settle pass item true) box
  | retry (pass : Pass) (item : Item) (tries : ℕ) (hleft : tries < cfg.retries) :
      Turn cfg ended box (.publish pass item tries) none (.attempt pass item (tries + 1)) box
  | refuse (pass : Pass) (item : Item) (tries : ℕ) :
      Turn cfg ended box (.publish pass item tries) none (.items (pass.hold item.subject)) box
  | settle (pass : Pass) (item : Item) (dropped : Bool) :
      Turn cfg ended box (.settle pass item dropped) none
        (.items { pass with forwarded := pass.forwarded + 1 }) (box.remove item dropped)
  | again (hagain : box.again = true) :
      Turn cfg ended box .endPass none .top { box with again := false }
  | giveUp (hquiet : box.again = false) :
      Turn cfg ended box .endPass none .done { box with draining := false }
  | idle : Turn cfg ended box .done none .done box

lemma Drain.step_turn (cfg : OutboxSettings) (answer : Answer) (drain : Drain) (box : Outbox) :
    Turn cfg drain.ended box drain.phase (drain.sends answer)
      (drain.step cfg answer box).1 (drain.step cfg answer box).2 := by
  have hpass : ∀ held forwarded, Turn cfg drain.ended box (.items ⟨[], held, forwarded⟩)
      none (if forwarded = 0 then .endPass else .top) box := by
    intro held forwarded
    cases forwarded with
    | zero => exact .fruitless held
    | succ count => exact .repeats held count
  fun_cases Drain.step cfg answer drain box <;> simp_all only [Drain.sends] <;>
    grind [intro Turn, Outbox.endPass]

variable {cfg : OutboxSettings}

/-- A turn leaves the outbox alone or is one of its locked sections. -/
lemma Turn.outbox {ended : Bool} {box after : Outbox} {phase next : Phase} {sent : Option Item}
    (hturn : Turn cfg ended box phase sent next after) :
    after = box ∨ ∃ op, after = box.after cfg op := by
  cases hturn with
  | stopped | empty => exact Or.inr ⟨.endDrain, rfl⟩
  | settle _ item dropped => exact Or.inr ⟨.remove item dropped, rfl⟩
  | again hagain | giveUp hagain =>
    exact Or.inr ⟨.endPass, by simp [Outbox.after, Outbox.endPass, hagain]⟩
  | _ => exact Or.inl rfl

/-- The Rack after a turn of one of its drains. -/
def Rack.turned (rack : Rack) (index : ℕ) (ended : Bool) (sent : Option Item)
    (phase : Phase) (box : Outbox) : Rack :=
  { rack with
    outbox := box
    drains := rack.drains.set index ⟨phase, ended⟩
    sent := rack.sent ++ (sent.map fun item => ⟨item.id, item.subject, true⟩).toList }

/-- What a step can do to the Rack. -/
inductive Move (cfg : OutboxSettings) (rack : Rack) : Step → Rack → Prop where
  | call (subject : Text) (kind : Kind) :
      Move cfg rack (.call subject kind) (rack.call subject kind)
  | rest (id : ℕ) (answer : Answer) : Move cfg rack (.proceed id answer) rack
  | advance {id : ℕ} {answer : Answer} {emission : Emission} {stage : Stage}
      (hemission : rack.emissions[id]? = some emission)
      (hadvance : Advance (Free cfg rack.outbox emission.subject) emission.stage stage) :
      Move cfg rack (.proceed id answer) (rack.advance id emission stage)
  | enqueue {id : ℕ} {answer : Answer} {emission : Emission} {stage : Stage} {box : Outbox}
      (hemission : rack.emissions[id]? = some emission)
      (henqueues : Enqueues cfg rack.outbox id emission stage box) :
      Move cfg rack (.proceed id answer)
        { rack.advance id emission stage with outbox := box }
  | accept {id : ℕ} {answer : Answer} {emission : Emission}
      (hemission : rack.emissions[id]? = some emission)
      (hstage : emission.stage = .publishing) :
      Move cfg rack (.proceed id answer)
        { rack.advance id emission .accepted with
          sent := rack.sent ++ [⟨id, emission.subject, false⟩] }
  | finish {id : ℕ} {answer : Answer} {emission : Emission} {ok : Bool}
      (hemission : rack.emissions[id]? = some emission)
      (hstage : emission.stage = .kicking ok) :
      Move cfg rack (.proceed id answer) (rack.advance id emission (.returned ok)).kickDrain
  | kick : Move cfg rack .kick rack.kickDrain
  | absent {index : ℕ} {answer : Answer} (hnone : rack.drains[index]? = none) :
      Move cfg rack (.drain index answer) rack
  | turn {index : ℕ} {answer : Answer} {phase next : Phase} {ended : Bool}
      {sent : Option Item} {box : Outbox}
      (hdrain : rack.drains[index]? = some ⟨phase, ended⟩)
      (hturn : Turn cfg ended rack.outbox phase sent next box) :
      Move cfg rack (.drain index answer) (rack.turned index ended sent next box)
  | late (index : ℕ) : Move cfg rack (.cancel index) rack
  | cancel {index : ℕ} {drain : Drain} (hdrain : rack.drains[index]? = some drain) :
      Move cfg rack (.cancel index)
        { rack with drains := rack.drains.set index { drain with ended := true } }

section

variable {cfg : OutboxSettings} {rack : Rack}

lemma proceed_move (hbalanced : Balanced cfg rack.outbox) (id : ℕ) (answer : Answer) :
    Move cfg rack (.proceed id answer) (rack.proceed cfg id answer) := by
  fun_cases Rack.proceed cfg rack id answer with
  | case2 answer emission hemission hkind hstage result after =>
    by_cases hfree : Free cfg rack.outbox emission.subject
    · have hpark : result = (false, rack.outbox) := if_pos hfree
      simp only [after, hpark]
      exact .advance hemission (hstage ▸ .pass hfree)
    · have hpark : result = (true, rack.outbox.park cfg emission.subject id) := if_neg hfree
      simp only [after, hpark]
      exact .enqueue hemission (.of_park hbalanced hkind (Or.inl ⟨hstage, rfl⟩) fun _ => hfree)
  | case3 answer emission hemission hkind hstage result after =>
    by_cases hfree : Free cfg rack.outbox emission.subject
    · have hpark : result = ((false, false), rack.outbox) := if_pos hfree
      simp only [after, hpark]
      exact .advance hemission (hstage ▸ .pass hfree)
    have hpark : result = ((true, (rack.outbox.parkEvent cfg emission.subject id).1),
        (rack.outbox.parkEvent cfg emission.subject id).2) := if_neg hfree
    by_cases hfull : cfg.max ≤ rack.outbox.items.length
    · simp only [after, hpark, Outbox.parkEvent, if_pos hfull]
      exact .advance hemission (hstage ▸ .shut)
    · simp only [after, hpark, Outbox.parkEvent, if_neg hfull, ← hkind]
      exact .enqueue hemission (.of_append (Or.inl ⟨hstage, rfl⟩) fun _ => hfree)
  | case8 answer emission hemission hkind hstage result after =>
    by_cases hfull : cfg.max ≤ rack.outbox.items.length
    · have hpark : result = (false, rack.outbox) := if_pos hfull
      simp only [after, hpark]
      exact .advance hemission (hstage ▸ .drop)
    · have hpark : result = (true, rack.outbox.append ⟨id, emission.subject, .event⟩) :=
        if_neg hfull
      simp only [after, hpark, ← hkind]
      exact .enqueue hemission (.of_append (Or.inr ⟨hstage, rfl⟩) (by simp [hstage]))
  | _ => grind [intro Move, intro Advance, Enqueues.of_park]

lemma take_move (hbalanced : Balanced cfg rack.outbox) (step : Step) :
    Move cfg rack step (rack.take cfg step) := by
  cases step with
  | call subject kind => exact .call subject kind
  | proceed id answer => exact proceed_move hbalanced id answer
  | kick => exact .kick
  | drain index answer =>
    rw [Rack.take, Rack.drain]
    cases hdrain : rack.drains[index]? with
    | none => exact .absent hdrain
    | some drain => exact .turn hdrain (drain.step_turn cfg answer rack.outbox)
  | cancel index =>
    rw [Rack.take, Rack.cancel]
    cases hdrain : rack.drains[index]? with
    | none => exact .late index
    | some => exact .cancel hdrain

end

variable {rack : Rack}

lemma kickDrain_of_draining (hbusy : rack.outbox.draining = true) :
    rack.kickDrain = { rack with outbox := { rack.outbox with again := true } } := by
  have hbegin : rack.outbox.beginDrain = (false, { rack.outbox with again := true }) :=
    if_pos hbusy
  rw [Rack.kickDrain, hbegin]
  rfl

lemma kickDrain_of_idle (hidle : rack.outbox.draining = false) :
    rack.kickDrain = { rack with
      outbox := { rack.outbox with draining := true }
      drains := rack.drains ++ [⟨.top, false⟩] } := by
  have hbegin : rack.outbox.beginDrain = (true, { rack.outbox with draining := true }) :=
    if_neg (by rw [hidle]; exact Bool.false_ne_true)
  rw [Rack.kickDrain, hbegin]
  rfl

lemma proceed_outbox (cfg : OutboxSettings) (rack : Rack) (id : ℕ) (answer : Answer) :
    (rack.proceed cfg id answer).outbox = rack.outbox ∨
      ∃ op, (rack.proceed cfg id answer).outbox = rack.outbox.after cfg op := by
  fun_cases Rack.proceed cfg rack id answer with
  | case2 _ emission => exact Or.inr ⟨.parkIfHeld emission.subject id, rfl⟩
  | case3 _ emission => exact Or.inr ⟨.parkEventIfHeld emission.subject id, rfl⟩
  | case7 _ emission => exact Or.inr ⟨.park emission.subject id, rfl⟩
  | case8 _ emission => exact Or.inr ⟨.parkEvent emission.subject id, rfl⟩
  | case10 => exact Or.inr ⟨.beginDrain, rfl⟩
  | _ => exact Or.inl rfl

lemma take_outbox (cfg : OutboxSettings) (rack : Rack) (step : Step) :
    (rack.take cfg step).outbox = rack.outbox ∨
      ∃ op, (rack.take cfg step).outbox = rack.outbox.after cfg op := by
  cases step with
  | call => exact Or.inl rfl
  | proceed id answer => exact proceed_outbox cfg rack id answer
  | kick => exact Or.inr ⟨.beginDrain, rfl⟩
  | drain index answer =>
    rw [Rack.take, Rack.drain]
    cases rack.drains[index]? with
    | none => exact Or.inl rfl
    | some drain => exact (drain.step_turn cfg answer rack.outbox).outbox
  | cancel =>
    left
    rw [Rack.take, Rack.cancel]
    split <;> rfl

lemma Balanced.take (hbalanced : Balanced cfg rack.outbox) (step : Step) :
    Balanced cfg (rack.take cfg step).outbox := by
  rcases take_outbox cfg rack step with heq | ⟨op, heq⟩
  · rw [heq]
    exact hbalanced
  · rw [heq]
    exact hbalanced.after op

lemma balanced_rackAt (cfg : OutboxSettings) (steps : List Step) (time : ℕ) :
    Balanced cfg (rackAt cfg steps time).outbox :=
  @stateAt_invariant _ _ _ _ steps (fun rack : Rack => Balanced cfg rack.outbox)
    ⟨rfl, Nat.zero_le _⟩ (fun _ step _ hbalanced => hbalanced.take step) time

lemma move_rackAt {steps : List Step} {time : ℕ} {step : Step}
    (hstep : steps[time]? = some step) :
    Move cfg (rackAt cfg steps time) step (rackAt cfg steps (time + 1)) := by
  have hnext : rackAt cfg steps (time + 1) =
      (rackAt cfg steps time).take cfg step := stateAt_succ hstep
  rw [hnext]
  exact take_move (balanced_rackAt cfg steps time) step

/-- What holds of a new Rack and is preserved by the moves of a run where they are
made holds at all times of the run. -/
lemma rackAt_induction {cfg : OutboxSettings} {steps : List Step}
    {holds : Rack → Prop} (hnew : holds .new)
    (hmove : ∀ time step next, steps[time]? = some step →
      Move cfg (rackAt cfg steps time) step next →
      holds (rackAt cfg steps time) → holds next) (time : ℕ) :
    holds (rackAt cfg steps time) := by
  apply stateAt_induction hnew
  intro now step hstep hnow
  exact hmove now step _ hstep (take_move (balanced_rackAt cfg steps now) step) hnow

/-- What holds of a new Rack and is preserved by every move holds at all times. -/
lemma rackAt_invariant {cfg : OutboxSettings} {steps : List Step}
    {holds : Rack → Prop} (hnew : holds .new)
    (hmove : ∀ {rack step next}, Move cfg rack step next → holds rack → holds next)
    (time : ℕ) : holds (rackAt cfg steps time) :=
  rackAt_induction hnew (fun _ _ _ _ => hmove) time

end Fluxrig.Runtime
