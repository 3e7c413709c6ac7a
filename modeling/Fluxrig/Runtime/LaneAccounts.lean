import Fluxrig.Core.Growth
import Fluxrig.Runtime.Lane

/-!
# The accounts of the hot lane

The pending counter is what is queued, what is being handled and what a call has
counted but not yet sent or counted down.  A message that a publish delivered is
in the queue, was taken by the worker or was dropped by `Unsubscribe`.  What the worker
took the handler got, if the bytes of all messages can be decoded.  A subscription whose
`Unsubscribe` has returned stays empty, provided that no publish was still on its way to
it when `Unsubscribe` began to empty the queue: `enqueue` sends without a look at `done`.
-/

namespace Fluxrig.Runtime

open Fluxrig.Core Message

/-- The worker handles a message. -/
def Worker.load : Worker → ℤ
  | .handling _ => 1
  | _ => 0

/-- What a subscription has queued and what its worker handles. -/
def LaneSub.load (sub : LaneSub) : ℤ := sub.queue.length + sub.worker.load

/-- A publish has counted a message that it has neither sent nor counted down. -/
def Sending.holds : Sending → ℤ
  | .trying _ _ | .blocked _ _ | .failing _ => 1
  | _ => 0

/-- An `Unsubscribe` has taken a message out that it has not counted down. -/
def Closing.holds : Closing → ℤ
  | .received => 1
  | _ => 0

def Publish.holds (publish : Publish) : ℤ := publish.sending.holds

def Unsubscribe.holds (unsubscribe : Unsubscribe) : ℤ := unsubscribe.closing.holds

def Lane.load (lane : Lane) : ℤ :=
  (lane.subs.map LaneSub.load).sum + (lane.publishes.map Publish.holds).sum +
    (lane.unsubscribes.map Unsubscribe.holds).sum

/-- The message reached the subscription. -/
def LaneSub.Has (sub : LaneSub) (message : ℕ) : Prop :=
  message ∈ sub.taken ∨ message ∈ sub.discarded ∨ message ∈ sub.queue

/-- The call has left the table. -/
def Closing.left : Closing → Bool
  | .waiting | .emptying | .received | .returned => true
  | _ => false

/-- The call has begun to empty the queue. -/
def Closing.past : Closing → Bool
  | .emptying | .received | .returned => true
  | _ => false

lemma Closing.left_of_past {closing : Closing} (hpast : closing.past = true) :
    closing.left = true := by
  cases closing <;> first | rfl | exact absurd hpast Bool.false_ne_true

/-- The targets a publish may still send to. -/
def Sending.aims : Sending → List ℕ
  | .next rest => rest
  | .trying target rest => target :: rest
  | .blocked target rest => target :: rest
  | .failing rest => rest
  | _ => []

/-- What a step can do to the subscription at `place`, with its reason. -/
structure SubMove (lane next : Lane) (place : ℕ) (sub later : LaneSub) : Prop where
  subject_eq : later.subject = sub.subject
  has : ∀ message, sub.Has message → later.Has message
  stays : (sub.done = true → later.done = true) ∧ (sub.removed = true → later.removed = true)
  removed : later.removed = true → sub.removed = true ∨
    next.table = Function.update lane.table sub.subject
      ((lane.table sub.subject).filter fun other => other ≠ place)
  done : later.done = true → sub.done = true ∨
    ∃ call ∈ next.unsubscribes, call.target = place ∧ call.closing ≠ .called
  stopped : later.worker = .stopped → sub.worker = .stopped ∨ later.done = true
  queue : sub.queue = [] → later.queue = [] ∨
    ∃ publish ∈ lane.publishes, place ∈ publish.sending.aims
  handled : ∀ message ∈ later.taken, message ∉ later.handled →
    message ∈ sub.taken ∧ message ∉ sub.handled ∨ lane.Garbled message

/-- What a step can do to a publish. -/
structure PublishMove (lane next : Lane) (place : ℕ) (publish later : Publish) : Prop where
  encoding_eq : later.encoding = publish.encoding
  aims : ∀ target ∈ later.sending.aims, target ∈ publish.sending.aims ∨
    ∃ subject, target ∈ lane.table subject
  delivered : ∀ target ∈ later.delivered, target ∈ publish.delivered ∨
    ∃ sub, next.subs[target]? = some sub ∧ place ∈ sub.queue

/-- What a step can do to a call of `Unsubscribe`. -/
structure CallMove (lane : Lane) (step : LaneStep) (next : Lane) (_place : ℕ)
    (call later : Unsubscribe) : Prop where
  target_eq : later.target = call.target
  left : later.closing.left = true → call.closing.left = true ∨
    ∃ sub, next.subs[call.target]? = some sub ∧ sub.removed = true
  past : later.closing.past = true → call.closing.past = true ∨
    ∃ place, step = .unsubscribe place ∧
      lane.unsubscribes[place]? = some ⟨call.target, .waiting⟩ ∧ call.closing.left = true
  returned : later.closing = .returned → call.closing = .returned ∨
    ∃ sub, next.subs[call.target]? = some sub ∧ sub.queue = []
  begun : call.closing ≠ .called → later.closing ≠ .called

/-- What a step can do to the lane: it changes the counter by what it changes the load, and
the table, the subscriptions and the calls as above. -/
structure Lane.Effect (lane : Lane) (step : LaneStep) (next : Lane) : Prop where
  counted : next.pending - next.load = lane.pending - lane.load
  table : ∀ subject, ∀ index ∈ next.table subject, index ∈ lane.table subject ∨
    (index = lane.subs.length ∧ ∃ size, next.subs = lane.subs ++ [.new subject size])
  subs : Grows (SubMove lane next) (fun sub => ∃ subject size, sub = .new subject size)
    lane.subs next.subs
  publishes : Grows (PublishMove lane next)
    (fun publish => publish.sending = .called ∧ publish.delivered = [] ∧
      ∃ subject, step = .callPublish subject publish.encoding)
    lane.publishes next.publishes
  calls : Grows (CallMove lane step next) (fun call => call.closing = .called)
    lane.unsubscribes next.unsubscribes

section

variable {lane next : Lane} {step : LaneStep} {place : ℕ}

lemma SubMove.refl (place : ℕ) (sub : LaneSub) : SubMove lane next place sub sub :=
  ⟨rfl, fun _ => id, ⟨id, id⟩, Or.inl, Or.inl, Or.inl, Or.inl, fun _ htaken hnot =>
    Or.inl ⟨htaken, hnot⟩⟩

lemma PublishMove.refl (place : ℕ) (publish : Publish) :
    PublishMove lane next place publish publish := ⟨rfl, fun _ => Or.inl, fun _ => Or.inl⟩

lemma CallMove.refl (place : ℕ) (call : Unsubscribe) :
    CallMove lane step next place call call := ⟨rfl, Or.inl, Or.inl, Or.inl, id⟩

section

variable (lane : Lane)

lemma Lane.Effect.refl (step : LaneStep) : lane.Effect step lane :=
  ⟨rfl, fun _ _ => Or.inl, .refl SubMove.refl, .refl PublishMove.refl, .refl CallMove.refl⟩

lemma effect_publish (call : ℕ) (branch : Branch) :
    lane.Effect (.publish call branch) (lane.publish call branch) := by
  fun_cases Lane.publish lane call branch with
  | case1 | case7 | case10 | case12 | case14 | case18 => exact .refl lane _
  | case8 _ publish hpublish target rest hsending sub hsub
  | case11 publish hpublish target rest hsending sub hsub =>
    refine ⟨?_, fun _ _ => Or.inl, .set SubMove.refl hsub ?_, .set PublishMove.refl hpublish ?_,
      .refl CallMove.refl⟩
    · grind [Lane.load, Lane.send, Lane.setPublish, Lane.setSub, sum_map_set, Publish.holds,
        Sending.holds, LaneSub.load]
    · constructor <;> grind [LaneSub.Has, Sending.aims]
    · constructor <;> grind [Lane.send, Lane.setPublish, Lane.setSub, Sending.aims]
  | _ =>
    refine ⟨?_, fun _ _ => Or.inl, .refl SubMove.refl, .set PublishMove.refl (by assumption) ?_,
      .refl CallMove.refl⟩
    · grind [Lane.load, Lane.fail, Lane.setPublish, Lane.addPending, sum_map_set, Publish.holds,
        Sending.holds]
    · constructor <;> grind [Sending.aims]

lemma effect_work (index : ℕ) (stop : Bool) :
    lane.Effect (.work index stop) (lane.work index stop) := by
  fun_cases Lane.work lane index stop with
  | case1 | case3 | case4 | case7 => exact .refl lane _
  | _ =>
    refine ⟨?_, fun _ _ => Or.inl, .set SubMove.refl (by assumption) ?_, .refl PublishMove.refl,
      .refl CallMove.refl⟩
    · grind [Lane.load, Lane.setSub, Lane.addPending, sum_map_set, LaneSub.load, Worker.load]
    · constructor <;> grind [LaneSub.Has, Lane.deliver]

lemma effect_unsubscribe (call : ℕ) :
    lane.Effect (.unsubscribe call) (lane.unsubscribe call) := by
  fun_cases Lane.unsubscribe lane call with
  | case1 | case2 | case5 | case11 => exact .refl lane _
  | case3 target sub hsub _ hcall | case6 target sub hsub _ _ hcall
  | case9 target sub hsub message queue hqueue hcall =>
    have hmem : ∀ entry, entry ∈ lane.unsubscribes.set call entry :=
      List.mem_set (List.getElem?_eq_some_iff.mp hcall).1
    refine ⟨?_, ?_, .set SubMove.refl hsub ?_, .refl PublishMove.refl,
      .set CallMove.refl hcall ?_⟩
    · grind [Lane.load, Lane.setSub, Lane.setUnsubscribe, sum_map_set, LaneSub.load,
        Unsubscribe.holds, Closing.holds]
    · grind [Lane.setSub, Lane.setUnsubscribe]
    · constructor <;> grind [LaneSub.Has, Lane.setSub, Lane.setUnsubscribe]
    · constructor <;> grind [Lane.setSub, Lane.setUnsubscribe, Closing.left, Closing.past]
  | _ =>
    refine ⟨?_, fun _ _ => Or.inl, .refl SubMove.refl, .refl PublishMove.refl,
      .set CallMove.refl (by assumption) ?_⟩
    · grind [Lane.load, Lane.setUnsubscribe, Lane.addPending, sum_map_set, Unsubscribe.holds,
        Closing.holds]
    · constructor <;> grind [Lane.setUnsubscribe, Closing.left, Closing.past]

lemma effect_take (step : LaneStep) : lane.Effect step (lane.take step) := by
  cases step with
  | subscribe subject size =>
    refine ⟨?_, ?_, .concat SubMove.refl ⟨subject, size, rfl⟩, .refl PublishMove.refl,
      .refl CallMove.refl⟩
    · grind [Lane.take, Lane.subscribe, Lane.load, sum_map_concat, LaneSub.load, LaneSub.new,
        Worker.load]
    · intro other index hmem
      simp only [Lane.take, Lane.subscribe, Function.update_apply] at hmem ⊢
      split_ifs at hmem with hsubject
      · subst hsubject
        exact (List.mem_append.mp hmem).imp_right fun hnew =>
          ⟨List.mem_singleton.mp hnew, size, rfl⟩
      · exact Or.inl hmem
  | callPublish =>
    refine ⟨?_, fun _ _ => Or.inl, .refl SubMove.refl, .concat PublishMove.refl ⟨rfl, rfl, _, rfl⟩,
      .refl CallMove.refl⟩
    grind [Lane.take, Lane.load, Publish.holds, Sending.holds]
  | publish call branch => exact effect_publish lane call branch
  | work index stop => exact effect_work lane index stop
  | callUnsubscribe target =>
    rw [Lane.take]
    split
    · refine ⟨?_, fun _ _ => Or.inl, .refl SubMove.refl, .refl PublishMove.refl,
        .concat CallMove.refl rfl⟩
      grind [Lane.load, Unsubscribe.holds, Closing.holds]
    · exact .refl lane _
  | unsubscribe call => exact effect_unsubscribe lane call

/-- What a publish delivered has reached its subscription. -/
def Lane.Traced : Prop :=
  ∀ (call : ℕ) (publish : Publish), lane.publishes[call]? = some publish →
    ∀ target ∈ publish.delivered, ∃ sub, lane.subs[target]? = some sub ∧ sub.Has call

end

section

variable (heffect : lane.Effect step next)

include heffect

lemma Lane.Effect.traced (htraced : lane.Traced) : next.Traced := by
  intro call later hlater target htarget
  rcases heffect.publishes.cases hlater with ⟨_, hnone, _⟩ | ⟨publish, hpublish, hmove⟩
  · rw [hnone] at htarget
    nomatch htarget
  rcases hmove.delivered target htarget with hold | ⟨sub, hsub, hqueued⟩
  · obtain ⟨sub, hsub, hhas⟩ := htraced call publish hpublish target hold
    obtain ⟨after, hafter, hsubmove⟩ := heffect.subs.get target sub hsub
    exact ⟨after, hafter, hsubmove.has call hhas⟩
  · exact ⟨sub, hsub, Or.inr (Or.inr hqueued)⟩

/-- No bytes are garbled, and whatever a worker took its handler got. -/
structure Lane.Decoded (lane : Lane) : Prop where
  sound : ∀ publish ∈ lane.publishes, publish.encoding ≠ .garbled
  handled : ∀ sub ∈ lane.subs, ∀ message ∈ sub.taken, message ∈ sub.handled

lemma Lane.Effect.decoded (hstep : ∀ subject, step ≠ .callPublish subject .garbled)
    (hdecoded : lane.Decoded) : next.Decoded where
  sound later hlater hgarbled := by
    rcases heffect.publishes.mem_cases hlater with ⟨_, _, subject, hcalled⟩ |
      ⟨publish, hpublish, _, hmove⟩
    · exact hstep subject (hgarbled ▸ hcalled)
    · exact hdecoded.sound publish hpublish (hmove.encoding_eq.symm.trans hgarbled)
  handled later hlater message htaken := by
    by_contra hnot
    rcases heffect.subs.mem_cases hlater with ⟨_, _, rfl⟩ | ⟨sub, hsub, _, hmove⟩
    · exact List.not_mem_nil htaken
    rcases hmove.handled message htaken hnot with ⟨hbefore, hmissed⟩ | ⟨publish, hpublish, hgarbled⟩
    · exact hmissed (hdecoded.handled sub hsub message hbefore)
    · exact hdecoded.sound publish (List.mem_of_getElem? hpublish) hgarbled

/-- The table lists subscriptions by their subject, and none that has left it; a
subscription is done only for an `Unsubscribe`, and its worker stops only then. -/
structure Lane.Closed (lane : Lane) : Prop where
  listed : ∀ subject, ∀ index ∈ lane.table subject,
    ∃ sub, lane.subs[index]? = some sub ∧ sub.subject = subject
  removed : ∀ (index : ℕ) (sub : LaneSub), lane.subs[index]? = some sub →
    sub.removed = true → ∀ subject, index ∉ lane.table subject
  left : ∀ call ∈ lane.unsubscribes, call.closing.left = true →
    ∃ sub, lane.subs[call.target]? = some sub ∧ sub.removed = true
  done : ∀ (index : ℕ) (sub : LaneSub), lane.subs[index]? = some sub → sub.done = true →
    ∃ call ∈ lane.unsubscribes, call.target = index ∧ call.closing ≠ .called
  stopped : ∀ sub ∈ lane.subs, sub.worker = .stopped → sub.done = true

lemma Lane.Effect.listed (hclosed : lane.Closed) : ∀ subject, ∀ index ∈ next.table subject,
      ∃ sub, next.subs[index]? = some sub ∧ sub.subject = subject := by
  intro subject index hmem
  rcases heffect.table subject index hmem with hold | ⟨hindex, size, hsubs⟩
  · obtain ⟨sub, hsub, hsubject⟩ := hclosed.listed subject index hold
    obtain ⟨after, hafter, hmove⟩ := heffect.subs.get index sub hsub
    exact ⟨after, hafter, hmove.subject_eq.trans hsubject⟩
  · rw [hindex, hsubs]
    exact ⟨.new subject size, List.getElem?_concat_length, rfl⟩

lemma Lane.Effect.removed (hclosed : lane.Closed) {index : ℕ} {later : LaneSub}
    (hlater : next.subs[index]? = some later) (hremoved : later.removed = true) (subject : Text) :
    index ∉ next.table subject := by
  intro hmem
  rcases heffect.subs.cases hlater with ⟨_, _, rfl⟩ | ⟨sub, hsub, hmove⟩
  · exact Bool.false_ne_true hremoved
  have hlt := (List.getElem?_eq_some_iff.mp hsub).1
  have hold : index ∈ lane.table subject :=
    (heffect.table subject index hmem).resolve_right fun hnew => hlt.ne hnew.1
  rcases hmove.removed hremoved with hbefore | htable
  · exact hclosed.removed index sub hsub hbefore subject hold
  · -- It has just left the list of its subject, and no other list had it.
    obtain ⟨same, hsame, hsubject⟩ := hclosed.listed subject index hold
    rw [hsub, Option.some.injEq] at hsame
    rw [htable, hsame, hsubject, Function.update_self] at hmem
    exact of_decide_eq_true (List.mem_filter.mp hmem).2 rfl

lemma Lane.Effect.closed (hclosed : lane.Closed) : next.Closed where
  listed := heffect.listed hclosed
  removed _ _ hlater hremoved := heffect.removed hclosed hlater hremoved
  left later hlater hleft := by
    rcases heffect.calls.mem_cases hlater with hcalled | ⟨call, hcall, _, hmove⟩
    · simp [hcalled, Closing.left] at hleft
    rw [hmove.target_eq]
    refine (hmove.left hleft).elim (fun hbefore => ?_) id
    obtain ⟨sub, hsub, hremoved⟩ := hclosed.left call hcall hbefore
    obtain ⟨after, hafter, hsubmove⟩ := heffect.subs.get _ sub hsub
    exact ⟨after, hafter, hsubmove.stays.2 hremoved⟩
  done index later hlater hdone := by
    rcases heffect.subs.cases hlater with ⟨_, _, rfl⟩ | ⟨sub, hsub, hmove⟩
    · exact absurd hdone Bool.false_ne_true
    refine (hmove.done hdone).elim (fun hbefore => ?_) id
    obtain ⟨call, hmem, htarget, hbegun⟩ := hclosed.done index sub hsub hbefore
    obtain ⟨place, hplace⟩ := List.mem_iff_getElem?.mp hmem
    obtain ⟨after, hafter, hcallmove⟩ := heffect.calls.get place call hplace
    exact ⟨after, List.mem_of_getElem? hafter, hcallmove.target_eq.trans htarget,
      hcallmove.begun hbegun⟩
  stopped later hlater hstopped := by
    rcases heffect.subs.mem_cases hlater with ⟨_, _, rfl⟩ | ⟨sub, hsub, _, hmove⟩
    · nomatch hstopped
    · exact (hmove.stopped hstopped).elim
        (fun hbefore => hmove.stays.1 (hclosed.stopped sub hsub hbefore)) id

end

/-- When an `Unsubscribe` stops waiting and begins to empty the queue, no publish is
still on its way to the subscription. -/
def Lane.Clears (lane : Lane) (step : LaneStep) : Prop :=
  ∀ call target, step = .unsubscribe call →
    lane.unsubscribes[call]? = some ⟨target, .waiting⟩ →
    ∀ publish ∈ lane.publishes, target ∉ publish.sending.aims

/-- Nothing is on its way to a subscription that has begun to be emptied, and one
whose `Unsubscribe` has returned is empty. -/
structure Lane.Emptied (lane : Lane) : Prop where
  clear : ∀ call ∈ lane.unsubscribes, call.closing.past = true →
    ∀ publish ∈ lane.publishes, call.target ∉ publish.sending.aims
  empty : ∀ call ∈ lane.unsubscribes, call.closing = .returned →
    ∀ sub, lane.subs[call.target]? = some sub → sub.queue = []

/-- A call that is emptying the queue has left the table, and no publish was on its
way to the subscription: the end of its wait is where it is looked at. -/
lemma CallMove.clear (hclears : lane.Clears step) (hemptied : lane.Emptied)
    {call later : Unsubscribe} (hcall : call ∈ lane.unsubscribes)
    (hmove : CallMove lane step next place call later) (hpast : later.closing.past = true) :
    call.closing.left = true ∧
      ∀ publish ∈ lane.publishes, call.target ∉ publish.sending.aims := by
  rcases hmove.past hpast with hbefore | ⟨place, hstep, hwaiting, hleft⟩
  · exact ⟨Closing.left_of_past hbefore, hemptied.clear call hcall hbefore⟩
  · exact ⟨hleft, hclears place call.target hstep hwaiting⟩

lemma Lane.Effect.emptied (heffect : lane.Effect step next)
    (hclears : lane.Clears step) (hclosed : lane.Closed) (hemptied : lane.Emptied) :
    next.Emptied where
  clear later hlater hpast publish hpublish haims := by
    rcases heffect.calls.mem_cases hlater with hcalled | ⟨call, hcall, _, hmove⟩
    · simp [hcalled, Closing.past] at hpast
    obtain ⟨hleft, hclear⟩ := hmove.clear hclears hemptied hcall hpast
    rw [hmove.target_eq] at haims
    rcases heffect.publishes.mem_cases hpublish with ⟨hcalled, _⟩ | ⟨before, hbefore, _, hsends⟩
    · simp [hcalled, Sending.aims] at haims
    rcases hsends.aims _ haims with hold | ⟨subject, hlisted⟩
    · exact hclear before hbefore hold
    · obtain ⟨sub, hsub, hremoved⟩ := hclosed.left call hcall hleft
      exact hclosed.removed call.target sub hsub hremoved subject hlisted
  empty later hlater hreturned after hafter := by
    rcases heffect.calls.mem_cases hlater with hcalled | ⟨call, hcall, _, hmove⟩
    · nomatch hcalled.symm.trans hreturned
    rw [hmove.target_eq] at hafter
    rcases hmove.returned hreturned with hbefore | ⟨same, hsame, hempty⟩
    · rcases heffect.subs.cases hafter with ⟨_, _, rfl⟩ | ⟨sub, hsub, hsubmove⟩
      · rfl
      have hpast : call.closing.past = true := hbefore ▸ rfl
      refine (hsubmove.queue (hemptied.empty call hcall hbefore sub hsub)).resolve_right ?_
      intro ⟨publish, hpublish, haims⟩
      exact hemptied.clear call hcall hpast publish hpublish haims
    · rw [hafter, Option.some.injEq] at hsame
      exact hsame ▸ hempty

end

/-- No publish and no `Unsubscribe` is in progress. -/
def Lane.Quiescent (lane : Lane) : Prop :=
  (∀ publish ∈ lane.publishes, publish.sending = .returned) ∧
    ∀ call ∈ lane.unsubscribes, call.closing = .returned

/-- `Unsubscribe` has returned for this subscription. -/
def Lane.Unsubscribed (lane : Lane) (target : ℕ) : Prop :=
  ∃ call ∈ lane.unsubscribes, call.target = target ∧ call.closing = .returned

/-- What is queued in a live subscription and what is being handled. -/
def LaneSub.live (sub : LaneSub) : ℤ :=
  (if sub.done then 0 else (sub.queue.length : ℤ)) + sub.worker.load

/-- The accounts of the hot lane. -/
structure Lane.Accounts (lane : Lane) : Prop where
  /-- At rest the counter is what is queued in live subscriptions and being handled. -/
  settled : lane.Quiescent → lane.pending = (lane.subs.map LaneSub.live).sum
  /-- What was delivered is handled, dropped, or queued in a live subscription. -/
  reached : ∀ (call : ℕ) (publish : Publish), lane.publishes[call]? = some publish →
    ∀ target ∈ publish.delivered, ∃ sub, lane.subs[target]? = some sub ∧
      (call ∈ sub.handled ∨ call ∈ sub.discarded ∨ call ∈ sub.queue ∧ ¬ lane.Unsubscribed target)
  emptied : ∀ (target : ℕ) (sub : LaneSub), lane.Unsubscribed target →
    lane.subs[target]? = some sub → sub.queue = []
  /-- At rest the counter is above zero only for a message that a worker handles or
  has still to take. -/
  waits : lane.Quiescent → 0 < lane.pending → ∃ sub ∈ lane.subs,
    (∃ message, sub.worker = .handling message) ∨
      (sub.queue ≠ [] ∧ sub.done = false ∧ sub.worker ≠ .stopped)

section

variable {lane : Lane}

lemma load_of_quiescent (hquiescent : lane.Quiescent) :
    lane.load = (lane.subs.map LaneSub.load).sum := by
  have hpublishes : (lane.publishes.map Publish.holds).sum = 0 := by
    apply List.sum_eq_zero
    intro weight hweight
    obtain ⟨publish, hmem, hholds⟩ := List.mem_map.mp hweight
    rw [← hholds, Publish.holds, hquiescent.1 publish hmem]
    rfl
  have hcalls : (lane.unsubscribes.map Unsubscribe.holds).sum = 0 := by
    apply List.sum_eq_zero
    intro weight hweight
    obtain ⟨call, hmem, hholds⟩ := List.mem_map.mp hweight
    rw [← hholds, Unsubscribe.holds, hquiescent.2 call hmem]
    rfl
  rw [Lane.load, hpublishes, hcalls, add_zero, add_zero]

/-- At rest a subscription that is done is empty. -/
lemma live_eq_load (hclosed : lane.Closed) (hemptied : lane.Emptied)
    (hquiescent : lane.Quiescent) {sub : LaneSub} (hsub : sub ∈ lane.subs) :
    sub.live = sub.load := by
  rw [LaneSub.live, LaneSub.load]
  cases hdone : sub.done with
  | false => rfl
  | true =>
    obtain ⟨index, hindex⟩ := List.mem_iff_getElem?.mp hsub
    obtain ⟨call, hcall, htarget, _⟩ := hclosed.done index sub hindex hdone
    have hqueue := hemptied.empty call hcall (hquiescent.2 call hcall) sub (htarget ▸ hindex)
    rw [hqueue]
    rfl

lemma exists_live_of_pos (hpositive : 0 < (lane.subs.map LaneSub.live).sum) :
    ∃ sub ∈ lane.subs, 0 < sub.live := by
  have hless : (lane.subs.map fun _ => (0 : ℤ)).sum < (lane.subs.map LaneSub.live).sum := by
    simpa using hpositive
  exact List.exists_lt_of_sum_lt _ _ hless

lemma Lane.Closed.accounts (hcounted : lane.pending = lane.load) (htraced : lane.Traced)
    (hclosed : lane.Closed) (hemptied : lane.Emptied) (hdecoded : lane.Decoded) :
    lane.Accounts := by
  have hempty : ∀ (target : ℕ) (sub : LaneSub), lane.Unsubscribed target →
      lane.subs[target]? = some sub → sub.queue = [] := by
    intro target sub ⟨call, hcall, htarget, hreturned⟩ hsub
    exact hemptied.empty call hcall hreturned sub (htarget ▸ hsub)
  have hsettled : lane.Quiescent → lane.pending = (lane.subs.map LaneSub.live).sum := by
    intro hquiescent
    rw [hcounted, load_of_quiescent hquiescent]
    exact congrArg List.sum (List.map_congr_left fun sub hsub =>
      (live_eq_load hclosed hemptied hquiescent hsub).symm)
  refine ⟨hsettled, ?_, hempty, ?_⟩
  · intro call publish hpublish target htarget
    obtain ⟨sub, hsub, hhas⟩ := htraced call publish hpublish target htarget
    have hhandled := hdecoded.handled sub (List.mem_of_getElem? hsub) call
    refine ⟨sub, hsub, hhas.imp hhandled (Or.imp_right fun hqueued => ⟨hqueued, ?_⟩)⟩
    intro hunsubscribed
    rw [hempty target sub hunsubscribed hsub] at hqueued
    exact List.not_mem_nil hqueued
  · intro hquiescent hpositive
    rw [hsettled hquiescent] at hpositive
    obtain ⟨sub, hsub, hlive⟩ := exists_live_of_pos hpositive
    refine ⟨sub, hsub, ?_⟩
    cases hworker : sub.worker with
    | handling message => exact Or.inl ⟨message, rfl⟩
    | stopped =>
      have hdone := hclosed.stopped sub hsub hworker
      rw [LaneSub.live, hdone, hworker] at hlive
      exact absurd hlive (lt_irrefl 0)
    | waiting =>
      right
      cases hdone : sub.done with
      | true =>
        rw [LaneSub.live, hdone, hworker] at hlive
        exact absurd hlive (lt_irrefl 0)
      | false =>
        refine ⟨?_, rfl, nofun⟩
        intro hnil
        rw [LaneSub.live, hdone, hworker, hnil] at hlive
        exact absurd hlive (lt_irrefl 0)

end

/-- What every step keeps: the counter is the load, what was delivered has arrived, and
the table is in order. -/
def Lane.Conserved (lane : Lane) : Prop :=
  lane.pending = lane.load ∧ lane.Traced ∧ lane.Closed

lemma conserved_new : Lane.new.Conserved := ⟨rfl, nofun, ⟨nofun, nofun, nofun, nofun, nofun⟩⟩

lemma Lane.Conserved.take {lane : Lane} (hconserved : lane.Conserved) (step : LaneStep) :
    (lane.take step).Conserved := by
  obtain ⟨hcounted, htraced, hclosed⟩ := hconserved
  have heffect := effect_take lane step
  have hbalance := heffect.counted
  rw [hcounted, sub_self, sub_eq_zero] at hbalance
  exact ⟨hbalance, heffect.traced htraced, heffect.closed hclosed⟩

/-- In every interleaving, whatever a publish may still be on its way to: the pending
counter is what is queued, handled or held by a call, nothing that was delivered is lost,
and the table lists no subscription that was removed. -/
theorem lane_conserves (steps : List LaneStep) (time : ℕ) :
    (laneAt steps time).pending = (laneAt steps time).load ∧ (laneAt steps time).Traced ∧
      (laneAt steps time).Closed :=
  stateAt_invariant conserved_new (fun _ step _ hconserved => hconserved.take step) time

/-- Along every interleaving of publishes, deliveries and `Unsubscribe` calls the
accounts of the lane balance, provided that no publish is still on its way to a
subscription when an `Unsubscribe` begins to empty it and that no message is encoded to
bytes that cannot be decoded. -/
theorem lane_accounts (steps : List LaneStep)
    (hclears : ∀ time step, steps[time]? = some step → (laneAt steps time).Clears step)
    (hsound : ∀ subject, .callPublish subject .garbled ∉ steps)
    (time : ℕ) : (laneAt steps time).Accounts := by
  obtain ⟨⟨hcounted, htraced, hclosed⟩, hemptied, hdecoded⟩ :
      (laneAt steps time).Conserved ∧ (laneAt steps time).Emptied ∧
        (laneAt steps time).Decoded := by
    refine @stateAt_induction _ _ Lane.take .new steps
      (fun lane => lane.Conserved ∧ lane.Emptied ∧ lane.Decoded) ?_ ?_ time
    · exact ⟨conserved_new, ⟨nofun, nofun⟩, ⟨nofun, nofun⟩⟩
    · rintro now step hstep ⟨hconserved, hemptied, hdecoded⟩
      have heffect := effect_take (laneAt steps now) step
      refine ⟨hconserved.take step, heffect.emptied (hclears now step hstep) hconserved.2.2
        hemptied, heffect.decoded ?_ hdecoded⟩
      rintro subject rfl
      exact hsound subject (List.mem_of_getElem? hstep)
  exact hclosed.accounts hcounted htraced hemptied hdecoded

/-- One message is handled and one is dropped by `Unsubscribe`. -/
def handledAndDropped : List LaneStep :=
  [.subscribe (utf8 "a") 2,
    .callPublish (utf8 "a") .sound, .publish 0 .send, .publish 0 .send, .publish 0 .send,
    .publish 0 .send, .work 0 false,
    .callPublish (utf8 "a") .sound, .publish 1 .send, .publish 1 .send, .publish 1 .send,
    .publish 1 .send, .work 0 false,
    .callUnsubscribe 0, .unsubscribe 0, .unsubscribe 0, .work 0 true, .unsubscribe 0,
    .unsubscribe 0, .unsubscribe 0, .unsubscribe 0]

theorem handledAndDropped_accounts :
    (laneAt handledAndDropped 21).subs.map (fun sub => (sub.handled, sub.discarded)) =
        [([0], [1])] ∧
      (laneAt handledAndDropped 21).Accounts := by
  refine ⟨by decide, lane_accounts handledAndDropped ?_ (by simp [handledAndDropped]) 21⟩
  -- All publishes have returned when `Unsubscribe` is called.
  have hreturned : ∀ time < 21, 13 ≤ time →
      ∀ publish ∈ (laneAt handledAndDropped time).publishes, publish.sending.aims = [] := by
    decide
  have hbefore : ∀ time < 13, (laneAt handledAndDropped time).unsubscribes.length = 0 := by
    decide
  intro time step hstep call target _ hwaiting publish hpublish
  have hlt : time < 21 := (List.getElem?_eq_some_iff.mp hstep).1
  by_cases hearly : time < 13
  · rw [List.length_eq_zero_iff.mp (hbefore time hearly)] at hwaiting
    nomatch hwaiting
  · rw [hreturned time hlt (not_lt.mp hearly) publish hpublish]
    exact List.not_mem_nil

/-- A publish takes its snapshot of the targets, `Unsubscribe` runs to its end, and
the publish sends into the queue that nobody will look at again. -/
def sentAfterUnsubscribe : List LaneStep :=
  [.subscribe (utf8 "a") 1, .callPublish (utf8 "a") .sound, .publish 0 .send,
    .callUnsubscribe 0, .unsubscribe 0, .unsubscribe 0, .work 0 true, .unsubscribe 0,
    .unsubscribe 0,
    .publish 0 .send, .publish 0 .send, .publish 0 .send]

theorem sentAfterUnsubscribe_stuck : ¬ (laneAt sentAfterUnsubscribe 12).Accounts := by
  intro haccounts
  have hquiescent : (laneAt sentAfterUnsubscribe 12).Quiescent := by
    constructor
    · decide
    · decide
  have hpending : (laneAt sentAfterUnsubscribe 12).pending = 1 := by decide
  have hlive : ((laneAt sentAfterUnsubscribe 12).subs.map LaneSub.live).sum = 0 := by decide
  have hsettled := haccounts.settled hquiescent
  exact absurd hsettled (by decide)

-- Bytes that cannot be decoded: delivered, and neither handled nor dropped.
example : (laneAt [.subscribe (utf8 "a") 1, .callPublish (utf8 "a") .garbled, .publish 0 .send,
    .publish 0 .send, .publish 0 .send, .publish 0 .send, .work 0 false, .work 0 false] 8).subs.map
      (fun sub => (sub.queue, sub.taken, sub.handled, sub.discarded)) = [([], [0], [], [])] := by
  decide

end Fluxrig.Runtime
