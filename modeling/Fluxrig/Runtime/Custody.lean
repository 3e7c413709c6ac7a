import Fluxrig.Core.Program
import Fluxrig.Runtime.Moves

/-!
# Who has an emission

An emission is put into the queue once, and the drain that runs is the only one.
-/

namespace Fluxrig.Runtime

open Fluxrig.Core Message

/-- Nothing puts an emission in this stage into the queue any more. -/
def Stage.leaving : Stage → Bool
  | .kicking _ | .returned _ => true
  | _ => false

variable {stage : Stage} {emissions : List Emission} {id index : ℕ} {emission : Emission}
  {cfg : OutboxSettings} {box after : Outbox} {rack next : Rack} {item : Item}
  {drain : Drain} {ended : Bool} {phase : Phase} {sent : Option Item}

lemma Stage.leaving_of_isReturned (hreturned : stage.isReturned = true) :
    stage.leaving = true := by
  cases stage <;> first | rfl | exact absurd hreturned Bool.false_ne_true

/-- What an emission is called with does not change, and it never goes back. -/
structure Emission.Continues (emission later : Emission) : Prop where
  subject_eq : later.subject = emission.subject
  kind_eq : later.kind = emission.kind
  older_eq : later.older = emission.older
  leaving : emission.stage.leaving = true → later.stage.leaving = true
  returned : emission.stage.isReturned = true → later.stage = emission.stage

lemma Emission.Continues.refl (emission : Emission) : emission.Continues emission :=
  ⟨rfl, rfl, rfl, id, fun _ => rfl⟩

def Extends (before after : List Emission) : Prop :=
  ∀ (id : ℕ) (emission : Emission), before[id]? = some emission →
    ∃ later, after[id]? = some later ∧ emission.Continues later

lemma Extends.refl (emissions : List Emission) : Extends emissions emissions :=
  fun _ emission hemission => ⟨emission, hemission, .refl emission⟩

lemma extends_concat (emissions : List Emission) (newest : Emission) :
    Extends emissions (emissions ++ [newest]) := by
  intro id emission hemission
  obtain ⟨hlt, _⟩ := List.getElem?_eq_some_iff.mp hemission
  refine ⟨emission, ?_, .refl emission⟩
  rw [List.getElem?_append_left hlt]
  exact hemission

lemma extends_set (hemission : emissions[id]? = some emission)
    (hleaving : emission.stage.leaving = true → stage.leaving = true)
    (hreturned : emission.stage.isReturned = true → stage = emission.stage) :
    Extends emissions (emissions.set id { emission with stage := stage }) := by
  intro other known hknown
  by_cases hother : id = other
  · refine ⟨{ emission with stage := stage }, by grind, ?_⟩
    constructor <;> grind
  · exact ⟨known, (List.getElem?_set_ne hother).trans hknown, .refl known⟩

lemma Advance.not_leaving {free : Prop} {next : Stage}
    (hadvance : Advance free stage next) : stage.leaving = false := by
  cases hadvance <;> rfl

lemma Enqueues.not_leaving (henqueues : Enqueues cfg box id emission stage after) :
    emission.stage.leaving = false := by
  have hwaiting := henqueues.waiting
  grind [Stage.leaving]

/-- An emission that is not on its way out may go to any stage. -/
lemma extends_set_of_not_leaving (hemission : emissions[id]? = some emission)
    (hstays : emission.stage.leaving = false) (stage : Stage) :
    Extends emissions (emissions.set id { emission with stage := stage }) := by
  have hnot := @Stage.leaving_of_isReturned emission.stage
  exact extends_set hemission (by simp [hstays]) (by grind)

/-- What an emission is called with stays as it is. -/
lemma Move.extends {step : Step} (hmove : Move cfg rack step next) :
    Extends rack.emissions next.emissions := by
  cases hmove with
  | call => exact extends_concat _ _
  | advance hemission hadvance =>
    exact extends_set_of_not_leaving hemission hadvance.not_leaving _
  | enqueue hemission henqueues =>
    exact extends_set_of_not_leaving hemission henqueues.not_leaving _
  | accept hemission hstage =>
    apply extends_set_of_not_leaving hemission
    rw [hstage]
    rfl
  | finish hemission hstage =>
    exact extends_set hemission (fun _ => rfl) (by simp [hstage, Stage.isReturned])
  | rest | kick | absent | turn | late | cancel => exact .refl _

/-- The item is an emission that nothing puts into the queue again. -/
structure Known (emissions : List Emission) (item : Item) : Prop where
  emitted : ∃ emission, emissions[item.id]? = some emission ∧
    emission.subject = item.subject ∧ emission.kind = item.kind ∧
    emission.stage.leaving = true

lemma Known.mono {before after : List Emission} (hknown : Known before item)
    (hextends : Extends before after) : Known after item := by
  obtain ⟨emission, hemission, hsubject, hkind, hleaving⟩ := hknown.emitted
  obtain ⟨later, hlater, hcontinues⟩ := hextends item.id emission hemission
  exact ⟨later, hlater, hcontinues.subject_eq.trans hsubject,
    hcontinues.kind_eq.trans hkind, hcontinues.leaving hleaving⟩

/-- Known items are told apart by their ids. -/
lemma Known.eq_of_id {other : Item} (hitem : Known emissions item)
    (hother : Known emissions other) (hid : item.id = other.id) : item = other := by
  obtain ⟨emission, hemission, hsubject, hkind, _⟩ := hitem.emitted
  obtain ⟨same, hsame, hsubject', hkind', _⟩ := hother.emitted
  cases item with
  | mk => cases other; simp_all

lemma Known.id_ne (hknown : Known emissions item)
    (hemission : emissions[id]? = some emission) (hstays : emission.stage.leaving = false) :
    item.id ≠ id := by
  intro hid
  obtain ⟨known, hfound, _, _, hleaving⟩ := hknown.emitted
  rw [hid, hemission, Option.some.injEq] at hfound
  rw [← hfound, hstays] at hleaving
  exact Bool.false_ne_true hleaving

/-- The items a drain still has to look at. -/
def Phase.carries : Phase → List Item
  | .items pass => pass.rest
  | .attempt pass item _ => item :: pass.rest
  | .checking pass item _ => item :: pass.rest
  | .publish pass item _ => item :: pass.rest
  | .settle pass item _ => item :: pass.rest
  | _ => []

/-- The drain at this place, if it runs. -/
def Rack.Runs (rack : Rack) (index : ℕ) (drain : Drain) : Prop :=
  rack.drains[index]? = some drain ∧ drain.running = true

/-- Only the latest drain can run, and it does exactly as long as the outbox is
marked as draining. -/
structure Single (rack : Rack) : Prop where
  last : ∀ index drain, rack.Runs index drain →
    index + 1 = rack.drains.length ∧ rack.outbox.draining = true
  active : rack.outbox.draining = true → ∃ index drain, rack.Runs index drain

lemma Single.unique (hsingle : Single rack) {other : ℕ} {drain' : Drain}
    (hruns : rack.Runs index drain) (hruns' : rack.Runs other drain') : index = other :=
  Nat.succ_injective ((hsingle.last index drain hruns).1.trans
    (hsingle.last other drain' hruns').1.symm)

lemma Single.of_frame (hsingle : Single rack) (hdrains : next.drains = rack.drains)
    (hdraining : next.outbox.draining = rack.outbox.draining) : Single next := by
  obtain ⟨hlast, hactive⟩ := hsingle
  constructor <;> simpa only [Rack.Runs, hdrains, hdraining]

lemma Single.kickDrain (hsingle : Single rack) : Single rack.kickDrain := by
  cases hdraining : rack.outbox.draining with
  | true =>
    rw [kickDrain_of_draining hdraining]
    exact hsingle.of_frame rfl rfl
  | false =>
    have hlast := hsingle.last
    simp only [Rack.Runs] at hlast
    rw [kickDrain_of_idle hdraining]
    refine ⟨?_, fun _ => ⟨rack.drains.length, ⟨.top, false⟩, List.getElem?_concat_length, rfl⟩⟩
    grind [Rack.Runs]

/-- A turn ends the drain exactly when it marks the outbox as idle. -/
lemma Turn.running {next : Phase} (hturn : Turn cfg ended box phase sent next after)
    (hruns : (Drain.mk phase ended).running = true) :
    ((Drain.mk next ended).running = true ∧ after.draining = box.draining) ∨
      ((Drain.mk next ended).running = false ∧ after.draining = false) := by
  cases hturn with
  | stopped | empty | giveUp => exact Or.inr ⟨rfl, rfl⟩
  | idle => exact absurd hruns Bool.false_ne_true
  | settle =>
    left
    refine ⟨rfl, ?_⟩
    rw [Outbox.remove]
    split <;> rfl
  | _ => exact Or.inl ⟨rfl, rfl⟩

lemma Turn.of_done {next : Phase} (hturn : Turn cfg ended box phase sent next after)
    (hdone : (Drain.mk phase ended).running = false) :
    next = phase ∧ after = box ∧ sent = none := by
  cases hturn with
  | idle => exact ⟨rfl, rfl, rfl⟩
  | _ => exact absurd hdone Bool.noConfusion

/-- A drain that runs after another one was changed is that one or ran before. -/
lemma runs_set {place : ℕ} {changed : Drain}
    (hdrains : next.drains = rack.drains.set index changed) (hruns : next.Runs place drain) :
    (place = index ∧ drain = changed) ∨ (place ≠ index ∧ rack.Runs place drain) := by
  obtain ⟨hdrain, hrunning⟩ := hruns
  rw [hdrains] at hdrain
  rcases Config.getElem?_set_cases hdrain with hself | ⟨hplace, hbefore⟩
  · exact Or.inl hself
  · exact Or.inr ⟨hplace, hbefore, hrunning⟩

lemma Single.set {changed : Drain} (hsingle : Single rack)
    (hdrain : rack.drains[index]? = some drain)
    (hdrains : next.drains = rack.drains.set index changed)
    (hturn : (changed.running = drain.running ∧ next.outbox.draining = rack.outbox.draining) ∨
      (drain.running = true ∧ changed.running = false ∧
        next.outbox.draining = false)) : Single next := by
  have hlast := hsingle.last
  simp only [Rack.Runs] at hlast
  constructor
  · grind [Rack.Runs]
  · intro hactive
    obtain ⟨place, other, hruns⟩ := hsingle.active (by grind)
    by_cases hplace : index = place
    · exact ⟨index, changed, by grind [Rack.Runs]⟩
    · exact ⟨place, other, by grind [Rack.Runs]⟩

lemma Single.turned {next : Phase} (hsingle : Single rack)
    (hdrain : rack.drains[index]? = some ⟨phase, ended⟩)
    (hturn : Turn cfg ended rack.outbox phase sent next box) :
    Single (rack.turned index ended sent next box) := by
  apply hsingle.set hdrain rfl
  cases hruns : (Drain.mk phase ended).running with
  | true =>
    rcases hturn.running hruns with ⟨hgoes, hdraining⟩ | hends
    · exact Or.inl ⟨hgoes, hdraining⟩
    · exact Or.inr ⟨rfl, hends⟩
  | false =>
    obtain ⟨hphase, hbox, _⟩ := hturn.of_done hruns
    left
    rw [hphase, hruns]
    exact ⟨rfl, congrArg Outbox.draining hbox⟩

lemma Single.move {step : Step} (hmove : Move cfg rack step next)
    (hsingle : Single rack) : Single next := by
  cases hmove with
  | rest | absent | late => exact hsingle
  | call | advance | accept => exact hsingle.of_frame rfl rfl
  | enqueue _ henqueues => exact hsingle.of_frame rfl henqueues.draining_eq
  | @finish id _ emission ok =>
    have hadvanced : Single (rack.advance id emission (.returned ok)) := hsingle.of_frame rfl rfl
    exact hadvanced.kickDrain
  | kick => exact hsingle.kickDrain
  | turn hdrain hturn => exact hsingle.turned hdrain hturn
  | cancel hdrain => exact hsingle.set hdrain rfl (Or.inl ⟨rfl, rfl⟩)

/-- Every item of the queue and of a pass is an emission on its way out, and no
emission is queued twice. -/
structure Custody (rack : Rack) : Prop where
  single : Single rack
  nodup : (rack.outbox.items.map Item.id).Nodup
  queued : ∀ item ∈ rack.outbox.items, Known rack.emissions item
  carried : ∀ drain ∈ rack.drains, ∀ item ∈ drain.phase.carries, Known rack.emissions item

lemma Custody.holds_iff (hcustody : Custody rack) (hknown : Known rack.emissions item) :
    rack.outbox.holds item = true ↔ item ∈ rack.outbox.items := by
  rw [Outbox.holds, List.any_eq_true]
  constructor
  · rintro ⟨other, hmem, hsame⟩
    have hid : item.id = other.id := of_decide_eq_true hsame
    rw [hknown.eq_of_id (hcustody.queued other hmem) hid]
    exact hmem
  · intro hmem
    exact ⟨item, hmem, decide_eq_true rfl⟩

lemma eraseP_same (items : List Item) (item : Item) :
    (items.eraseP item.same).map Item.id = (items.map Item.id).erase item.id := by
  induction items with
  | nil => rfl
  | cons head rest ih =>
    by_cases hid : item.id = head.id
    · have hsame : item.same head = true := decide_eq_true hid
      rw [List.eraseP_cons_of_pos hsame, List.map_cons, hid, List.erase_cons_head]
    · have hnot : ¬ item.same head = true := by
        simpa only [Item.same, decide_eq_true_eq] using hid
      rw [List.eraseP_cons_of_neg hnot, List.map_cons, List.map_cons, ih,
        List.erase_cons_tail (by simpa using Ne.symm hid)]

lemma remove_items (box : Outbox) (item : Item) (dropped : Bool) :
    (box.remove item dropped).items = box.items.eraseP item.same := by
  rw [Outbox.remove]
  split
  · rfl
  next hgone =>
    rw [List.eraseP_of_forall_not]
    intro other hother hsame
    exact hgone (List.any_eq_true.mpr ⟨other, hother, hsame⟩)

lemma Turn.items_sublist {next : Phase}
    (hturn : Turn cfg ended box phase sent next after) : after.items.Sublist box.items := by
  cases hturn with
  | settle =>
    rw [remove_items]
    exact List.eraseP_sublist
  | _ => exact List.Sublist.refl _

lemma Turn.carries {next : Phase} (hturn : Turn cfg ended box phase sent next after)
    (hmem : item ∈ next.carries) : item ∈ phase.carries ∨ item ∈ box.items := by
  cases hturn with
  | snapshot => exact Or.inr hmem
  | skip | abandon | evicted | refuse | settle => exact Or.inl (List.mem_cons_of_mem _ hmem)
  | stop | look | stopped | empty | fruitless | repeats | interrupt | again | giveUp | idle =>
    nomatch hmem
  | turn | check | queued | accept | invalid | retry => exact Or.inl hmem

section

variable {cfg : OutboxSettings} {rack next : Rack}

section

variable (hcustody : Custody rack)

include hcustody

/-- A step that puts nothing into the queue. -/
lemma Custody.mono (hsingle : Single next) (hextends : Extends rack.emissions next.emissions)
    (hitems : next.outbox.items.Sublist rack.outbox.items)
    (hcarries : ∀ drain ∈ next.drains, ∀ item ∈ drain.phase.carries,
      item ∈ rack.outbox.items ∨ ∃ before ∈ rack.drains, item ∈ before.phase.carries) :
    Custody next where
  single := hsingle
  nodup := hcustody.nodup.sublist (hitems.map Item.id)
  queued item hmem := (hcustody.queued item (hitems.mem hmem)).mono hextends
  carried drain hdrain item hmem := by
    rcases hcarries drain hdrain item hmem with hqueued | ⟨before, hbefore, hcarried⟩
    · exact (hcustody.queued item hqueued).mono hextends
    · exact (hcustody.carried before hbefore item hcarried).mono hextends

/-- A step that leaves the drains alone and puts nothing into the queue. -/
lemma Custody.frame (hsingle : Single next) (hextends : Extends rack.emissions next.emissions)
    (hitems : next.outbox.items = rack.outbox.items) (hdrains : next.drains = rack.drains) :
    Custody next := by
  apply hcustody.mono hsingle hextends
  · rw [hitems]
  · intro drain hdrain item hmem
    rw [hdrains] at hdrain
    exact Or.inr ⟨drain, hdrain, hmem⟩

lemma Custody.enqueue {id : ℕ} {emission : Emission} {stage : Stage} {box : Outbox}
    (hemission : rack.emissions[id]? = some emission)
    (henqueues : Enqueues cfg rack.outbox id emission stage box) :
    Custody { rack.advance id emission stage with outbox := box } := by
  have hextends : Extends rack.emissions (rack.advance id emission stage).emissions :=
    extends_set_of_not_leaving hemission henqueues.not_leaving stage
  have hleaving : stage.leaving = true := by grind [henqueues.waiting, Stage.leaving]
  obtain ⟨kept, hkept, hitems, _⟩ := henqueues.items_eq
  obtain ⟨hlt, _⟩ := List.getElem?_eq_some_iff.mp hemission
  constructor
  · exact hcustody.single.of_frame rfl henqueues.draining_eq
  · rw [hitems, List.map_append, List.nodup_append]
    refine ⟨hcustody.nodup.sublist (hkept.map Item.id), List.nodup_singleton id, ?_⟩
    intro left hleft right hright
    obtain ⟨item, hitem, hid⟩ := List.mem_map.mp hleft
    rw [List.mem_singleton.mp hright, ← hid]
    exact (hcustody.queued item (hkept.mem hitem)).id_ne hemission henqueues.not_leaving
  · intro item hmem
    rw [hitems, List.mem_append, List.mem_singleton] at hmem
    rcases hmem with hold | rfl
    · exact (hcustody.queued item (hkept.mem hold)).mono hextends
    · exact ⟨_, List.getElem?_set_self hlt, rfl, rfl, hleaving⟩
  · intro drain hdrain item hmem
    exact (hcustody.carried drain hdrain item hmem).mono hextends

lemma Custody.kickDrain : Custody rack.kickDrain := by
  cases hdraining : rack.outbox.draining with
  | true =>
    have hsingle := hcustody.single.kickDrain
    rw [kickDrain_of_draining hdraining] at hsingle ⊢
    exact hcustody.frame hsingle (.refl _) rfl rfl
  | false =>
    have hsingle := hcustody.single.kickDrain
    rw [kickDrain_of_idle hdraining] at hsingle ⊢
    apply hcustody.mono hsingle (.refl _) (List.Sublist.refl _)
    intro drain hdrain item hmem
    rcases List.mem_append.mp hdrain with hold | hnew
    · exact Or.inr ⟨drain, hold, hmem⟩
    · rw [List.mem_singleton.mp hnew] at hmem
      nomatch hmem

lemma Custody.turned {later : Phase} (hdrain : rack.drains[index]? = some ⟨phase, ended⟩)
    (hturn : Turn cfg ended rack.outbox phase sent later box) :
    Custody (rack.turned index ended sent later box) := by
  apply hcustody.mono (hcustody.single.turned hdrain hturn) (.refl _) hturn.items_sublist
  intro drain hmem item hcarries
  rcases List.mem_or_eq_of_mem_set hmem with hold | hnew
  · exact Or.inr ⟨drain, hold, hcarries⟩
  · rw [hnew] at hcarries
    rcases hturn.carries hcarries with hbefore | hqueued
    · exact Or.inr ⟨_, List.mem_of_getElem? hdrain, hbefore⟩
    · exact Or.inl hqueued

end

lemma Custody.move {step : Step} (hmove : Move cfg rack step next)
    (hcustody : Custody rack) : Custody next := by
  have hextends := hmove.extends
  have hsingle := hcustody.single.move hmove
  cases hmove with
  | rest | absent | late => exact hcustody
  | call | advance | accept => exact hcustody.frame hsingle hextends rfl rfl
  | enqueue hemission henqueues => exact hcustody.enqueue hemission henqueues
  | @finish id _ emission ok hemission _ =>
    have hadvanced : Custody (rack.advance id emission (.returned ok)) :=
      hcustody.frame (hcustody.single.of_frame rfl rfl) hextends rfl rfl
    exact hadvanced.kickDrain
  | kick => exact hcustody.kickDrain
  | turn hdrain hturn => exact hcustody.turned hdrain hturn
  | @cancel index drain hdrain =>
    apply hcustody.mono hsingle (.refl _) (List.Sublist.refl _)
    intro other hmem item hcarries
    rcases List.mem_or_eq_of_mem_set hmem with hold | hnew
    · exact Or.inr ⟨other, hold, hcarries⟩
    · rw [hnew] at hcarries
      exact Or.inr ⟨drain, List.mem_of_getElem? hdrain, hcarries⟩

end

lemma custody_rackAt (cfg : OutboxSettings) (steps : List Step) (time : ℕ) :
    Custody (rackAt cfg steps time) := by
  apply rackAt_invariant
  · constructor
    · exact ⟨fun _ _ hruns => absurd hruns.1 (by simp [Rack.new]),
        fun hactive => absurd hactive Bool.false_ne_true⟩
    · exact List.nodup_nil
    · exact fun _ hmem => absurd hmem List.not_mem_nil
    · exact fun _ hmem => absurd hmem List.not_mem_nil
  · exact Custody.move

end Fluxrig.Runtime
