import Fluxrig.Core.Precedence
import Fluxrig.Runtime.Requests

/-!
# Order within a subject

With subject order an emission never reaches the bus before an older one on its
subject that also reaches it, as long as the limit of the queue spares the item
the drain is publishing.  If it does not, that item is in flight and not in the
queue any more, and the next emission on its subject finds nothing to wait for.
-/

namespace Fluxrig.Runtime

open Fluxrig.Core Message

def Phase.held : Phase → List Text
  | .items pass => pass.held
  | .attempt pass _ _ => pass.held
  | .checking pass _ _ => pass.held
  | .publish pass _ _ => pass.held
  | .settle pass _ _ => pass.held
  | _ => []

def Phase.current : Phase → Option Item
  | .attempt _ item _ => some item
  | .checking _ item _ => some item
  | .publish _ item _ => some item
  | .settle _ item _ => some item
  | _ => none

/-- A pass goes through each subject in the order of the queue, or leaves the
rest of the subject alone. -/
structure Steady (queue : List Item) (phase : Phase) : Prop where
  nodup : phase.carries.Nodup
  before : ∀ item ∈ phase.carries, ∀ other, Precedes queue other item →
    other.subject = item.subject →
    Precedes phase.carries other item ∨ item.subject ∈ phase.held
  free : ∀ item, phase.current = some item → item.subject ∉ phase.held
  publishes : ∀ item, phase.publishing = some item → item ∈ queue

section

variable {cfg : OutboxSettings} {queue later : List Item} {phase : Phase}

/-- A drain between two passes. -/
lemma Steady.of_idle (hcarries : phase.carries = []) (hcurrent : phase.current = none)
    (hpublishing : phase.publishing = none) : Steady queue phase := by
  constructor <;> simp [hcarries, hcurrent, hpublishing]

/-- The queue changes and the item that is being published stays. -/
lemma Steady.change (hsteady : Steady queue phase)
    (hbefore : ∀ item ∈ phase.carries, ∀ other, Precedes later other item →
      Precedes queue other item)
    (hpublishes : ∀ item, phase.publishing = some item → item ∈ later) :
    Steady later phase where
  nodup := hsteady.nodup
  before item hmem other hprecedes := hsteady.before item hmem other
    (hbefore item hmem other hprecedes)
  free := hsteady.free
  publishes := hpublishes

/-- The first item of a pass is done with: it is not in the queue any more, or its
subject is left alone from now on. -/
lemma Steady.drop {item : Item} {rest : List Item} {held : List Text} {forwarded : ℕ}
    (hcarries : phase.carries = item :: rest) (hsteady : Steady queue phase)
    (hqueue : later.Sublist queue) (hkept : ∀ subject ∈ phase.held, subject ∈ held)
    (hdone : item ∉ later ∨ item.subject ∈ held) :
    Steady later (.items ⟨rest, held, forwarded⟩) := by
  have hnodup := hsteady.nodup
  rw [hcarries] at hnodup
  refine ⟨(List.nodup_cons.mp hnodup).2, ?_, nofun, nofun⟩
  intro next hnext other hprecedes hsubject
  have hmem : next ∈ phase.carries := hcarries ▸ List.mem_cons_of_mem item hnext
  by_cases hother : other = item
  · have hin := hprecedes.mem_left
    grind [Phase.held]
  · refine (hsteady.before next hmem other (hprecedes.mono hqueue) hsubject).imp ?_ (hkept _)
    intro hfirst
    rw [hcarries] at hfirst
    exact hfirst.of_cons hother

variable {rack : Rack}

/-- Nothing on the subject of the item that is being published stands before it. -/
lemma Steady.first {queue : List Item} {pass : Pass} {item other : Item} {tries : ℕ}
    (hsteady : Steady queue (.publish pass item tries)) (hne : other ≠ item)
    (hsubject : other.subject = item.subject) : ¬ Precedes queue other item := by
  intro hprecedes
  rcases hsteady.before item List.mem_cons_self other hprecedes hsubject with hfirst | hheld
  · exact not_precedes_head hsteady.nodup hne hfirst
  · exact hsteady.free item rfl hheld

lemma Steady.turn (hordered : cfg.ordered = true) (hcustody : Custody rack)
    {ended : Bool} {phase next : Phase} {sent : Option Item} {after : Outbox}
    (hdrain : ⟨phase, ended⟩ ∈ rack.drains)
    (hturn : Turn cfg ended rack.outbox phase sent next after)
    (hsteady : Steady rack.outbox.items phase) : Steady after.items next := by
  cases hturn with
  | snapshot =>
    constructor
    · exact hcustody.nodup.of_map Item.id
    · exact fun item _ other hprecedes _ => Or.inl hprecedes
    · exact nofun
    · exact nofun
  | skip _ _ _ _ hheld =>
    exact hsteady.drop rfl (List.Sublist.refl _) (fun _ hin => hin) (Or.inr hheld)
  | turn _ _ _ _ hfree =>
    refine ⟨hsteady.nodup, hsteady.before, ?_, nofun⟩
    intro current hcurrent
    rw [← Option.some.inj hcurrent]
    exact hfree hordered
  | abandon | refuse =>
    exact hsteady.drop rfl (List.Sublist.refl _)
      (fun _ hin => List.mem_cons_of_mem _ hin) (Or.inr List.mem_cons_self)
  | check | accept | invalid | retry =>
    exact ⟨hsteady.nodup, hsteady.before, hsteady.free, nofun⟩
  | queued _ item _ hholds =>
    refine ⟨hsteady.nodup, hsteady.before, hsteady.free, ?_⟩
    intro current hcurrent
    rw [← Option.some.inj hcurrent]
    exact (hcustody.holds_iff (hcustody.carried _ hdrain item List.mem_cons_self)).mp hholds
  | evicted _ item _ hgone =>
    have hnot : item ∉ rack.outbox.items := by
      intro hmem
      have hknown := hcustody.carried _ hdrain item List.mem_cons_self
      rw [(hcustody.holds_iff hknown).mpr hmem] at hgone
      exact absurd hgone.symm Bool.false_ne_true
    exact hsteady.drop rfl (List.Sublist.refl _) (fun _ hin => hin) (Or.inl hnot)
  | settle _ item dropped =>
    have hitems := remove_items rack.outbox item dropped
    have hnot : item ∉ (rack.outbox.remove item dropped).items := by
      intro hmem
      have hid := List.mem_map_of_mem (f := Item.id) hmem
      rw [hitems, eraseP_same, hcustody.nodup.mem_erase_iff] at hid
      exact hid.1 rfl
    refine hsteady.drop rfl ?_ (fun _ hin => hin) (Or.inl hnot)
    rw [hitems]
    exact List.eraseP_sublist
  | stop | look | stopped | empty | fruitless | repeats | interrupt | again | giveUp | idle =>
    exact .of_idle rfl rfl rfl

end

variable (cfg : OutboxSettings) (rack : Rack) (step : Step)

/-- The step puts a message into the queue. -/
def Rack.Parks : Prop :=
  ∃ id answer emission, step = .proceed id answer ∧ rack.emissions[id]? = some emission ∧
    emission.kind = .message ∧
    (emission.stage = .refused ∨
      emission.stage = .called ∧ ¬ Free cfg rack.outbox emission.subject)

/-- A message that is put into a full queue does not take the place of the item a
drain is publishing. -/
def Rack.Spares : Prop :=
  rack.Parks cfg step → cfg.max ≤ rack.outbox.items.length →
    ∀ item, rack.outbox.victim = some item →
    ∀ drain ∈ rack.drains, drain.phase.publishing ≠ some item

def Rack.Steady (rack : Rack) : Prop :=
  ∀ drain ∈ rack.drains, Runtime.Steady rack.outbox.items drain.phase

section

variable {cfg : OutboxSettings} {rack next : Rack}

lemma Rack.Steady.frame (hsteady : rack.Steady) (hitems : next.outbox.items = rack.outbox.items)
    (hdrains : ∀ drain ∈ next.drains, drain.phase = .top ∨
      ∃ before ∈ rack.drains, drain.phase = before.phase) : next.Steady := by
  intro drain hdrain
  rw [hitems]
  rcases hdrains drain hdrain with hnew | ⟨before, hbefore, hphase⟩
  · exact hnew ▸ .of_idle rfl rfl rfl
  · exact hphase ▸ hsteady before hbefore

lemma Rack.Steady.kickDrain (hsteady : rack.Steady) : rack.kickDrain.Steady := by
  cases hdraining : rack.outbox.draining with
  | true =>
    rw [kickDrain_of_draining hdraining]
    exact hsteady
  | false =>
    rw [kickDrain_of_idle hdraining]
    refine hsteady.frame rfl ?_
    intro drain hdrain
    rcases List.mem_append.mp hdrain with hold | hnew
    · exact Or.inr ⟨drain, hold, rfl⟩
    · rw [List.mem_singleton.mp hnew]
      exact Or.inl rfl

variable {box : Outbox}

lemma Rack.Steady.enqueue (hsteady : rack.Steady) (hcustody : Custody rack) {id : ℕ}
    {emission : Emission} {stage : Stage} (hemission : rack.emissions[id]? = some emission)
    (henqueues : Enqueues cfg rack.outbox id emission stage box)
    (hspared : ∀ item, Evicts cfg rack.outbox emission.kind item →
      ∀ drain ∈ rack.drains, drain.phase.publishing ≠ some item) :
    Rack.Steady { rack.advance id emission stage with outbox := box } := by
  intro drain hdrain
  obtain ⟨kept, hkept, hitems, hevicted⟩ := henqueues.items_eq
  apply (hsteady drain hdrain).change
  · intro item hmem other hprecedes
    have hne : item ≠ ⟨id, emission.subject, emission.kind⟩ := by
      intro heq
      exact (hcustody.carried drain hdrain item hmem).id_ne hemission henqueues.not_leaving
        (congrArg Item.id heq)
    have hbefore : Precedes box.items other item := hprecedes
    rw [hitems] at hbefore
    exact (hbefore.of_concat hne).mono hkept
  · intro item hpublishing
    have hmem := (hsteady drain hdrain).publishes item hpublishing
    have hstays : item ∈ kept := by
      by_contra hgone
      exact hspared item (hevicted item hmem hgone) drain hdrain hpublishing
    rw [hitems]
    exact List.mem_append_left _ hstays

/-- The condition on a step covers every eviction. -/
lemma Rack.Spares.evicts {id : ℕ} {answer : Answer}
    (hspares : rack.Spares cfg (.proceed id answer)) {emission : Emission}
    (hemission : rack.emissions[id]? = some emission) {stage : Stage}
    (henqueues : Enqueues cfg rack.outbox id emission stage box) {item : Item}
    (hevicts : Evicts cfg rack.outbox emission.kind item) :
    ∀ drain ∈ rack.drains, drain.phase.publishing ≠ some item := by
  have hparks : emission.stage = .refused ∨
      emission.stage = .called ∧ ¬ Free cfg rack.outbox emission.subject := by
    grind [henqueues.waiting, henqueues.held]
  exact hspares ⟨id, answer, emission, rfl, hemission, hevicts.message, hparks⟩
    hevicts.full item hevicts.victim

lemma Rack.Steady.turned (hordered : cfg.ordered = true) (hsteady : rack.Steady)
    (hcustody : Custody rack) {index : ℕ} {phase later : Phase} {ended : Bool}
    {sent : Option Item} (hdrain : rack.drains[index]? = some ⟨phase, ended⟩)
    (hturn : Turn cfg ended rack.outbox phase sent later box) :
    (rack.turned index ended sent later box).Steady := by
  have hmem := List.mem_of_getElem? hdrain
  intro drain hafter
  obtain ⟨place, hplace⟩ := List.mem_iff_getElem?.mp hafter
  cases hrunning : drain.running with
  | false =>
    obtain ⟨other, _⟩ := drain
    cases other <;> first | exact .of_idle rfl rfl rfl | nomatch hrunning
  | true =>
    rcases runs_set rfl ⟨hplace, hrunning⟩ with ⟨_, hnew⟩ | ⟨hne, hruns⟩
    · rw [hnew]
      exact (hsteady _ hmem).turn hordered hcustody hmem hturn
    · -- Another drain runs, so this one does not and its turn changes nothing.
      have hdone : (Drain.mk phase ended).running = false := by
        by_contra hbusy
        rw [Bool.not_eq_false] at hbusy
        exact hne (hcustody.single.unique hruns ⟨hdrain, hbusy⟩)
      obtain ⟨_, hbox, _⟩ := hturn.of_done hdone
      rw [hbox]
      exact hsteady drain (List.mem_of_getElem? hruns.1)

lemma Rack.Steady.move (hordered : cfg.ordered = true) {step : Step}
    (hmove : Move cfg rack step next) (hcustody : Custody rack)
    (hspares : rack.Spares cfg step) (hsteady : rack.Steady) : next.Steady := by
  cases hmove with
  | call | rest | advance | accept | absent | late => exact hsteady
  | enqueue hemission henqueues =>
    exact hsteady.enqueue hcustody hemission henqueues fun item hevicts =>
      hspares.evicts hemission henqueues hevicts
  | @finish id _ emission ok =>
    have hadvanced : (rack.advance id emission (.returned ok)).Steady := hsteady
    exact hadvanced.kickDrain
  | kick => exact hsteady.kickDrain
  | turn hdrain hturn => exact hsteady.turned hordered hcustody hdrain hturn
  | @cancel index drain hdrain =>
    refine hsteady.frame rfl ?_
    intro other hother
    rcases List.mem_or_eq_of_mem_set hother with hold | hnew
    · exact Or.inr ⟨other, hold, rfl⟩
    · exact Or.inr ⟨drain, List.mem_of_getElem? hdrain, by rw [hnew]⟩

end

/-- The emission is on its own way to the bus. -/
def Stage.direct : Stage → Bool
  | .publishing | .refused | .accepted => true
  | _ => false

/-- An emission is not on its own way to the bus, not in the queue before, and not
accepted while an older one on its subject is queued. -/
structure Behind (rack : Rack) : Prop where
  earlier : ∀ (id : ℕ) (emission : Emission), rack.emissions[id]? = some emission →
    ∀ other ∈ emission.older, other < id
  returned : ∀ (id : ℕ) (emission : Emission), rack.emissions[id]? = some emission →
    ∀ other ∈ emission.older, ∃ before, rack.emissions[other]? = some before ∧
      before.stage.isReturned = true
  sent : ∀ sent ∈ rack.sent, ∃ emission, rack.emissions[sent.id]? = some emission ∧
    emission.subject = sent.subject
  behind : ∀ (id : ℕ) (emission : Emission), rack.emissions[id]? = some emission →
    ∀ item ∈ rack.outbox.items, item.id ∈ emission.older →
    item.subject = emission.subject →
    emission.stage.direct = false ∧
      (∀ own, own.id = id → ¬ Precedes rack.outbox.items own item) ∧
      ∀ sent ∈ rack.sent, sent.id ≠ id

section

variable {cfg : OutboxSettings} {rack next : Rack}

variable {id : ℕ} {item : Item} {box : Outbox} {emission : Emission}

lemma mem_returned (hmem : id ∈ rack.returned) :
    ∃ before, rack.emissions[id]? = some before ∧ before.stage.isReturned = true := by
  have hfilter := (List.mem_filter.mp hmem).2
  cases hemission : rack.emissions[id]? with
  | none => simp [hemission] at hfilter
  | some before => exact ⟨before, rfl, by simpa [hemission] using hfilter⟩

lemma Known.id_lt {emissions : List Emission} (hknown : Known emissions item) :
    item.id < emissions.length := by
  obtain ⟨_, hemission, _⟩ := hknown.emitted
  exact (List.getElem?_eq_some_iff.mp hemission).1

lemma Extends.returned {before after : List Emission} (hextends : Extends before after)
    (hreturned : ∃ emission, before[id]? = some emission ∧ emission.stage.isReturned = true) :
    ∃ emission, after[id]? = some emission ∧ emission.stage.isReturned = true := by
  obtain ⟨emission, hemission, hstage⟩ := hreturned
  obtain ⟨later, hlater, hcontinues⟩ := hextends id emission hemission
  exact ⟨later, hlater, (hcontinues.returned hstage).symm ▸ hstage⟩

lemma Extends.subject {before after : List Emission} {subject : Text}
    (hextends : Extends before after)
    (hsubject : ∃ emission, before[id]? = some emission ∧ emission.subject = subject) :
    ∃ emission, after[id]? = some emission ∧ emission.subject = subject := by
  obtain ⟨emission, hemission, hsame⟩ := hsubject
  obtain ⟨later, hlater, hcontinues⟩ := hextends id emission hemission
  exact ⟨later, hlater, hcontinues.subject_eq.trans hsame⟩

section

variable (hbehind : Behind rack)

include hbehind

lemma Behind.call (hcustody : Custody rack) (subject : Text)
    (kind : Kind) : Behind (rack.call subject kind) := by
  obtain ⟨hearlier, hreturned, hsent, hbefore⟩ := hbehind
  have hextends : Extends rack.emissions (rack.call subject kind).emissions := extends_concat _ _
  constructor
  · intro id emission hemission other hother
    rcases Config.getElem?_concat hemission with hold | ⟨hid, rfl⟩
    · exact hearlier id emission hold other hother
    · obtain ⟨_, hfound, _⟩ := mem_returned hother
      exact hid ▸ (List.getElem?_eq_some_iff.mp hfound).1
  · intro id emission hemission other hother
    have hfound : ∃ before, rack.emissions[other]? = some before ∧
        before.stage.isReturned = true := by
      rcases Config.getElem?_concat hemission with hold | ⟨_, rfl⟩
      · exact hreturned id emission hold other hother
      · exact mem_returned hother
    exact hextends.returned hfound
  · intro sent hmem
    exact hextends.subject (hsent sent hmem)
  · intro id emission hemission item hmem holder hsame
    rcases Config.getElem?_concat hemission with hold | ⟨hid, rfl⟩
    · exact hbefore id emission hold item hmem holder hsame
    · refine ⟨rfl, ?_, ?_⟩
      · intro own hown hprecedes
        have hlt := (hcustody.queued own hprecedes.mem_left).id_lt
        omega
      · intro sent hmem
        obtain ⟨_, hfound, _⟩ := hsent sent hmem
        have hlt := (List.getElem?_eq_some_iff.mp hfound).1
        omega

/-- A step of emission `id`, given what it has to show about that emission. -/
lemma Behind.advance {id : ℕ} {emission : Emission}
    {stage : Stage} (hemission : rack.emissions[id]? = some emission)
    (hextends : Extends rack.emissions (rack.advance id emission stage).emissions)
    (hdirect : ∀ item ∈ rack.outbox.items, item.id ∈ emission.older →
      item.subject = emission.subject → emission.stage.direct = false →
      stage.direct = false) : Behind (rack.advance id emission stage) := by
  obtain ⟨hearlier, hreturned, hsent, hbefore⟩ := hbehind
  -- What the emission at a place was before the step.
  have hwas : ∀ (place : ℕ) (now : Emission),
      (rack.advance id emission stage).emissions[place]? = some now →
      (place = id ∧ now = { emission with stage := stage }) ∨ rack.emissions[place]? = some now :=
    fun _ _ hnow => (Config.getElem?_set_cases hnow).imp_right And.right
  constructor
  · intro place now hnow
    rcases hwas place now hnow with ⟨rfl, rfl⟩ | hold
    · exact hearlier place emission hemission
    · exact hearlier place now hold
  · intro place now hnow other hother
    rcases hwas place now hnow with ⟨rfl, rfl⟩ | hold
    · exact hextends.returned (hreturned place emission hemission other hother)
    · exact hextends.returned (hreturned place now hold other hother)
  · intro sent hmem
    exact hextends.subject (hsent sent hmem)
  · intro place now hnow item hmem holder hsame
    rcases hwas place now hnow with ⟨rfl, rfl⟩ | hold
    · exact (hbefore place emission hemission item hmem holder hsame).imp_left
        (hdirect item hmem holder hsame)
    · exact hbefore place now hold item hmem holder hsame

/-- The queue changes: what it keeps has no new entry before it, and nobody waits
behind what it takes in. -/
lemma Behind.requeue (hitems : ∀ item ∈ box.items,
      (item ∈ rack.outbox.items ∧ ∀ own, Precedes box.items own item →
        Precedes rack.outbox.items own item) ∨
      ∀ (id : ℕ) (emission : Emission), rack.emissions[id]? = some emission →
        item.id ∉ emission.older) : Behind { rack with outbox := box } where
  earlier := hbehind.earlier
  returned := hbehind.returned
  sent := hbehind.sent
  behind id emission hemission item hmem holder hsame := by
    rcases hitems item hmem with ⟨hold, hprecedes⟩ | hfresh
    · obtain ⟨hstage, hqueue, hsent⟩ :=
        hbehind.behind id emission hemission item hold holder hsame
      exact ⟨hstage, fun own hown hbefore => hqueue own hown (hprecedes own hbefore), hsent⟩
    · exact absurd holder (hfresh id emission hemission)

lemma Behind.requeue_sublist
    (hitems : box.items.Sublist rack.outbox.items) : Behind { rack with outbox := box } :=
  hbehind.requeue fun _ hmem => Or.inl ⟨hitems.mem hmem, fun _ hbefore => hbefore.mono hitems⟩

/-- An emission that has not returned is older than no other. -/
lemma Behind.not_older {place : ℕ} {other : Emission}
    (hemission : rack.emissions[id]? = some emission)
    (hstays : emission.stage.leaving = false) (hother : rack.emissions[place]? = some other) :
    id ∉ other.older := by
  intro holder
  obtain ⟨before, hbefore, hreturned⟩ := hbehind.returned place other hother id holder
  have hleaving := Stage.leaving_of_isReturned hreturned
  grind

lemma Behind.enqueue {stage : Stage} (hemission : rack.emissions[id]? = some emission)
    (henqueues : Enqueues cfg rack.outbox id emission stage box) :
    Behind { rack.advance id emission stage with outbox := box } := by
  obtain ⟨kept, hkept, hitems, _⟩ := henqueues.items_eq
  have hrequeued : Behind { rack with outbox := box } := by
    apply hbehind.requeue
    intro item hmem
    by_cases hid : item.id = id
    · right
      intro place other hother
      rw [hid]
      exact hbehind.not_older hemission henqueues.not_leaving hother
    · left
      have hne : item ≠ ⟨id, emission.subject, emission.kind⟩ :=
        fun heq => hid (congrArg Item.id heq)
      rw [hitems] at hmem ⊢
      have hin : item ∈ kept := by simpa [hne] using hmem
      exact ⟨hkept.mem hin, fun own hbefore => (hbefore.of_concat hne).mono hkept⟩
  have hdirect : stage.direct = false := by
    rcases henqueues.waiting with ⟨_, hstage⟩ | ⟨_, hstage⟩
    · rw [hstage]
      rfl
    · rw [hstage]
      rfl
  exact @Behind.advance { rack with outbox := box } hrequeued id emission stage hemission
    (extends_set_of_not_leaving hemission henqueues.not_leaving stage)
    fun _ _ _ _ _ => hdirect

/-- The bus accepts an emission that is behind nothing. -/
lemma Behind.accept {sent : Sent} {emission : Emission}
    (hemission : rack.emissions[sent.id]? = some emission)
    (hsubject : emission.subject = sent.subject)
    (hfirst : ∀ item ∈ rack.outbox.items, item.id ∈ emission.older →
      item.subject ≠ emission.subject) :
    Behind { rack with sent := rack.sent ++ [sent] } := by
  refine { hbehind with sent := ?_, behind := ?_ }
  · intro other hother
    rcases List.mem_append.mp hother with hold | hnew
    · exact hbehind.sent other hold
    · obtain rfl := List.mem_singleton.mp hnew
      exact ⟨emission, hemission, hsubject⟩
  · intro id known hknown item hmem holder hsame
    obtain ⟨hstage, hqueue, hsent⟩ := hbehind.behind id known hknown item hmem holder hsame
    refine ⟨hstage, hqueue, ?_⟩
    grind

/-- The drains of a Rack are not looked at. -/
lemma Behind.drains (drains : List Drain) :
    Behind { rack with drains := drains } := { hbehind with }

lemma Behind.kickDrain : Behind rack.kickDrain := by
  have hitems : rack.kickDrain.outbox.items = rack.outbox.items := by
    rw [Rack.kickDrain, Outbox.beginDrain]
    split <;> rfl
  have hqueue : Behind { rack with outbox := rack.kickDrain.outbox } :=
    hbehind.requeue_sublist (hitems ▸ List.Sublist.refl _)
  exact hqueue.drains rack.kickDrain.drains

end

/-- With subject order, a subject that is free has nothing queued. -/
lemma Free.not_queued (hordered : cfg.ordered = true) {subject : Text}
    (hfree : Free cfg rack.outbox subject) (hmem : item ∈ rack.outbox.items) :
    item.subject ≠ subject := by
  simp only [Free, hordered, Outbox.heldLocked, List.any_eq_false, decide_eq_true_eq,
    Bool.true_eq_false, false_or] at hfree
  exact hfree item hmem

lemma Advance.to_direct {free : Prop} {stage later : Stage}
    (hadvance : Advance free stage later) (hstage : stage.direct = false) :
    free ∨ later.direct = false := by
  cases hadvance with
  | pass hfree => exact Or.inl hfree
  | shut => exact Or.inr rfl
  | refuse | fail | drop | kick | finish => nomatch hstage

/-- The item a drain publishes is behind nothing in the queue. -/
lemma Behind.publishes (hbehind : Behind rack) (hsteady : rack.Steady) {pass : Pass}
    {current : Item} {tries : ℕ} {ended : Bool}
    (hdrain : ⟨.publish pass current tries, ended⟩ ∈ rack.drains)
    (hemission : rack.emissions[current.id]? = some emission)
    (hsubject : emission.subject = current.subject) (hmem : item ∈ rack.outbox.items)
    (holder : item.id ∈ emission.older) : item.subject ≠ emission.subject := by
  intro hsame
  obtain ⟨_, hqueue, _⟩ := hbehind.behind current.id emission hemission item hmem holder hsame
  have hpass := hsteady _ hdrain
  have hin : current ∈ rack.outbox.items := hpass.publishes current rfl
  have hne : item ≠ current := by
    intro heq
    rw [heq] at holder
    exact lt_irrefl _ (hbehind.earlier current.id emission hemission current.id holder)
  rcases precedes_or_precedes hin hmem hne.symm with hafter | hbefore
  · exact hqueue current rfl hafter
  · exact hpass.first hne (hsame.trans hsubject) hbefore

lemma Behind.turned (hbehind : Behind rack) (hcustody : Custody rack)
    (hsteady : rack.Steady) {index : ℕ} {phase later : Phase} {ended : Bool}
    {sent : Option Item} (hdrain : rack.drains[index]? = some ⟨phase, ended⟩)
    (hturn : Turn cfg ended rack.outbox phase sent later box) :
    Behind (rack.turned index ended sent later box) := by
  have hqueue : Behind { rack with outbox := box } := hbehind.requeue_sublist hturn.items_sublist
  have hdrained := hqueue.drains (rack.drains.set index ⟨later, ended⟩)
  cases hturn with
  | accept _ item =>
    have hmem := List.mem_of_getElem? hdrain
    obtain ⟨emission, hemission, hsubject, _, _⟩ :=
      (hcustody.carried _ hmem item List.mem_cons_self).emitted
    exact @Behind.accept _ hdrained ⟨item.id, item.subject, true⟩ emission hemission
      hsubject fun other hother holder =>
        hbehind.publishes hsteady hmem hemission hsubject hother holder
  | _ =>
    rw [Rack.turned, Option.map_none, Option.toList_none, List.append_nil]
    exact hdrained

lemma Behind.accept_direct (hbehind : Behind rack)
    (hemission : rack.emissions[id]? = some emission)
    (hstage : emission.stage = .publishing) :
    Behind { rack.advance id emission .accepted with
      sent := rack.sent ++ [⟨id, emission.subject, false⟩] } := by
  obtain ⟨hlt, _⟩ := List.getElem?_eq_some_iff.mp hemission
  have hpublishing : emission.stage.direct ≠ false := by
    rw [hstage]
    exact nofun
  have hstays : emission.stage.leaving = false := by
    rw [hstage]
    rfl
  have hadvanced : Behind (rack.advance id emission .accepted) :=
    hbehind.advance hemission (extends_set_of_not_leaving hemission hstays .accepted)
      fun _ _ _ _ hdirect => absurd hdirect hpublishing
  refine @Behind.accept _ hadvanced ⟨id, emission.subject, false⟩ _
    (List.getElem?_set_self hlt) rfl ?_
  intro item hmem holder hsame
  exact hpublishing (hbehind.behind id emission hemission item hmem holder hsame).1

lemma Behind.move (hordered : cfg.ordered = true) {step : Step}
    (hmove : Move cfg rack step next) (hcustody : Custody rack)
    (hsteady : rack.Steady) (hbehind : Behind rack) : Behind next := by
  cases hmove with
  | rest | absent | late => exact hbehind
  | call subject kind => exact hbehind.call hcustody subject kind
  | @advance id _ emission stage hemission hadvance =>
    apply hbehind.advance hemission
      (extends_set_of_not_leaving hemission hadvance.not_leaving stage)
    intro item hmem _ hsame hstays
    rcases hadvance.to_direct hstays with hfree | hdirect
    · exact absurd hsame (hfree.not_queued hordered hmem)
    · exact hdirect
  | enqueue hemission henqueues => exact hbehind.enqueue hemission henqueues
  | accept hemission hstage => exact hbehind.accept_direct hemission hstage
  | @finish id _ emission ok hemission hstage =>
    have hadvanced : Behind (rack.advance id emission (.returned ok)) := hbehind.advance hemission
        (extends_set hemission (fun _ => rfl) (by simp [hstage, Stage.isReturned]))
        fun _ _ _ _ _ => rfl
    exact hadvanced.kickDrain
  | kick => exact hbehind.kickDrain
  | turn hdrain hturn => exact hbehind.turned hcustody hsteady hdrain hturn
  | cancel => exact hbehind.drains _

end

/-- Of two emissions on one subject the bus did not accept the newer one first: the
one accepted later had not returned when the other was called. -/
def Rack.InOrder (rack : Rack) : Prop :=
  rack.sent.Pairwise fun earlier later => earlier.subject = later.subject →
    ∀ emission, rack.emissions[earlier.id]? = some emission → later.id ∉ emission.older

section

variable {cfg : OutboxSettings} {rack next : Rack}

/-- Two accepted emissions stay in order. -/
lemma Behind.older_eq (hbehind : Behind rack)
    (hextends : Extends rack.emissions next.emissions) {sent : Sent}
    (hsent : sent ∈ rack.sent) {now : Emission}
    (hnow : next.emissions[sent.id]? = some now) :
    ∃ emission, rack.emissions[sent.id]? = some emission ∧ now.older = emission.older := by
  obtain ⟨emission, hemission, _⟩ := hbehind.sent sent hsent
  obtain ⟨later, hlater, hcontinues⟩ := hextends sent.id emission hemission
  rw [hlater, Option.some.injEq] at hnow
  exact ⟨emission, hemission, hnow ▸ hcontinues.older_eq⟩

section

variable (hinorder : rack.InOrder) (hbehind : Behind rack)

include hinorder hbehind

lemma Rack.InOrder.mono (hextends : Extends rack.emissions next.emissions)
    (hsent : next.sent = rack.sent) : next.InOrder := by
  rw [Rack.InOrder, hsent]
  refine List.Pairwise.imp_of_mem ?_ hinorder
  intro earlier later hearlier _ horder hsame now hnow
  obtain ⟨emission, hemission, holder⟩ := hbehind.older_eq hextends hearlier hnow
  rw [holder]
  exact horder hsame emission hemission

lemma Rack.InOrder.append (hextends : Extends rack.emissions next.emissions) {sent : Sent}
    (hsent : next.sent = rack.sent ++ [sent])
    (hnewest : ∀ earlier ∈ rack.sent, earlier.subject = sent.subject →
      ∀ emission, rack.emissions[earlier.id]? = some emission → sent.id ∉ emission.older) :
    next.InOrder := by
  have hold : Rack.InOrder { next with sent := rack.sent } := hinorder.mono hbehind hextends rfl
  rw [Rack.InOrder, hsent, List.pairwise_append]
  refine ⟨hold, List.pairwise_singleton _ _, ?_⟩
  intro earlier hearlier later hlater hsame now hnow
  rw [List.mem_singleton.mp hlater] at hsame ⊢
  obtain ⟨emission, hemission, holder⟩ := hbehind.older_eq hextends hearlier hnow
  rw [holder]
  exact hnewest earlier hearlier hsame emission hemission

lemma Rack.InOrder.turned (hsteady : rack.Steady) {index : ℕ} {phase later : Phase}
    {ended : Bool} {sent : Option Item} {box : Outbox}
    (hdrain : rack.drains[index]? = some ⟨phase, ended⟩)
    (hturn : Turn cfg ended rack.outbox phase sent later box) :
    (rack.turned index ended sent later box).InOrder := by
  cases hturn with
  | accept _ item =>
    refine hinorder.append hbehind (.refl _) rfl ?_
    intro earlier hearlier hsame emission hemission holder
    have hqueued : item ∈ rack.outbox.items :=
      (hsteady _ (List.mem_of_getElem? hdrain)).publishes item rfl
    obtain ⟨known, hknown, hsubject⟩ := hbehind.sent earlier hearlier
    rw [hemission, Option.some.injEq] at hknown
    have hsubject' : item.subject = emission.subject := by
      rw [hknown, hsubject, hsame]
    obtain ⟨_, _, hunsent⟩ :=
      hbehind.behind earlier.id emission hemission item hqueued holder hsubject'
    exact hunsent earlier hearlier rfl
  | _ => exact hinorder.mono hbehind (.refl _) (List.append_nil _)

end

lemma Rack.InOrder.move {step : Step} (hmove : Move cfg rack step next)
    (hbehind : Behind rack) (hsteady : rack.Steady) (hinorder : rack.InOrder) :
    next.InOrder := by
  have hextends := hmove.extends
  cases hmove with
  | @accept id _ emission hemission hstage =>
    have hstays : emission.stage.leaving = false := by
      rw [hstage]
      rfl
    refine hinorder.append hbehind hextends rfl ?_
    intro earlier _ _ other hother
    exact hbehind.not_older hemission hstays hother
  | turn hdrain hturn => exact hinorder.turned hbehind hsteady hdrain hturn
  | _ => exact hinorder.mono hbehind hextends rfl

end

/-- With subject order the bus accepts the emissions on each subject in the order
they were made, if the limit never takes the item a drain is publishing. -/
theorem accepted_in_order {cfg : OutboxSettings} (hordered : cfg.ordered = true)
    (steps : List Step)
    (hspares : ∀ time step, steps[time]? = some step →
      (rackAt cfg steps time).Spares cfg step) (time : ℕ) :
    (rackAt cfg steps time).InOrder := by
  have hall : (rackAt cfg steps time).Steady ∧ Behind (rackAt cfg steps time) ∧
      (rackAt cfg steps time).InOrder := by
    refine @rackAt_induction cfg steps
      (fun rack => rack.Steady ∧ Behind rack ∧ rack.InOrder) ?_ ?_ time
    · exact ⟨nofun, ⟨nofun, nofun, nofun, nofun⟩, List.Pairwise.nil⟩
    · intro now step next hstep hmove ⟨hsteady, hbehind, hinorder⟩
      have hcustody := custody_rackAt cfg steps now
      exact ⟨hsteady.move hordered hmove hcustody (hspares now step hstep),
        hbehind.move hordered hmove hcustody hsteady,
        hinorder.move hmove hbehind hsteady⟩
  exact hall.2.2

def orderedSettings (max : ℕ) (hpos : 0 < max) : OutboxSettings :=
  ⟨max, defaultOutboxDrainRetries, true, hpos⟩

/-- The bus refuses a message, the next one on its subject queues behind it, and a
drain forwards both. -/
def outage : List Step :=
  [.call (utf8 "a") .message, .proceed 0 .refused, .proceed 0 .refused, .proceed 0 .refused,
    .call (utf8 "a") .message, .proceed 1 .refused, .proceed 1 .refused] ++
  List.replicate 11 (.drain 0 .accepted)

theorem outage_in_order :
    (rackAt (orderedSettings 3 (by decide)) outage 18).sent.map Sent.id = [0, 1] ∧
      (rackAt (orderedSettings 3 (by decide)) outage 18).InOrder := by
  refine ⟨by decide, accepted_in_order rfl outage ?_ 18⟩
  intro time step hstep _ hfull
  have hroom : ∀ time < 18,
      (rackAt (orderedSettings 3 (by decide)) outage time).outbox.items.length < 3 := by
    decide
  have hlt : time < 18 := (List.getElem?_eq_some_iff.mp hstep).1
  exact absurd hfull (not_le.mpr (hroom time hlt))

/-- While a drain publishes message 0 a message on another subject takes its place in
the queue.  Message 2, on the subject of message 0, then finds nothing queued. -/
def evictedInFlight : List Step :=
  [.call (utf8 "a") .message, .proceed 0 .refused, .proceed 0 .refused, .proceed 0 .refused,
    .kick, .drain 0 .refused, .drain 0 .refused, .drain 0 .refused, .drain 0 .refused,
    .drain 0 .refused,
    .call (utf8 "b") .message, .proceed 1 .refused, .proceed 1 .refused, .proceed 1 .refused,
    .call (utf8 "a") .message, .proceed 2 .accepted, .proceed 2 .accepted,
    .drain 0 .accepted]

theorem evictedInFlight_overtaken :
    ¬ (rackAt (orderedSettings 1 (by decide)) evictedInFlight 18).InOrder := by
  intro hinorder
  have hsent : (rackAt (orderedSettings 1 (by decide)) evictedInFlight 18).sent =
      [⟨2, utf8 "a", false⟩, ⟨0, utf8 "a", true⟩] := rfl
  have hemission : (rackAt (orderedSettings 1 (by decide)) evictedInFlight 18).emissions[2]? =
      some ⟨utf8 "a", .message, .accepted, [0, 1]⟩ := rfl
  have hnot := (List.pairwise_cons.mp hinorder).1 _ List.mem_cons_self rfl _ hemission
  exact hnot List.mem_cons_self

end Fluxrig.Runtime
