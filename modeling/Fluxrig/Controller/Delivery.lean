import Fluxrig.Controller.Scenario
import Fluxrig.Core.Timeline

/-!
# Which Rack has the active scenario

`Activate` holds the mutex `mu` from its start to the end of its push.
`PushActiveToRackSince` takes it only to read the active scenario; it then looks at the
delivery record, publishes and writes the record without it.  The record of a Rack names
the activation that is current when the record is written, which need not be the one
whose scenario was published.

A push that is skipped is one that the Rack has received, as long as no activation
replaces the active scenario while a push that has read it is still under way.
-/

namespace Fluxrig.Controller

open Fluxrig.Core Message

structure Delivery where
  activation : UInt64
  time : ℕ

/-- Where a goroutine stands in `Activate` or `PushActiveToRackSince`.  The two share the
loop of `pushScenarioToRacks`; `holdsLock` tells them apart there. -/
inductive Thread where
  | idle
  /-- `Activate` before `c.active = &s`. -/
  | preparing
  /-- `Activate` between `c.active = &s` and `c.activation++`. -/
  | committed (active : Active)
  /-- `PushActiveToRackSince` with what it read, before it looks at the record. -/
  | checking (active : Active) (rack : Text) (since : ℕ)
  /-- In the loop over the targets. -/
  | pushing (holdsLock : Bool) (active : Active) (targets : List Text)
  /-- Published to the Rack, before `recordDelivery`. -/
  | recording (holdsLock : Bool) (active : Active) (rack : Text) (targets : List Text)

/-- The controller and the goroutines in it.  `published` is what was last published to
each Rack. -/
structure Mixer where
  active : Option Active
  activation : UInt64
  delivered : Text → Option Delivery
  published : Text → Option Active
  lock : Option ℕ
  threads : ℕ → Thread

/-- What becomes of one target: it is left out because the Rack is not registered, the
payload cannot be encoded or the bus refuses it; it is published and the bus reports an
error; or it is published. -/
inductive Answer where
  | skipped
  | unconfirmed
  | published

/-- The atomic steps of a goroutine, with what it learns from outside.  A zero `since` is
the zero time. -/
inductive Step where
  | activate (thread : ℕ)
  | refuse (thread : ℕ)
  | commit (thread : ℕ) (active : Active)
  | count (thread : ℕ) (listed : List Text)
  | pushActiveToRackSince (thread : ℕ) (rack : Text) (since : ℕ) (listed : List Text)
  | check (thread : ℕ) (listed : List Text)
  | publish (thread : ℕ) (answer : Answer)
  | recordDelivery (thread : ℕ) (now : ℕ)
  | finish (thread : ℕ)

namespace Mixer

/-- The goroutine goes on to `place`. -/
def goto (mixer : Mixer) (thread : ℕ) (place : Thread) : Mixer :=
  { mixer with threads := Function.update mixer.threads thread place }

/-- The record says that the Rack received the current activation after `since`. -/
def hasDelivery (mixer : Mixer) (rack : Text) (since : ℕ) : Bool :=
  match mixer.delivered rack with
  | some delivery => delivery.activation = mixer.activation && since < delivery.time
  | none => false

/-- A step that the goroutine cannot take changes nothing. -/
def take (mixer : Mixer) : Step → Mixer
  | .activate thread =>
      match mixer.threads thread, mixer.lock with
      | .idle, none => { mixer.goto thread .preparing with lock := some thread }
      | _, _ => mixer
  | .refuse thread =>
      match mixer.threads thread with
      | .preparing => { mixer.goto thread .idle with lock := none }
      | _ => mixer
  | .commit thread active =>
      match mixer.threads thread with
      | .preparing => { mixer.goto thread (.committed active) with active := some active }
      | _ => mixer
  | .count thread listed =>
      match mixer.threads thread with
      | .committed active =>
          { mixer.goto thread (.pushing true active (pushTargets active.scenario listed []))
            with activation := mixer.activation + 1 }
      | _ => mixer
  | .pushActiveToRackSince thread rack since listed =>
      match mixer.threads thread, mixer.lock, mixer.active with
      | .idle, none, some active =>
          if since = 0 then
            mixer.goto thread (.pushing false active (pushTargets active.scenario listed rack))
          else mixer.goto thread (.checking active rack since)
      | _, _, _ => mixer
  | .check thread listed =>
      match mixer.threads thread with
      | .checking active rack since =>
          if mixer.hasDelivery rack since then mixer.goto thread .idle
          else
            mixer.goto thread (.pushing false active (pushTargets active.scenario listed rack))
      | _ => mixer
  | .publish thread answer =>
      match mixer.threads thread with
      | .pushing holdsLock active (rack :: targets) =>
          match answer with
          | .skipped => mixer.goto thread (.pushing holdsLock active targets)
          | .unconfirmed =>
              { mixer.goto thread (.pushing holdsLock active targets) with
                published := Function.update mixer.published rack (some active) }
          | .published =>
              { mixer.goto thread (.recording holdsLock active rack targets) with
                published := Function.update mixer.published rack (some active) }
      | _ => mixer
  | .recordDelivery thread now =>
      match mixer.threads thread with
      | .recording holdsLock active rack targets =>
          { mixer.goto thread (.pushing holdsLock active targets) with
            delivered := Function.update mixer.delivered rack (some ⟨mixer.activation, now⟩) }
      | _ => mixer
  | .finish thread =>
      match mixer.threads thread with
      | .pushing holdsLock _ [] =>
          { mixer.goto thread .idle with lock := if holdsLock then none else mixer.lock }
      | _ => mixer

end Mixer

variable (restored : Option Active) (published : Text → Option Active)

/-- A Mixer that has started, with the scenario that `LoadActive` restored, if any, and
what its earlier runs published. -/
def Mixer.start : Mixer where
  active := restored
  activation := 0
  delivered := fun _ => none
  published := published
  lock := none
  threads := fun _ => .idle

def mixerAt (steps : List Step) (time : ℕ) : Mixer :=
  stateAt Mixer.take (Mixer.start restored published) steps time

/-- The step is the decision of `PushActiveToRackSince` not to push to the Rack. -/
def Skips (mixer : Mixer) (step : Step) (rack : Text) : Prop :=
  ∃ thread listed active since, step = .check thread listed ∧
    mixer.threads thread = .checking active rack since ∧ mixer.hasDelivery rack since = true

/-- A call of `PushActiveToRackSince` that has read the active scenario and has not
ended. -/
def Thread.InFlight : Thread → Prop
  | .checking _ _ _ => True
  | .pushing holdsLock _ _ => holdsLock = false
  | .recording holdsLock _ _ _ => holdsLock = false
  | _ => False

/-- If the step sets the active scenario, no push is in flight, and if it counts an
activation, the counter does not wrap around. -/
structure Undisturbed (mixer : Mixer) (step : Step) : Prop where
  alone : ∀ thread active, step = .commit thread active → mixer.threads thread = .preparing →
    ∀ other, ¬ (mixer.threads other).InFlight
  counts : ∀ thread listed active, step = .count thread listed →
    mixer.threads thread = .committed active → mixer.activation + 1 ≠ 0

/-- What a goroutine knows at each place. -/
def Knows (mixer : Mixer) (thread : ℕ) : Thread → Prop
  | .idle => True
  | .preparing => mixer.lock = some thread
  | .committed active => mixer.lock = some thread ∧ mixer.active = some active
  | .checking active _ _ => mixer.active = some active
  | .pushing holdsLock active _ =>
      (holdsLock = true → mixer.lock = some thread) ∧ mixer.active = some active
  | .recording holdsLock active rack _ =>
      (holdsLock = true → mixer.lock = some thread) ∧ mixer.active = some active ∧
        mixer.published rack = some active

/-- `Activate` between `c.active = &s` and `c.activation++`. -/
def Thread.InWindow : Thread → Prop
  | .committed _ => True
  | _ => False

/-- The invariant.  Between the commit and the count the record may name the scenario
before; nobody is about to read it then. -/
structure Consistent (mixer : Mixer) : Prop where
  knows : ∀ thread, Knows mixer thread (mixer.threads thread)
  quiet : ∀ thread, (mixer.threads thread).InWindow → ∀ other, ¬ (mixer.threads other).InFlight
  counted : ∀ rack delivery, mixer.delivered rack = some delivery →
    delivery.activation ≤ mixer.activation
  current : (∀ thread, ¬ (mixer.threads thread).InWindow) →
    ∀ rack delivery, mixer.delivered rack = some delivery →
      delivery.activation = mixer.activation → mixer.published rack = mixer.active

section

variable {mixer : Mixer}

lemma consistent_start (restored : Option Active) (published : Text → Option Active) :
    Consistent (Mixer.start restored published) where
  knows _ := trivial
  quiet _ hwindow := absurd hwindow id
  counted _ _ hdelivered := absurd hdelivered nofun
  current _ _ _ hdelivered := absurd hdelivered nofun

/-- A goroutine in its window holds the lock. -/
lemma Consistent.lock_of_inWindow (hconsistent : Consistent mixer) (thread : ℕ)
    (hwindow : (mixer.threads thread).InWindow) : mixer.lock = some thread := by
  have hknows := hconsistent.knows thread
  cases hplace : mixer.threads thread with
  | committed =>
    rw [hplace] at hknows
    exact hknows.1
  | _ =>
    rw [hplace] at hwindow
    exact absurd hwindow id

/-- What a goroutine knows stays so while the others take no lock of its own, and change
the active scenario only if it is neither in flight nor in `Activate`. -/
lemma Knows.carried {after : Mixer} {other : ℕ} {place : Thread}
    (hknows : Knows mixer other place)
    (hlock : mixer.lock = some other → after.lock = mixer.lock)
    (hactive : mixer.lock = some other ∨ place.InFlight → after.active = mixer.active)
    (hpublished : ∀ rack, mixer.published rack = mixer.active →
      after.published rack = mixer.published rack) : Knows after other place := by
  cases place with
  | idle => trivial
  | preparing => exact (hlock hknows).trans hknows
  | committed => exact ⟨(hlock hknows.1).trans hknows.1, (hactive (.inl hknows.1)).trans hknows.2⟩
  | checking => exact (hactive (.inr trivial)).trans hknows
  | pushing holdsLock | recording holdsLock => cases holdsLock <;> grind [Knows, Thread.InFlight]

/-- A commit finds nobody in flight by assumption, and a push takes up a scenario only
while nobody holds the lock. -/
lemma Consistent.knows_take (hconsistent : Consistent mixer) {step : Step}
    (hundisturbed : Undisturbed mixer step) (other : ℕ) :
    Knows (mixer.take step) other ((mixer.take step).threads other) := by
  have hown := hconsistent.knows
  have hother := hown other
  have halone := hundisturbed.alone
  -- a step that is not the goroutine's next one leaves the controller as it is
  fun_cases Mixer.take mixer step <;> try exact hother
  all_goals
    simp +zetaDelta only [Mixer.goto, Function.update_apply]
    apply iteInduction (motive := Knows _ other)
    · grind [Knows]
    · intro _
      apply hother.carried <;> grind [Knows]

/-- The lock keeps every other goroutine out of `Activate`. -/
lemma Consistent.quiet_take (hconsistent : Consistent mixer) {step : Step}
    (hundisturbed : Undisturbed mixer step) (thread : ℕ)
    (hwindow : ((mixer.take step).threads thread).InWindow) (other : ℕ) :
    ¬ ((mixer.take step).threads other).InFlight := by
  have hlock := hconsistent.lock_of_inWindow
  have hquiet := hconsistent.quiet
  have halone := hundisturbed.alone
  revert hwindow
  fun_cases Mixer.take mixer step <;> try exact fun hwindow => hquiet thread hwindow other
  all_goals
    simp +zetaDelta only [Mixer.goto, Function.update_apply]
    grind [Thread.InFlight, Thread.InWindow]

/-- Each step keeps the invariant.  The count makes every record one of an earlier
activation. -/
lemma Consistent.take (hconsistent : Consistent mixer) {step : Step}
    (hundisturbed : Undisturbed mixer step) : Consistent (mixer.take step) where
  knows := hconsistent.knows_take hundisturbed
  quiet := hconsistent.quiet_take hundisturbed
  counted := by
    have hcounted := hconsistent.counted
    have hcounts := hundisturbed.counts
    fun_cases Mixer.take mixer step <;> try exact hcounted
    all_goals
      simp +zetaDelta only [Mixer.goto, Function.update_apply]
      grind
  current := by
    have hcurrent := hconsistent.current
    have hcounted := hconsistent.counted
    have hknows := hconsistent.knows
    have hcounts := hundisturbed.counts
    fun_cases Mixer.take mixer step <;> try exact hcurrent
    all_goals
      simp +zetaDelta only [Mixer.goto, Function.update_apply]
      grind [Knows, Thread.InWindow]

lemma consistent_mixerAt {restored : Option Active} {published : Text → Option Active}
    {steps : List Step}
    (hundisturbed : ∀ time step, steps[time]? = some step →
      Undisturbed (mixerAt restored published steps time) step) (time : ℕ) :
    Consistent (mixerAt restored published steps time) := by
  apply stateAt_induction (consistent_start restored published)
  intro time step hstep hconsistent
  exact hconsistent.take (hundisturbed time step hstep)

lemma hasDelivery_iff {rack : Text} {since : ℕ} : mixer.hasDelivery rack since = true ↔
      ∃ delivery, mixer.delivered rack = some delivery ∧
        delivery.activation = mixer.activation ∧ since < delivery.time := by
  rw [Mixer.hasDelivery]
  cases mixer.delivered rack with
  | none | some => simp

/-- A scenario for one Rack. -/
def rackScenario (version : Text) : Active where
  scenario :=
    { name := utf8 "payments"
      version := version
      racks := [⟨utf8 "edge", [], [], none⟩]
      gears := []
      wires := [] }
  content := version

/-- A push that is skipped is one that the Rack has received: the scenario last published
to it is the active one, if no activation replaces the active scenario while a push that
has read it is in flight. -/
theorem skipped_push_delivered (restored : Option Active) (published : Text → Option Active)
    (steps : List Step)
    (hundisturbed : ∀ time step, steps[time]? = some step →
      Undisturbed (mixerAt restored published steps time) step)
    (time : ℕ) (step : Step) (rack : Text)
    (hskips : Skips (mixerAt restored published steps time) step rack) :
    (mixerAt restored published steps time).published rack =
      (mixerAt restored published steps time).active := by
  have hconsistent := consistent_mixerAt hundisturbed time
  obtain ⟨thread, _, _, _, _, hplace, hskip⟩ := hskips
  obtain ⟨delivery, hdelivered, hactivation, _⟩ := hasDelivery_iff.mp hskip
  have hflight : ((mixerAt restored published steps time).threads thread).InFlight := by
    rw [hplace]
    trivial
  apply hconsistent.current _ rack delivery hdelivered hactivation
  intro other hwindow
  exact hconsistent.quiet other hwindow thread hflight

/-- An activation that ends before a Rack asks for the scenario. -/
def plainActivation : List Step :=
  [.activate 0, .commit 0 (rackScenario (utf8 "2")), .count 0 [], .publish 0 .published,
    .recordDelivery 0 20, .finish 0, .pushActiveToRackSince 1 (utf8 "edge") 10 [], .check 1 []]

lemma plainActivation_undisturbed (time : ℕ) (step : Step)
    (hstep : plainActivation[time]? = some step) :
    Undisturbed (mixerAt none (fun _ => none) plainActivation time) step := by
  have hplace : time < 8 := (List.getElem?_eq_some_iff.mp hstep).1
  constructor
  · rintro thread active rfl _ other
    obtain rfl : time = 1 := by interval_cases time <;> first | rfl | cases hstep
    change ¬ (Function.update (fun _ => Thread.idle) 0 Thread.preparing other).InFlight
    rw [Function.update_apply]
    split
    · exact id
    · exact id
  · rintro thread listed active rfl _
    obtain rfl : time = 2 := by interval_cases time <;> first | rfl | cases hstep
    decide

theorem plain_push_skipped :
    (mixerAt none (fun _ => none) plainActivation 7).published (utf8 "edge") =
      (mixerAt none (fun _ => none) plainActivation 7).active :=
  skipped_push_delivered none (fun _ => none) plainActivation plainActivation_undisturbed 7
    (.check 1 []) (utf8 "edge")
    ⟨1, [], rackScenario (utf8 "2"), 10, rfl, rfl, rfl⟩

/-- A push that reads the first scenario, an activation of the second that runs from start
to end, and then the rest of the push.  A third goroutine asks for a push after that. -/
def overlappingPush : List Step :=
  [.pushActiveToRackSince 0 (utf8 "edge") 0 [],
    .activate 1, .commit 1 (rackScenario (utf8 "2")), .count 1 [],
    .publish 1 .published, .recordDelivery 1 20, .finish 1,
    .publish 0 .published, .recordDelivery 0 30, .finish 0,
    .pushActiveToRackSince 2 (utf8 "edge") 10 [], .check 2 []]

/-- The push of the first scenario ends after the activation of the second and is recorded
as a delivery of it: the next push is skipped although the Rack has the first scenario. -/
theorem stale_scenario_kept :
    let mixer := mixerAt (some (rackScenario (utf8 "1"))) (fun _ => none) overlappingPush 11
    Skips mixer (.check 2 []) (utf8 "edge") ∧
      mixer.published (utf8 "edge") = some (rackScenario (utf8 "1")) ∧
      mixer.active = some (rackScenario (utf8 "2")) := by
  intro mixer
  refine ⟨⟨2, [], rackScenario (utf8 "2"), 10, rfl, ?_, ?_⟩, ?_, ?_⟩
  all_goals rfl

end

end Fluxrig.Controller
