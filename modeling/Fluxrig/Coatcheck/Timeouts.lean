import Fluxrig.Core.Program
import Fluxrig.Core.Timeline
import Fluxrig.Coatcheck.Daemon

/-!
# Whose timeout it is

A callback does not look whose value it times out and deletes.  It acts for the value
that is parked now if nothing touches the key while the callback runs, and if nothing
was on its way to the daemon when the timer fired (`timeouts_timely`).  Without that, a
value parked again under the key loses its time to live.
-/

namespace Fluxrig.Coatcheck

open Fluxrig.Core Message

/-- What holds along runs whose timeouts are not disturbed. -/
structure Invariant (expiry : Expiry) (s : Daemon) : Prop where
  /-- A timer that is armed or has just fired is the one in the map. -/
  mapped : ∀ {i : ℕ} {t : Timer}, s.timers[i]? = some t →
    t.phase = .armed ∨ t.phase = .fired → s.current t.key = some i
  /-- A callback beyond its first section has cleaned the map. -/
  cleared : ∀ {i : ℕ} {t : Timer}, s.timers[i]? = some t →
    t.phase = .unlocked ∨ t.phase = .emitted → s.current t.key = none
  /-- At most one callback of a key runs. -/
  alone : ∀ {i j : ℕ} {t u : Timer}, s.timers[i]? = some t → s.timers[j]? = some u →
    t.key = u.key → t.phase.Flying → u.phase.Flying → i = j
  /-- A running callback acts for what is parked. -/
  parked : ∀ {i : ℕ} {t : Timer}, s.timers[i]? = some t → t.phase.Flying →
    s.bucket t.key = some t.coat
  /-- So will an armed timer, unless news is on its way. -/
  awaited : ∀ {i : ℕ} {t : Timer}, s.timers[i]? = some t → t.phase = .armed →
    ¬ s.OnItsWay t.key → s.bucket t.key = some t.coat
  quiet : ∀ {i : ℕ} {t : Timer}, s.timers[i]? = some t → t.phase.Flying → ¬ s.OnItsWay t.key
  patient : ∀ {i : ℕ} {t : Timer}, s.timers[i]? = some t →
    t.coat.storedAt + expiry.resolveTTL t.coat.value ≤ t.due
  elapsed : ∀ {i : ℕ} {t : Timer}, s.timers[i]? = some t → t.phase.Flying → t.due ≤ s.now
  past : ∀ event ∈ s.stream, ∀ coat ∈ event.coat, coat.storedAt ≤ s.now
  settled : ∀ {key : Text} {said : Option Coat}, lastSaid s.stream key = some said →
    s.bucket key = said

namespace Invariant

variable {expiry : Expiry} {s : Daemon}

lemma new : Invariant expiry Daemon.new where
  mapped := nofun
  cleared := nofun
  alone := nofun
  parked := nofun
  awaited := nofun
  quiet := nofun
  patient := nofun
  elapsed := nofun
  past := nofun
  settled := nofun

lemma tick (hinv : Invariant expiry s) (elapsed : ℕ) :
    Invariant expiry { s with now := s.now + elapsed } :=
  { hinv with
    elapsed := fun ht hflying => (hinv.elapsed ht hflying).trans (by simp)
    past := fun event hevent coat hcoat => (hinv.past event hevent coat hcoat).trans (by simp) }

/-- A write where no callback of the key runs. -/
lemma write (hinv : Invariant expiry s) {key : Text} {coat : Option Coat} {revs : ℕ}
    (hcalm : ¬ s.InFlight key) (hpast : ∀ put ∈ coat, put.storedAt ≤ s.now) :
    Invariant expiry { s.write key coat with revs } := by
  have hsaid := lastSaid_concat s.stream ⟨key, coat⟩
  have hother : ∀ {i : ℕ} {t : Timer}, s.timers[i]? = some t → t.phase.Flying → t.key ≠ key := by
    rintro i t ht hflying rfl
    exact hcalm ⟨t, List.mem_of_getElem? ht, rfl, hflying⟩
  cases hinv
  constructor <;> simp only [Daemon.write, Daemon.OnItsWay, Function.update_apply] at * <;> grind

variable {i j : ℕ} {t u : Timer} {phase : Phase}

lemma getElem?_setPhase (s : Daemon) (i j : ℕ) (phase : Phase) : (s.setPhase i phase).timers[j]? =
      if i = j then s.timers[j]?.map fun t => { t with phase } else s.timers[j]? := by
  simp [Daemon.setPhase, List.getElem?_modify]
  grind

section

variable (hinv : Invariant expiry s)

include hinv

section

variable (ht : s.timers[i]? = some t)

include ht

/-- A timer that is due comes further, and its first section takes it out of the map. -/
lemma fire (hphase : t.phase = .armed) (hdue : t.due ≤ s.now) (hcalm : ¬ s.OnItsWay t.key) :
    Invariant expiry (s.setPhase i .fired) := by
  have hget := getElem?_setPhase s i
  cases hinv
  simp only [Daemon.OnItsWay] at *
  constructor <;> grind [Daemon.setPhase, Daemon.OnItsWay, Phase.Flying]

lemma lock (hphase : t.phase = .fired) : Invariant expiry { s.setPhase i .unlocked with
      current := Function.update s.current t.key none } := by
  have hget := getElem?_setPhase s i
  cases hinv
  simp only [Daemon.OnItsWay] at *
  constructor <;> simp only [Function.update_apply, Daemon.OnItsWay] <;>
    grind [Daemon.setPhase, Phase.Flying]

/-- Beyond its first section a callback leaves the map alone. -/
lemma beyond {timeouts : List (Text × Coat)} (hfrom : t.phase = .unlocked ∨ t.phase = .emitted)
    (hto : phase ≠ .armed ∧ phase ≠ .fired) :
    Invariant expiry { s.setPhase i phase with timeouts } := by
  have hget := getElem?_setPhase s i
  cases hinv
  simp only [Daemon.OnItsWay] at *
  constructor <;> simp only [Daemon.OnItsWay] <;> grind [Daemon.setPhase, Phase.Flying]

lemma remove (hphase : t.phase = .emitted) :
    Invariant expiry ((s.setPhase i .done).write t.key none) := by
  have hdone : Invariant expiry (s.setPhase i .done) :=
    hinv.beyond ht (.inr hphase) ⟨nofun, nofun⟩
  refine hdone.write ?_ nofun
  rintro ⟨u, hmem, hkey, hflying⟩
  obtain ⟨j, hu⟩ := List.mem_iff_getElem?.mp hmem
  rw [getElem?_setPhase] at hu
  have halone := @hinv.alone i j t
  grind [Phase.Flying]

end

lemma cancelExpiry {event : Event} {rest : List Event} (hstream : s.stream = event :: rest) :
    Invariant expiry ({ s with stream := rest }.cancelExpiry event.key) := by
  cases hinv
  simp only [Daemon.OnItsWay, hstream, lastSaid] at *
  fun_cases Daemon.cancelExpiry { s with stream := rest } event.key <;> constructor <;>
    simp only [Daemon.OnItsWay, Function.update_apply, List.getElem?_modify] <;>
    grind [Daemon.stopTimer, Phase.Flying]

/-- The timer of a delivered event's key is stopped in time. -/
lemma idle_cancelExpiry {event : Event} {rest : List Event} (hstream : s.stream = event :: rest)
    (hu : ({ s with stream := rest }.cancelExpiry event.key).timers[j]? = some u)
    (hkey : u.key = event.key) : u.phase ≠ .armed ∧ ¬ u.phase.Flying := by
  have hmapped := @hinv.mapped
  have hquiet := @hinv.quiet
  simp only [Daemon.OnItsWay, hstream, lastSaid] at hquiet
  revert hu
  fun_cases Daemon.cancelExpiry { s with stream := rest } event.key <;>
    simp only [List.getElem?_modify] <;> grind [Daemon.stopTimer, Phase.Flying]

lemma deliver {event : Event} {rest : List Event} (hstream : s.stream = event :: rest) :
    Invariant expiry ({ s with stream := rest }.handle expiry event) := by
  have hcancelled := hinv.cancelExpiry hstream
  fun_cases Daemon.handle expiry { s with stream := rest } event with
  | case1 | case2 => exact hcancelled
  | case3 coat hcoat hvalue =>
    -- The timer is made for a put that nothing on its way undoes.
    have hpast : coat.storedAt ≤ s.now := hinv.past event (by simp [hstream]) coat (by simp [hcoat])
    have hlatest : lastSaid rest event.key = none → s.bucket event.key = some coat := by
      intro hnone
      apply hinv.settled
      rw [hstream, lastSaid, hnone, if_pos rfl, hcoat, Option.none_or]
    have hidle := fun j u => @idle_cancelExpiry expiry s j u hinv event rest hstream
    have hkept : ({ s with stream := rest }.cancelExpiry event.key).now = s.now ∧
        ({ s with stream := rest }.cancelExpiry event.key).bucket = s.bucket ∧
        ({ s with stream := rest }.cancelExpiry event.key).stream = rest := by
      fun_cases Daemon.cancelExpiry { s with stream := rest } event.key <;> simp
    rw [Daemon.scheduleExpiry]
    generalize { s with stream := rest }.cancelExpiry event.key = cleared at *
    cases hcancelled
    simp only [Daemon.OnItsWay] at *
    constructor <;> simp only [Daemon.OnItsWay, Function.update_apply] <;> grind [Phase.Flying]

end

end Invariant

lemma Invariant.take {expiry : Expiry} {s : Daemon} {step : Step}
    (hinv : Invariant expiry s) (hcalm : s.Undisturbed step) :
    Invariant expiry (s.take expiry step) := by
  -- A section runs for a timer of its phase, or nothing happens.
  have hsection : ∀ {i : ℕ} {phase : Phase} {body : Timer → Daemon},
      (∀ t, s.timers[i]? = some t → t.phase = phase → Invariant expiry (body t)) →
      Invariant expiry (s.atPhase i phase body) := by
    intro i phase body hbody
    rw [Daemon.atPhase]
    cases ht : s.timers[i]? with
    | none => exact hinv
    | some t =>
      dsimp only
      by_cases hphase : t.phase = phase
      · rw [if_pos hphase]
        exact hbody t ht hphase
      · rw [if_neg hphase]
        exact hinv
  cases step with
  | tick elapsed => exact hinv.tick elapsed
  | put =>
    apply hinv.write hcalm
    intro coat hcoat
    rw [← Option.some.inj hcoat]
  | delete => exact hinv.write hcalm nofun
  | deliver =>
    rw [Daemon.take]
    cases hstream : s.stream with
    | nil => exact hinv
    | cons => exact hinv.deliver hstream
  | fire =>
    apply hsection
    intro t ht hphase
    by_cases hdue : t.due ≤ s.now
    · rw [if_pos hdue]
      exact hinv.fire ht hphase hdue (hcalm t ht)
    · rw [if_neg hdue]
      exact hinv
  | lock =>
    apply hsection
    intro t ht hphase
    exact hinv.lock ht hphase
  | emit =>
    apply hsection
    intro t ht hphase
    exact hinv.beyond ht (.inl hphase) ⟨nofun, nofun⟩
  | remove =>
    apply hsection
    intro t ht hphase
    exact hinv.remove ht hphase

/-- The daemon after the first steps of a run. -/
def daemonAt (expiry : Expiry) (steps : List Step) (time : ℕ) : Daemon :=
  stateAt (Daemon.take expiry) Daemon.new steps time

/-- The step emits the timeout of this timer, or deletes its key. -/
def Daemon.Acts (s : Daemon) (t : Timer) : Step → Prop
  | .emit timer => s.timers[timer]? = some t ∧ t.phase = .unlocked
  | .remove timer => s.timers[timer]? = some t ∧ t.phase = .emitted
  | _ => False

instance (s : Daemon) (t : Timer) : (step : Step) → Decidable (s.Acts t step)
  | .emit _ => inferInstanceAs (Decidable (_ ∧ _))
  | .remove _ => inferInstanceAs (Decidable (_ ∧ _))
  | .tick _ | .put _ _ | .delete _ | .deliver | .fire _ | .lock _ =>
    inferInstanceAs (Decidable False)

/-- The value that the timer was made for is the one parked under its key, and has had
its time to live. -/
def Daemon.Timely (expiry : Expiry) (s : Daemon) (t : Timer) : Prop :=
  s.bucket t.key = some t.coat ∧ t.coat.storedAt + expiry.resolveTTL t.coat.value ≤ s.now

instance (expiry : Expiry) (s : Daemon) (t : Timer) : Decidable (s.Timely expiry t) :=
  inferInstanceAs (Decidable (_ ∧ _))

lemma Invariant.timely {expiry : Expiry} {s : Daemon} {t : Timer} {step : Step}
    (hinv : Invariant expiry s) (hacts : s.Acts t step) : s.Timely expiry t := by
  have hflies : ∀ {i : ℕ}, s.timers[i]? = some t → t.phase.Flying → s.Timely expiry t :=
    fun ht hflying =>
      ⟨hinv.parked ht hflying, (hinv.patient ht).trans (hinv.elapsed ht hflying)⟩
  cases step with
  | emit => exact hflies hacts.1 (.inr (.inl hacts.2))
  | remove => exact hflies hacts.1 (.inr (.inr hacts.2))
  | tick | put | delete | deliver | fire | lock => exact hacts.elim

/-- Along every run whose steps leave running callbacks and overtaken timers alone, a
callback emits and deletes only for the value that is parked now and has expired. -/
theorem timeouts_timely (expiry : Expiry) (steps : List Step)
    (hcalm : ∀ time (hlt : time < steps.length),
      (daemonAt expiry steps time).Undisturbed (steps.get ⟨time, hlt⟩))
    (time : ℕ) (hlt : time < steps.length) (t : Timer)
    (hacts : (daemonAt expiry steps time).Acts t (steps.get ⟨time, hlt⟩)) :
    (daemonAt expiry steps time).Timely expiry t := by
  have hinv : Invariant expiry (daemonAt expiry steps time) := by
    apply stateAt_induction Invariant.new
    intro before step hstep ih
    obtain ⟨hbefore, hget⟩ := List.getElem?_eq_some_iff.mp hstep
    apply ih.take
    rw [← hget]
    exact hcalm before hbefore
  exact hinv.timely hacts

/-- Values are kept for five units of time. -/
def fiveUnits : Expiry where
  override := fun _ => none
  defaultTTL := 5
  maxTTL := 0

/-- A value is parked, expires, and is timed out and removed. -/
def parkedOnce : List Step :=
  [.put (utf8 "k") (utf8 "a"), .deliver, .tick 5, .fire 0, .lock 0, .emit 0, .remove 0]

/-- Another value is parked under the key when the callback has begun. -/
def parkedAgain : List Step :=
  [.put (utf8 "k") (utf8 "a"), .deliver, .tick 5, .fire 0, .put (utf8 "k") (utf8 "b"),
    .deliver, .lock 0, .emit 0, .remove 0]

def firstTimer (phase : Phase) : Timer := ⟨utf8 "k", ⟨1, utf8 "a", 0⟩, 5, phase⟩

theorem parkedOnce_timely :
    (daemonAt fiveUnits parkedOnce 6).Timely fiveUnits (firstTimer .emitted) :=
  timeouts_timely fiveUnits parkedOnce (by decide) 6 (by decide) (firstTimer .emitted) (by decide)

/-- The callback for the first value emits and removes the second, whose time to live
has only begun. -/
theorem parkedAgain_cut_short :
    (daemonAt fiveUnits parkedAgain 7).Acts (firstTimer .unlocked) (.emit 0) ∧
      (daemonAt fiveUnits parkedAgain 8).Acts (firstTimer .emitted) (.remove 0) ∧
      (daemonAt fiveUnits parkedAgain 8).bucket (utf8 "k") = some ⟨2, utf8 "b", 5⟩ ∧
      (daemonAt fiveUnits parkedAgain 9).bucket (utf8 "k") = none ∧
      (daemonAt fiveUnits parkedAgain 9).now = 5 := by
  decide

end Fluxrig.Coatcheck
