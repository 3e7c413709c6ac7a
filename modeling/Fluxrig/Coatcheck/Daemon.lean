import Fluxrig.Message.FluxMsg

/-!
# The coat-check daemon

The daemon watches a bucket and keeps one timer for each key.  A put arms a timer,
a later put or a delete stops it, and its callback emits a timeout and deletes the
key.  The parties take atomic steps in any order: those who put and delete, the
watch that delivers events in their order, the clock, and the sections of each
callback.  Stopping a timer does not recall a callback that has begun.
-/

namespace Fluxrig.Coatcheck

open Message

/-- How long values are kept: the override a value carries, if it can be read, the
default and the cap. -/
structure Expiry where
  override : Text → Option ℤ
  defaultTTL : ℤ
  maxTTL : ℤ

def Expiry.resolveTTL (expiry : Expiry) (value : Text) : ℤ :=
  let ttl := (expiry.override value).getD expiry.defaultTTL
  if 0 < expiry.maxTTL ∧ expiry.maxTTL < ttl then expiry.maxTTL else ttl

/-- One put: its revision in the bucket, its bytes and its time. -/
structure Coat where
  rev : ℕ
  value : Text
  storedAt : ℤ
  deriving DecidableEq

/-- What the bucket reports of a key: a put, or a delete. -/
structure Event where
  key : Text
  coat : Option Coat
  deriving DecidableEq

/-- How far a timer and its callback have come. -/
inductive Phase where
  | armed
  | stopped
  /-- The callback has begun and waits for the mutex. -/
  | fired
  /-- It has cleaned the map, and emits next. -/
  | unlocked
  /-- It has emitted, and deletes next. -/
  | emitted
  | done
  deriving DecidableEq

structure Timer where
  key : Text
  coat : Coat
  due : ℤ
  phase : Phase
  deriving DecidableEq

/-- The bucket, the events that have not reached the daemon yet, the daemon's map from
keys to timers, and all timers ever made. -/
structure Daemon where
  now : ℤ
  bucket : Text → Option Coat
  revs : ℕ
  stream : List Event
  current : Text → Option ℕ
  timers : List Timer
  timeouts : List (Text × Coat)

namespace Daemon

def new : Daemon where
  now := 0
  bucket := fun _ => none
  revs := 0
  stream := []
  current := fun _ => none
  timers := []
  timeouts := []

/-- A write to the bucket, which the watch reports later. -/
def write (s : Daemon) (key : Text) (coat : Option Coat) : Daemon :=
  { s with
    bucket := Function.update s.bucket key coat
    stream := s.stream ++ [⟨key, coat⟩] }

def setPhase (s : Daemon) (timer : ℕ) (phase : Phase) : Daemon :=
  { s with timers := s.timers.modify timer fun t => { t with phase } }

/-- `Stop` of a timer: too late for a callback that has begun. -/
def stopTimer (t : Timer) : Timer :=
  if t.phase = .armed then { t with phase := .stopped } else t

/-- Stop the timer of a key and take it out of the map. -/
def cancelExpiry (s : Daemon) (key : Text) : Daemon :=
  match s.current key with
  | none => s
  | some timer =>
      { s with
        timers := s.timers.modify timer stopTimer
        current := Function.update s.current key none }

def scheduleExpiry (expiry : Expiry) (s : Daemon) (key : Text) (coat : Coat) : Daemon :=
  let cleared := s.cancelExpiry key
  { cleared with
    timers := cleared.timers ++ [⟨key, coat, cleared.now + expiry.resolveTTL coat.value, .armed⟩]
    current := Function.update cleared.current key (some cleared.timers.length) }

/-- The watch handler: an empty value counts as a delete. -/
def handle (expiry : Expiry) (s : Daemon) (event : Event) : Daemon :=
  match event.coat with
  | none => s.cancelExpiry event.key
  | some coat =>
      if coat.value = [] then s.cancelExpiry event.key
      else s.scheduleExpiry expiry event.key coat

end Daemon

/-- One atomic action of some party. -/
inductive Step where
  | tick (elapsed : ℕ)
  | put (key value : Text)
  | delete (key : Text)
  | deliver
  | fire (timer : ℕ)
  /-- The three sections of `handleTimeout`. -/
  | lock (timer : ℕ)
  | emit (timer : ℕ)
  | remove (timer : ℕ)
  deriving DecidableEq

namespace Daemon

/-- A section of a callback, which runs if its timer has come so far. -/
def atPhase (s : Daemon) (timer : ℕ) (phase : Phase) (body : Timer → Daemon) : Daemon :=
  match s.timers[timer]? with
  | none => s
  | some t => if t.phase = phase then body t else s

def take (expiry : Expiry) (s : Daemon) : Step → Daemon
  | .tick elapsed => { s with now := s.now + elapsed }
  | .put key value =>
      { s.write key (some ⟨s.revs + 1, value, s.now⟩) with revs := s.revs + 1 }
  | .delete key => s.write key none
  | .deliver =>
      match s.stream with
      | [] => s
      | event :: rest => { s with stream := rest }.handle expiry event
  | .fire timer =>
      s.atPhase timer .armed fun t =>
        if t.due ≤ s.now then s.setPhase timer .fired else s
  | .lock timer =>
      s.atPhase timer .fired fun t =>
        { s.setPhase timer .unlocked with current := Function.update s.current t.key none }
  | .emit timer =>
      s.atPhase timer .unlocked fun t =>
        { s.setPhase timer .emitted with timeouts := s.timeouts ++ [(t.key, t.coat)] }
  | .remove timer =>
      s.atPhase timer .emitted fun t => (s.setPhase timer .done).write t.key none

end Daemon

/-- What the last of these events says of a key. -/
def lastSaid : List Event → Text → Option (Option Coat)
  | [], _ => none
  | event :: events, key =>
      (lastSaid events key).or (if event.key = key then some event.coat else none)

lemma lastSaid_concat (events : List Event) (event : Event) (key : Text) :
    lastSaid (events ++ [event]) key =
      if event.key = key then some event.coat else lastSaid events key := by
  induction events with
  | nil => rfl
  | cons _ _ ih =>
    rw [List.cons_append, lastSaid, ih]
    split <;> rfl

namespace Phase

/-- The callback has begun and not ended. -/
def Flying (phase : Phase) : Prop := phase = .fired ∨ phase = .unlocked ∨ phase = .emitted

instance (phase : Phase) : Decidable phase.Flying :=
  inferInstanceAs (Decidable (_ ∨ _ ∨ _))

end Phase

namespace Daemon

/-- Some event of the key has not reached the daemon. -/
def OnItsWay (s : Daemon) (key : Text) : Prop := lastSaid s.stream key ≠ none

instance (s : Daemon) (key : Text) : Decidable (s.OnItsWay key) :=
  inferInstanceAs (Decidable (_ ≠ _))

/-- Some callback of the key is running. -/
def InFlight (s : Daemon) (key : Text) : Prop :=
  ∃ t ∈ s.timers, t.key = key ∧ t.phase.Flying

instance (s : Daemon) (key : Text) : Decidable (s.InFlight key) :=
  inferInstanceAs (Decidable (∃ t ∈ s.timers, _))

/-- The step does not interfere with a timeout: nothing touches a key while a callback
of it runs, and no timer fires while news of its key is on its way. -/
def Undisturbed (s : Daemon) : Step → Prop
  | .put key _ => ¬ s.InFlight key
  | .delete key => ¬ s.InFlight key
  | .fire timer => ∀ t ∈ s.timers[timer]?, ¬ s.OnItsWay t.key
  | _ => True

instance (s : Daemon) : (step : Step) → Decidable (s.Undisturbed step)
  | .put _ _ | .delete _ => inferInstanceAs (Decidable (¬ _))
  | .fire _ => inferInstanceAs (Decidable (∀ t ∈ _, _))
  | .tick _ | .deliver | .lock _ | .emit _ | .remove _ => inferInstanceAs (Decidable True)

end Daemon

end Fluxrig.Coatcheck
