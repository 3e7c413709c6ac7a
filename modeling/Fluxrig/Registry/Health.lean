import Fluxrig.Registry.Repair

/-!
# A sweep finds nothing to do in a healthy registry

Calls that run one after the other, whether they succeed or fail, keep records
and name keys in agreement: every named Rack holds its name key, and every name
key points at a record that carries the name.  In such a registry each of the
sweep's tests for damage fails, so it deletes and rewrites nothing.

The Mixer's own entities are the exception the agreement has to allow for.
`UpsertSelf` writes a name and claims no key, so it must not be used for a Rack,
nor for an entity that a name key points at.
-/

namespace Fluxrig.Registry

open Fluxrig.Core

/-- Records and name keys agree. -/
structure Healthy (reg : RegBucket) : Prop where
  orderly : Orderly reg
  holds : ∀ id, HoldsName reg id
  carried : ∀ name ref, holderOf reg name = some ref → nameOf reg ref = some name
  nameless : holderOf reg "" = none

/-- The call is not an `UpsertSelf` of a Rack, nor of an entity that a name key
points at. -/
def Proper (reg : RegBucket) : Call → Prop
  | .upsertSelf self => self.typeID ≠ typeRack ∧ ∀ name, holderOf reg name ≠ some self.ref
  | _ => True

section

variable {cfg : Settings} {reg : RegBucket}

lemma healthy_empty : Healthy Bucket.empty where
  orderly _ _ hrecord := by simp at hrecord
  holds _ _ hrecord := by simp at hrecord
  carried _ _ hholder := by simp at hholder
  nameless := holderOf_empty ""

variable (hhealthy : Healthy reg)

include hhealthy

lemma Healthy.not_dangling (name : String) : ¬ Dangling reg name := by
  have hcarried := hhealthy.carried
  grind [Dangling, nameOf]

/-- In a healthy registry a name that resolves to nothing has no key. -/
lemma Healthy.free {name : String}
    (hfree : resolved reg name = none) : holderOf reg name = none := by
  have hcarried := hhealthy.carried
  cases hholder : holderOf reg name <;> grind [nameOf]

variable {ref : NameRef} {rec : Record} {final : RegBucket}

/-- Only the name a record carries points at it. -/
lemma Healthy.name_eq {name : String} (hstored : recordOf reg ref = some rec)
    (hholder : holderOf reg name = some ref) : name = rec.name := by
  have hcarried := hhealthy.carried
  grind [nameOf]

/-- A record is written that carries every name that points at it, and holds its name if
it is a Rack. -/
lemma Healthy.write (href : rec.ref = ref)
    (hcarries : ∀ name, holderOf reg name = some ref → name = rec.name)
    (hclaims : ∀ id, ⟨typeRack, id⟩ = ref → rec.name ≠ "" → holderOf reg rec.name = some ref) :
    Healthy (reg.write (.entity ref) rec) := by
  obtain ⟨horderly, hholds, hcarried, hnameless⟩ := hhealthy
  unfold HoldsName at hholds
  constructor <;> grind [Orderly, HoldsName, nameOf]

/-- A record is rewritten under the name it has. -/
lemma Healthy.rewrite {old : Record}
    (hstored : recordOf reg ref = some old) (href : rec.ref = old.ref)
    (hname : rec.name = old.name) : Healthy (reg.write (.entity ref) rec) := by
  apply hhealthy.write (href.trans (hhealthy.orderly ref old hstored))
  · intro name hholder
    rw [hname]
    exact hhealthy.name_eq hstored hholder
  · rintro id rfl hnamed
    rw [hname] at hnamed ⊢
    exact hhealthy.holds id old hstored hnamed

/-- A record that needs no name key is written where none points. -/
lemma Healthy.place (href : rec.ref = ref) (hunheld : ∀ name, holderOf reg name ≠ some ref)
    (hquiet : rec.name = "" ∨ ref.typeID ≠ typeRack) :
    Healthy (reg.write (.entity ref) rec) := by
  apply hhealthy.write href
  · exact fun name hholder => absurd hholder (hunheld name)
  · rintro id rfl hnamed
    exact absurd rfl (hquiet.resolve_left hnamed)

/-- A named record is written, its name points at it, and no other name does. -/
lemma Healthy.settle (hrecords : ∀ other, recordOf final other =
      if other = ref then some rec else recordOf reg other)
    (hholders : ∀ name, holderOf final name = if name = rec.name then some ref
      else if holderOf reg name = some ref then none else holderOf reg name)
    (href : rec.ref = ref) (hnamed : rec.name ≠ "")
    (hfree : holderOf reg rec.name = none) : Healthy final := by
  obtain ⟨horderly, hholds, hcarried, hnameless⟩ := hhealthy
  unfold HoldsName at hholds
  constructor <;> grind [Orderly, HoldsName, nameOf]

/-- A record is removed together with its name key. -/
lemma Healthy.remove (hstored : recordOf reg ref = some rec) :
    Healthy (released (reg.remove (.entity ref)) rec.name ref) := by
  obtain ⟨horderly, hholds, hcarried, hnameless⟩ := hhealthy
  unfold HoldsName at hholds
  constructor <;> grind [Orderly, HoldsName, nameOf]

lemma Healthy.unheld (habsent : recordOf reg ref = none)
    (name : String) : holderOf reg name ≠ some ref :=
  fun hholder => hhealthy.not_dangling name ⟨ref, hholder, habsent⟩

lemma Healthy.fresh (habsent : recordOf reg rec.ref = none)
    (hfree : rec.name = "" ∨ resolved reg rec.name = none) :
    Healthy (claimed (reg.write (.entity rec.ref) rec) rec.name rec.ref) := by
  have hunheld := hhealthy.unheld habsent
  by_cases hnamed : rec.name = ""
  · rw [claimed, if_pos (Or.inl hnamed)]
    exact hhealthy.place rfl hunheld (Or.inl hnamed)
  · apply hhealthy.settle _ _ rfl hnamed (hhealthy.free (hfree.resolve_left hnamed))
    · grind
    · grind [holderOf_claimed]

lemma Healthy.adopt {hello : Hello} {holder : Record}
    (hadopts : Adopts cfg reg hello holder) (now : Time) :
    Healthy (((reg.write (.entity hello.ref) (holder.moved hello now)).write
      (.name hello.name) hello.ref).remove (.entity holder.ref)) := by
  obtain ⟨hpoints, hstored⟩ := hadopts.points hhealthy.orderly
  have hne := hadopts.ref_ne hhealthy.orderly
  have hunheld := hhealthy.unheld hadopts.unknown
  have hname : holder.name = hello.name := hadopts.name_eq
  have hmoved : (holder.moved hello now).name = hello.name := hname
  have hnamed := hadopts.named
  -- The old Rack goes with its name key; then the new one is settled.
  apply (hhealthy.remove hstored).settle _ _ (hadopts.moved_ref now) <;> grind

lemma Healthy.rename {id : UUID} {newName : String}
    {orig : Record} (hrenames : Renames reg id newName orig)
    (hfree : resolved reg newName = none) (now : Time) :
    Healthy (released (claimed (reg.write (.entity ⟨typeRack, id⟩)
      (orig.approved newName now)) newName ⟨typeRack, id⟩) orig.name ⟨typeRack, id⟩) := by
  have href : (orig.approved newName now).ref = ⟨typeRack, id⟩ :=
    hhealthy.orderly _ orig hrenames.stored
  have hnamed := hrenames.named
  have hnameless := hhealthy.nameless
  have hpoints : ∀ name, holderOf reg name = some ⟨typeRack, id⟩ → name = orig.name :=
    fun _ => hhealthy.name_eq hrenames.stored
  apply hhealthy.settle _ _ href hnamed (hhealthy.free hfree)
  · grind
  · grind [holderOf_claimed, Record.approved, hrenames.changed]

/-- The rename is taken back: the original record is as it was. -/
lemma Healthy.revert {orig renamed : Record} (hstored : recordOf reg ref = some orig) :
    Healthy ((reg.write (.entity ref) renamed).write (.entity ref) orig) := by
  obtain ⟨horderly, hholds, hcarried, hnameless⟩ := hhealthy
  unfold HoldsName at hholds
  constructor <;> grind [Orderly, HoldsName, nameOf]

lemma Healthy.story {call : Call} {states : List RegBucket}
    (hstory : Story cfg reg call states) (hproper : Proper reg call)
    (hlast : states.getLast? = some final) : Healthy final := by
  cases hstory with
  | refuse =>
    cases hlast
    exact hhealthy
  | rewrite _ hstored href hname =>
    cases hlast
    exact hhealthy.rewrite hstored href hname
  | fresh _ habsent hfree =>
    cases hlast
    exact hhealthy.fresh habsent hfree
  | adopt now hadopts =>
    cases hlast
    exact hhealthy.adopt hadopts now
  | rename now hrenames hfree =>
    cases hlast
    exact hhealthy.rename hrenames hfree now
  | revert _ hrenames =>
    cases hlast
    exact hhealthy.revert hrenames.stored
  | remove hstored =>
    cases hlast
    exact hhealthy.remove hstored
  | assign href =>
    cases hlast
    exact hhealthy.place href hproper.2 (Or.inr hproper.1)

lemma Healthy.completed {call : Call} (hproper : Proper reg call) (inputs : ℕ → Input) :
    Healthy (completed cfg reg call inputs) := by
  obtain ⟨states, hstory, _, hlast⟩ := @exists_story cfg reg hhealthy.orderly call inputs
  exact hhealthy.story hstory hproper hlast

end

/-- A call with the settings in force and what its steps draw from outside. -/
structure Invocation where
  settings : Settings
  call : Call
  inputs : ℕ → Input

def Invocation.complete (reg : RegBucket) (invocation : Invocation) : RegBucket :=
  completed invocation.settings reg invocation.call invocation.inputs

/-- The bucket after a sequence of completed calls. -/
def afterCalls (reg : RegBucket) (invocations : List Invocation) : RegBucket :=
  invocations.foldl Invocation.complete reg

/-- Every `UpsertSelf` of the sequence is proper where it begins. -/
def AllProper : RegBucket → List Invocation → Prop
  | _, [] => True
  | reg, invocation :: invocations =>
      Proper reg invocation.call ∧ AllProper (invocation.complete reg) invocations

/-- What the sweep leaves and reports. -/
def sweepOutcome (grace : ℤ) (reg : RegBucket) (inputs : ℕ → Input) :
    (SweepResult × Option Err) × RegBucket :=
  let run := (sweepOrphans grace).runAlone exec (reg, inputs)
  (run.1, run.2.1)

lemma healthy_afterCalls {reg : RegBucket} {invocations : List Invocation}
    (hhealthy : Healthy reg) (hproper : AllProper reg invocations) :
    Healthy (afterCalls reg invocations) := by
  induction invocations generalizing reg with
  | nil => exact hhealthy
  | cons invocation _ ih =>
    exact ih (hhealthy.completed hproper.1 invocation.inputs) hproper.2

/-- A Rack written by `UpsertSelf`: it carries a name that it never claimed. -/
def selfMadeRack : Invocation where
  settings := sampleSettings
  call := .upsertSelf ⟨typeRack, 1, "rack-a", "10.0.0.1", 4222, "v1", none⟩
  inputs _ := sampleInput 1 secretA

/-- The sweep takes it for an unfinished registration and deletes it. -/
theorem sweep_deletes_selfMadeRack : (sweepOutcome 300 (afterCalls Bucket.empty [selfMadeRack])
      (fun _ => sampleInput 1000 secretA)).1 = (⟨1, 0, 0⟩, none) ∧
    recordOf (afterCalls Bucket.empty [selfMadeRack]) ⟨typeRack, 1⟩ ≠ none ∧
    recordOf (sweepOutcome 300 (afterCalls Bucket.empty [selfMadeRack])
      (fun _ => sampleInput 1000 secretA)).2 ⟨typeRack, 1⟩ = none := by
  refine ⟨?_, ?_, ?_⟩
  · decide +kernel
  · decide +kernel
  · decide +kernel

/-- Take any sequence of completed registrations, adoptions, approvals, status
updates, removals and updates of the Mixer's own entities, successful or failed,
from the empty registry.  A sweep with any grace period and at any clock time
then reports no change and makes none. -/
theorem sweep_harmless {invocations : List Invocation}
    (hproper : AllProper Bucket.empty invocations) (grace : ℤ)
    (inputs : ℕ → Input) :
    sweepOutcome grace (afterCalls Bucket.empty invocations) inputs =
      ((⟨0, 0, 0⟩, none), afterCalls Bucket.empty invocations) := by
  have hhealthy := healthy_afterCalls healthy_empty hproper
  have hsweep : (sweepOrphans grace).Alone exec (fun _ => True) _
      {afterCalls Bucket.empty invocations} (afterCalls Bucket.empty invocations) :=
    alone_sweep_healthy (Set.mem_singleton _) hhealthy.holds
  obtain ⟨hfinal, hresult⟩ :=
    (hsweep.runAlone (Set.mem_singleton _) (fun step => trivial)).2 hhealthy.not_dangling
  exact Prod.ext hresult hfinal

/-- A Rack registers, its name is refused to another, and the Mixer records
itself. -/
def ordinaryCalls : List Invocation :=
  [⟨sampleSettings, .register (sampleHello 1 "rack-a" "bootstrap"),
      fun _ => sampleInput 1 secretA⟩,
    ⟨sampleSettings, .register (sampleHello 2 "rack-a" "bootstrap"),
      fun _ => sampleInput 2 secretB⟩,
    ⟨sampleSettings, .upsertSelf ⟨typeMixer, 3, "mixer", "10.0.0.2", 8080, "v1", none⟩,
      fun _ => sampleInput 3 secretB⟩]

theorem ordinaryCalls_unswept : sweepOutcome 300 (afterCalls Bucket.empty ordinaryCalls)
      (fun _ => sampleInput 1000 secretA) =
        ((⟨0, 0, 0⟩, none), afterCalls Bucket.empty ordinaryCalls) := by
  have hregistered : Healthy (afterCalls Bucket.empty (ordinaryCalls.take 2)) :=
    healthy_afterCalls healthy_empty ⟨trivial, trivial, trivial⟩
  apply sweep_harmless
  exact ⟨trivial, trivial, ⟨by decide, hregistered.unheld (by decide +kernel)⟩, trivial⟩

/-- After any sequence of calls, one after the other, no two Racks share a name and the
name of every Rack resolves to it. -/
theorem sequential_names (invocations : List Invocation)
    (hproper : AllProper Bucket.empty invocations) (id : UUID) (rec : Record)
    (hrecord : recordOf (afterCalls Bucket.empty invocations) ⟨typeRack, id⟩ = some rec)
    (hnamed : rec.name ≠ "") :
    resolved (afterCalls Bucket.empty invocations) rec.name = some rec ∧
      ∀ other another, recordOf (afterCalls Bucket.empty invocations) ⟨typeRack, other⟩ =
        some another → another.name = rec.name → other = id := by
  have hhealthy := healthy_afterCalls healthy_empty hproper
  have hholder := hhealthy.holds id rec hrecord hnamed
  refine ⟨resolved_eq_some_iff.mpr ⟨_, hholder, hrecord, rfl⟩, ?_⟩
  intro other another hother hname
  have hsecond := hhealthy.holds other another hother (hname ▸ hnamed)
  rw [hname, hholder] at hsecond
  cases hsecond
  rfl

theorem ordinaryCalls_named :
    ∃ rec, resolved (afterCalls Bucket.empty (ordinaryCalls.take 2)) "rack-a" = some rec := by
  have hname : (recordOf (afterCalls Bucket.empty (ordinaryCalls.take 2)) ⟨typeRack, 1⟩).map
      Record.name = some "rack-a" := by decide +kernel
  obtain ⟨rec, hrecord, hnamed⟩ := Option.map_eq_some_iff.mp hname
  have hresolved := (sequential_names (ordinaryCalls.take 2) ⟨trivial, trivial, trivial⟩ 1 rec
    hrecord (by rw [hnamed]; decide)).1
  rw [hnamed] at hresolved
  exact ⟨rec, hresolved⟩

end Fluxrig.Registry
