import Fluxrig.Registry.Survival

/-!
# Crash atomicity

Wherever a registry call stops, once the grace period has passed and a sweep
has run a reader sees either what was there before the call or what the whole
call would have left, exactly when the call is crash-safe.  `Survival` has one
direction.  For the other, this file finds in every unsafe story a bucket that
the sweep turns into something else: it deletes a Rack that existed before and
after, or it rolls a record back and stamps it with its own time.
-/

namespace Fluxrig.Registry

open Fluxrig.Core

/-- Wherever the call is cut off, a sweep after the grace period restores the
view before the call or the view after it. -/
def Recovers (cfg : Settings) (grace : ℤ) (reg : RegBucket) (call : Call)
    (inputs : ℕ → Input) : Prop :=
  ∀ crash ∈ (call.body cfg).crashPoints exec (reg, inputs),
    ∀ later : ℕ → Input, (∀ step, Elapsed grace crash (later step)) →
      SameView (swept grace crash later) reg ∨
        SameView (swept grace crash later) (completed cfg reg call inputs)

section

variable {cfg : Settings} {grace : ℤ} {reg crash : RegBucket}
variable {call : Call} {inputs : ℕ → Input} {states : List RegBucket}

lemma Story.eq_adoptStates {hello : Hello} {holder : Record}
    (hstory : Story cfg reg (.register hello) states)
    (hadopts : Adopts cfg reg hello holder) :
    ∃ now, states = adoptStates reg holder.ref hello.ref hello.name (holder.moved hello now) := by
  cases hstory with
  | refuse hplain | rewrite hplain | fresh hplain => exact absurd hadopts (hplain holder)
  | adopt now hother =>
    have heq := hother.resolves.symm.trans hadopts.resolves
    rw [Option.some.inj heq]
    exact ⟨now, rfl⟩

variable {id : UUID} {newName : String}

lemma Story.eq_renameStates {orig : Record} (hstory : Story cfg reg (.approve id newName) states)
    (hrenames : Renames reg id newName orig) :
    ∃ now, (states = renameStates reg ⟨typeRack, id⟩ orig newName now ∧
        resolved reg newName = none) ∨
      states = revertStates reg ⟨typeRack, id⟩ orig newName now := by
  cases hstory with
  | refuse hplain | rewrite hplain => exact absurd hrenames (hplain orig)
  | rename now hother hfree =>
    have heq := hother.stored.symm.trans hrenames.stored
    rw [Option.some.inj heq]
    exact ⟨now, Or.inl ⟨rfl, hfree⟩⟩
  | revert now hother =>
    have heq := hother.stored.symm.trans hrenames.stored
    rw [Option.some.inj heq]
    exact ⟨now, Or.inr rfl⟩

/-- A clock at which the grace period of two buckets has passed. -/
lemma exists_clock (grace : ℤ) (first second : RegBucket) : ∃ now, ∀ ref rec,
      recordOf first ref = some rec ∨ recordOf second ref = some rec →
        grace ≤ now - rec.updatedAt := by
  let measure : (key : Key) → key.Value → ℤ := fun key =>
    key.rec (fun _ => Record.updatedAt) fun _ _ => 0
  obtain ⟨firstBound, hfirst⟩ := first.exists_bound measure
  obtain ⟨secondBound, hsecond⟩ := second.exists_bound measure
  refine ⟨max firstBound secondBound + grace, ?_⟩
  rintro ref rec (hrecord | hrecord)
  · obtain ⟨rev, hitem⟩ := exists_get_of_recordOf hrecord
    have hbound : rec.updatedAt ≤ firstBound := hfirst _ _ hitem
    linarith [le_max_left firstBound secondBound]
  · obtain ⟨rev, hitem⟩ := exists_get_of_recordOf hrecord
    have hbound : rec.updatedAt ≤ secondBound := hsecond _ _ hitem
    linarith [le_max_right firstBound secondBound]

/-- One crash point that every late sweep turns into something else. -/
lemma not_recovers (hcrash : crash ∈ (call.body cfg).crashPoints exec (reg, inputs))
    (hfails : ∀ now, (∀ ref rec, recordOf crash ref = some rec ∨ recordOf reg ref = some rec →
          grace ≤ now - rec.updatedAt) →
      (sweepOrphans grace).Alone exec (fun input => input.now = now)
        (fun _ _ final => ¬ SameView final reg ∧
          ¬ SameView final (completed cfg reg call inputs)) {crash} crash) :
    ¬ Recovers cfg grace reg call inputs := by
  intro hrecovers
  obtain ⟨now, hnow⟩ := exists_clock grace crash reg
  let later : ℕ → Input := fun _ => { (default : Input) with now := now }
  have hsweep := hrecovers crash hcrash later
    (fun _ ref rec hrecord => hnow ref rec (Or.inl hrecord))
  have hclock : ∀ step, (later step).now = now := fun _ => rfl
  obtain ⟨hbefore, hafter⟩ := (hfails now hnow).runAlone (Set.mem_singleton crash) hclock
  rcases hsweep with hsame | hsame
  · exact hbefore hsame
  · exact hafter hsame

/-- A rollback leaves a record with the time of the sweep. -/
lemma not_sameView_rollback {final target : RegBucket}
    {rec : Record} {oldest : String} {now : Time} (hgrace : 0 < grace)
    (hfinal : recordOf final ⟨typeRack, id⟩ = some { rec with name := oldest, updatedAt := now })
    (hold : ∀ stored, recordOf target ⟨typeRack, id⟩ = some stored →
      grace ≤ now - stored.updatedAt) :
    ¬ SameView final target := by
  intro hsame
  have hstored := (hsame.racks id).symm.trans hfinal
  have hage := hold _ hstored
  simp only at hage
  omega

lemma not_recovers_rollback {rec holder : Record} {name : String} (hgrace : 0 < grace)
    (hcrash : crash ∈ (call.body cfg).crashPoints exec (reg, inputs))
    (hbroken : Broken crash id rec)
    (hheld : holderOf crash name = some ⟨typeRack, id⟩)
    (htaken : resolved crash rec.name = some holder)
    (hafter : ∀ stored, recordOf (completed cfg reg call inputs) ⟨typeRack, id⟩ = some stored →
      recordOf crash ⟨typeRack, id⟩ = some stored ∨ recordOf reg ⟨typeRack, id⟩ = some stored) :
    ¬ Recovers cfg grace reg call inputs := by
  apply not_recovers hcrash
  intro now hnow
  have hold : ∀ input : Input, input.now = now → grace ≤ input.now - rec.updatedAt := by
    rintro input rfl
    exact hnow _ _ (Or.inl hbroken.stored)
  apply (alone_sweep_rollback (Set.mem_singleton crash) hbroken hold hheld htaken).mono
  rintro _ _ final ⟨oldest, input, rfl, hfinal⟩
  constructor
  · apply not_sameView_rollback hgrace hfinal
    exact fun stored hstored => hnow _ _ (Or.inr hstored)
  · apply not_sameView_rollback hgrace hfinal
    exact fun stored hstored => hnow _ _ (hafter stored hstored)

lemma crashSafe_register {hello : Hello} (hgrace : 0 < grace)
    (horderly : Orderly reg) (hholds : ∀ id, HoldsName reg id)
    (hrecovers : Recovers cfg grace reg (.register hello) inputs) :
    CrashSafe cfg reg (.register hello) := by
  intro holder hadopts htype
  obtain ⟨states, hstory, hpoints, hlast⟩ := exists_story horderly (.register hello) inputs
  obtain ⟨now, rfl⟩ := hstory.eq_adoptStates hadopts
  obtain ⟨hholder, hstored⟩ := hadopts.points horderly
  have hne := hadopts.ref_ne horderly
  have hname : (holder.moved hello now).name = hello.name := hadopts.name_eq
  have hnew : hello.ref = ⟨typeRack, hello.machineID⟩ := by
    rw [Hello.ref, htype]
  have hold : holder.ref = ⟨typeRack, holder.machineID⟩ := by
    rw [Record.ref, hadopts.sameType, htype]
  have hfinal : (pointed reg hello holder now).remove (.entity holder.ref) =
      completed cfg reg (.register hello) inputs := by
    simpa [adoptStates] using hlast
  constructor
  · -- A name that already points at the new machine keeps the copy alive.
    intro name hheld
    have hlost : holderOf reg (holder.moved hello now).name ≠ some hello.ref := by grind
    have hcrash : reg.write (.entity hello.ref) (holder.moved hello now) ∈
        ((Call.register hello).body cfg).crashPoints exec (reg, inputs) :=
      (hpoints _).mpr (by simp [adoptStates])
    have hbroken : Broken (reg.write (.entity hello.ref) (holder.moved hello now))
        hello.machineID (holder.moved hello now) := by
      rw [hnew] at hlost ⊢
      exact broken_create hholds (hname ▸ hadopts.named) hlost
    refine not_recovers_rollback hgrace hcrash hbroken
      ((holderOf_write_entity ..).trans (hnew ▸ hheld)) ((resolved_write_entity_of_ne
        hlost).trans (hname ▸ hadopts.resolves)) ?_ hrecovers
    grind
  · -- Another name that still points at the old machine keeps the original alive.
    intro name hheld
    by_contra hother
    have hcrash : pointed reg hello holder now ∈
        ((Call.register hello).body cfg).crashPoints exec (reg, inputs) :=
      (hpoints _).mpr (by simp [adoptStates])
    have htaken : resolved (pointed reg hello holder now) holder.name =
        some (holder.moved hello now) := by
      grind [hadopts.name_eq]
    refine not_recovers_rollback hgrace hcrash
      (broken_pointed hadopts horderly hholds hold) (show holderOf _ name = _ by grind)
      htaken ?_ hrecovers
    grind

lemma completed_stored {orig : Record} {now : Time} {final : RegBucket}
    (hstates : (states = renameStates reg ⟨typeRack, id⟩ orig newName now ∧
        resolved reg newName = none) ∨
      states = revertStates reg ⟨typeRack, id⟩ orig newName now)
    (hlast : states.getLast? = some final) :
    ∃ stored, recordOf final ⟨typeRack, id⟩ = some stored := by
  rcases hstates with ⟨rfl, _⟩ | rfl
  · obtain rfl : released _ _ _ = final := by simpa [renameStates] using hlast
    exact ⟨orig.approved newName now, by simp⟩
  · obtain rfl : Bucket.write _ _ _ = final := by simpa [revertStates] using hlast
    exact ⟨orig, by simp⟩

lemma crashSafe_approve (hgrace : 0 < grace)
    (horderly : Orderly reg) (hholds : ∀ id, HoldsName reg id)
    (hrecovers : Recovers cfg grace reg (.approve id newName) inputs) :
    CrashSafe cfg reg (.approve id newName) := by
  intro orig hrenames
  obtain ⟨states, hstory, hpoints, hlast⟩ := exists_story horderly (.approve id newName) inputs
  obtain ⟨now, hstates⟩ := hstory.eq_renameStates hrenames
  have hcrash : reg.write (.entity ⟨typeRack, id⟩) (orig.approved newName now) ∈
      ((Call.approve id newName).body cfg).crashPoints exec (reg, inputs) := by
    apply (hpoints _).mpr
    rcases hstates with ⟨rfl, _⟩ | rfl
    · simp [renameStates]
    · simp [revertStates]
  have hheld : ∃ name, holderOf reg name = some ⟨typeRack, id⟩ := by
    by_contra hnone
    rw [not_exists] at hnone
    have hbroken : Broken (reg.write (.entity ⟨typeRack, id⟩)
        (orig.approved newName now)) id (orig.approved newName now) :=
      broken_create hholds hrenames.named (hnone newName)
    refine not_recovers hcrash (fun clock hclock => ?_) hrecovers
    have hold : ∀ input : Input, input.now = clock →
        grace ≤ input.now - (orig.approved newName now).updatedAt := by
      rintro input rfl
      exact hclock _ _ (Or.inl hbroken.stored)
    apply (alone_sweep_delete (Set.mem_singleton _) hbroken hold (by grind)).mono
    intro _ _ final hfinal
    obtain ⟨stored, hstored⟩ := completed_stored hstates hlast
    have hgone := hfinal.racks id
    constructor <;> intro hsame <;> grind [hsame.racks id, hrenames.stored]
  refine ⟨hheld, ?_⟩
  rcases hstates with ⟨_, hfree⟩ | rfl
  · exact hfree
  · -- The new name is another entity's, and the rollback shows.
    cases htaken : resolved reg newName with
    | none => rfl
    | some =>
      exfalso
      obtain ⟨name, hheld⟩ := hheld
      have hself := hrenames.not_points htaken
      have hfinal : (reg.write (.entity ⟨typeRack, id⟩)
          (orig.approved newName now)).write (.entity ⟨typeRack, id⟩) orig =
            completed cfg reg (.approve id newName) inputs := by
        simpa [revertStates] using hlast
      refine not_recovers_rollback hgrace hcrash (broken_create hholds hrenames.named hself)
        ((holderOf_write_entity ..).trans hheld)
        ((resolved_write_entity_of_ne hself).trans htaken) ?_ hrecovers
      grind [hrenames.stored]

/-- A registry with one Rack that registered without a name. -/
def unnamedBucket : RegBucket :=
  Bucket.empty.write (.entity ⟨typeRack, 1⟩)
    ((sampleHello 1 "" "bootstrap").newRecord sampleSettings 1 secretA 7)

/-- The approval that gives that Rack a name stops between the record and the
name key: the sweep takes the Rack for an unfinished registration. -/
theorem not_recovers_unnamed : Orderly unnamedBucket ∧ (∀ id, HoldsName unnamedBucket id) ∧
      ¬ Recovers sampleSettings 300 unnamedBucket (.approve 1 "rack-a")
        (fun _ => sampleInput 2 secretA) := by
  have hstored : ∀ ref, recordOf unnamedBucket ref = if ref = ⟨typeRack, 1⟩ then
      some ((sampleHello 1 "" "bootstrap").newRecord sampleSettings 1 secretA 7) else none := by
    simp [unnamedBucket]
  have hnames : ∀ name, holderOf unnamedBucket name = none := by
    simp [unnamedBucket]
  have horderly : Orderly unnamedBucket := by
    intro ref rec hrecord
    grind [Record.ref, Hello.newRecord, sampleHello]
  have hholds : ∀ id, HoldsName unnamedBucket id := by
    intro id rec hrecord hname
    grind [Hello.newRecord, sampleHello]
  refine ⟨horderly, hholds, fun hrecovers => ?_⟩
  have hrenames : Renames unnamedBucket 1 "rack-a"
      ((sampleHello 1 "" "bootstrap").newRecord sampleSettings 1 secretA 7) := by
    refine ⟨by simp [hstored], by decide, by decide, ?_⟩
    intro holder hresolved
    simp [resolved, hnames] at hresolved
  obtain ⟨⟨name, hheld⟩, _⟩ := crashSafe_approve (by decide) horderly hholds hrecovers _ hrenames
  simp [hnames] at hheld

/-- Take any registry state in which every named Rack holds its name key, and
any registration, adoption, approval, removal or status update, run alone and
cut off anywhere.  The sweep restores the view before the call or after it, at
every crash point and whatever the clock and the minted values, exactly when
the call is crash-safe in that state. -/
theorem recovers_iff_crashSafe {cfg : Settings} {grace : ℤ}
    {reg : RegBucket} {call : Call} {inputs : ℕ → Input} (hgrace : 0 < grace)
    (horderly : Orderly reg) (hholds : ∀ id, HoldsName reg id)
    (hcall : ∀ self, call ≠ .upsertSelf self) :
    Recovers cfg grace reg call inputs ↔ CrashSafe cfg reg call := by
  constructor
  · intro hrecovers
    cases call with
    | register => exact crashSafe_register hgrace horderly hholds hrecovers
    | approve => exact crashSafe_approve hgrace horderly hholds hrecovers
    | remove | updateStatus => trivial
    | upsertSelf self => exact absurd rfl (hcall self)
  · intro hsafe crash hcrash later helapsed
    obtain ⟨states, hstory, hpoints, hlast⟩ := exists_story horderly call inputs
    have hsurvives : Survives grace reg (completed cfg reg call inputs)
        states := survives_story hholds hstory horderly hcall hsafe hlast
    exact (hsurvives crash ((hpoints crash).mp hcrash)).imp
      (fun hrestores => hrestores later helapsed)
      (fun hrestores => hrestores later helapsed)

/-- The adoption of the sample Rack by another machine is crash-safe. -/
theorem recovers_adoption : Recovers sampleSettings 300 namedBucket
      (.register (sampleHello 2 "rack-a" secretA)) (fun _ => sampleInput 2 secretB) := by
  refine (recovers_iff_crashSafe (by decide) ?_ ?_ (by simp)).mpr ?_
  · exact orderly_namedBucket
  · intro id rec hrecord _
    obtain ⟨href, rfl⟩ := eq_of_recordOf_namedBucket hrecord
    rw [href]
    simp [namedBucket, sampleRecord, Hello.newRecord, sampleHello]
  · intro holder _ _
    constructor
    · intro name hholder
      have href := (eq_of_holderOf_namedBucket hholder).2
      exact absurd href (by decide)
    · exact fun name hholder => (eq_of_holderOf_namedBucket hholder).1

end

end Fluxrig.Registry
