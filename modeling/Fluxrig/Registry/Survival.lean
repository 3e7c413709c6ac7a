import Fluxrig.Registry.Repair

/-!
# Stories that survive a crash

A call that is cut off between two of its writes leaves one of the buckets of
its story behind.  This file shows, story by story, that a sweep after the grace
period brings each of these buckets back to the view before the call or to the
view after it.  For adoptions and renames that takes a condition on the name
keys, `CrashSafe`.
-/

namespace Fluxrig.Registry

open Fluxrig.Core

/-- The bucket after a sweep that runs alone. -/
def swept (grace : ℤ) (crash : RegBucket) (later : ℕ → Input) : RegBucket :=
  ((sweepOrphans grace).runAlone exec (crash, later)).2.1

/-- The grace period of every record has passed. -/
def Elapsed (grace : ℤ) (crash : RegBucket) (input : Input) : Prop :=
  ∀ ref rec, recordOf crash ref = some rec → grace ≤ input.now - rec.updatedAt

/-- The adoptions and renames that survive a crash.  When a Rack is adopted, no
name key may point at the new machine yet, and none but the adopted name at the
old one.  When a Rack is renamed, some name key must point at it, and the new
name must not resolve. -/
def CrashSafe (cfg : Settings) (reg : RegBucket) : Call → Prop
  | .register hello => ∀ holder, Adopts cfg reg hello holder →
      hello.typeID = typeRack →
        (∀ name, holderOf reg name ≠ some hello.ref) ∧
          ∀ name, holderOf reg name = some holder.ref → name = hello.name
  | .approve id newName => ∀ orig, Renames reg id newName orig →
      (∃ name, holderOf reg name = some ⟨typeRack, id⟩) ∧ resolved reg newName = none
  | _ => True

section

variable {reg : RegBucket} {ref : NameRef} {rec : Record}

/-- A new record that no reader finds: it is no Rack and its name is not its. -/
lemma sameView_create (habsent : recordOf reg ref = none) (htype : ref.typeID ≠ typeRack)
    (hlost : holderOf reg rec.name ≠ some ref) :
    SameView (reg.write (.entity ref) rec) reg := by
  constructor <;> grind

lemma sameView_remove (hstored : recordOf reg ref = some rec) (htype : ref.typeID ≠ typeRack)
    (hlost : holderOf reg rec.name ≠ some ref) :
    SameView reg (reg.remove (.entity ref)) := by
  constructor <;> grind

/-- Deleting a new record gives the old view back. -/
lemma sameView_undo (habsent : recordOf reg ref = none) :
    SameView ((reg.write (.entity ref) rec).remove (.entity ref)) reg := by
  constructor <;> grind

/-- Releasing a name that the record does not carry, or that no record carries
any more, is not seen. -/
lemma sameView_released {name : String}
    (hstale : ∀ rec, recordOf reg ref = some rec → rec.name ≠ name) :
    SameView reg (released reg name ref) := by
  constructor <;> grind

variable {id : UUID} {name : String}

section

variable (hholds : HoldsName reg id)

include hholds

lemma HoldsName.write_entity {rec : Record} (hother : (⟨typeRack, id⟩ : NameRef) ≠ ref) :
    HoldsName (reg.write (.entity ref) rec) id := by
  grind [HoldsName]

lemma HoldsName.remove_entity : HoldsName (reg.remove (.entity ref)) id := by
  grind [HoldsName]

lemma HoldsName.released (hother : (⟨typeRack, id⟩ : NameRef) ≠ ref ∨
      ∀ rec, recordOf reg ⟨typeRack, id⟩ = some rec → rec.name ≠ name) :
    HoldsName (released reg name ref) id := by
  grind [HoldsName]

end

end

section

variable {cfg : Settings} {grace : ℤ} {reg crash before after : RegBucket}

/-- Every sweep after the grace period turns `crash` into the view of
`target`. -/
def Restores (grace : ℤ) (crash target : RegBucket) : Prop :=
  ∀ later : ℕ → Input, (∀ step, Elapsed grace crash (later step)) →
    SameView (swept grace crash later) target

variable {target : RegBucket} {id : UUID} {rec : Record} {ref : NameRef}
  {states : List RegBucket}

lemma restores_of_alone (halone : (sweepOrphans grace).Alone exec (Elapsed grace crash)
      (fun _ _ final => SameView final target) {crash} crash) : Restores grace crash target :=
  fun _ helapsed => halone.runAlone (Set.mem_singleton crash) helapsed

lemma restores_healthy (hholds : ∀ id, HoldsName crash id) (hsame : SameView crash target) :
    Restores grace crash target := by
  apply restores_of_alone
  apply (alone_sweep_healthy (Set.mem_singleton crash) hholds).mono
  exact fun _ _ _ hfinal => hfinal.1.trans hsame

lemma Broken.old (hbroken : Broken crash id rec) (input : Input)
    (helapsed : Elapsed grace crash input) : grace ≤ input.now - rec.updatedAt :=
  helapsed _ _ hbroken.stored

lemma restores_delete (hbroken : Broken crash id rec)
    (hunheld : ∀ name, holderOf crash name ≠ some ⟨typeRack, id⟩)
    (hsame : SameView (crash.remove (.entity ⟨typeRack, id⟩)) target) :
    Restores grace crash target := by
  apply restores_of_alone
  apply (alone_sweep_delete (Set.mem_singleton crash) hbroken hbroken.old hunheld).mono
  exact fun _ _ _ hfinal => SameView.trans hfinal hsame

lemma restores_complete {name : String} (hbroken : Broken crash id rec)
    (hheld : holderOf crash name = some ⟨typeRack, id⟩)
    (hfree : resolved crash rec.name = none)
    (hsame : SameView (crash.write (.name rec.name) ⟨typeRack, id⟩) target) :
    Restores grace crash target := by
  apply restores_of_alone
  apply (alone_sweep_complete (Set.mem_singleton crash) hbroken hbroken.old hheld hfree).mono
  exact fun _ _ _ hfinal => SameView.trans hfinal hsame

lemma holdsName_rewrite {old : Record} (hholds : ∀ id, HoldsName reg id)
    (hstored : recordOf reg ref = some old) (hname : rec.name = old.name) (id : UUID) :
    HoldsName (reg.write (.entity ref) rec) id := by
  have hheld := hholds id
  grind [HoldsName]

/-- The Rack that an interrupted registration left without its name is the only
broken one. -/
lemma broken_create (hholds : ∀ id, HoldsName reg id) (hname : rec.name ≠ "")
    (hlost : holderOf reg rec.name ≠ some ⟨typeRack, id⟩) :
    Broken (reg.write (.entity ⟨typeRack, id⟩) rec) id rec where
  others other hother := (hholds other).write_entity (by simpa using hother)
  stored := by simp
  named := hname
  lost := by
    rw [holderOf_write_entity]
    exact hlost

/-- A sweep after the grace period brings every bucket of the story back to
the view before it or after it. -/
def Survives (grace : ℤ) (before after : RegBucket) (states : List RegBucket) : Prop :=
  ∀ crash ∈ states, Restores grace crash before ∨ Restores grace crash after

lemma survives_cons (hrestores : Restores grace crash before ∨ Restores grace crash after)
    (hrest : Survives grace before after states) :
    Survives grace before after (crash :: states) := by
  intro state hstate
  rcases List.mem_cons.mp hstate with rfl | hlater
  · exact hrestores
  · exact hrest state hlater

lemma survives_first (hbefore : ∀ id, HoldsName before id)
    (hrest : Survives grace before after states) :
    Survives grace before after (before :: states) :=
  survives_cons (Or.inl (restores_healthy hbefore (SameView.refl before))) hrest

lemma survives_last (hafter : ∀ id, HoldsName after id) : Survives grace before after [after] :=
  survives_cons (Or.inr (restores_healthy hafter (SameView.refl after))) nofun

variable (hholds : ∀ id, HoldsName reg id)

include hholds

/-- Whoever claims a name that resolved to nobody ends up holding it, and
nobody else loses theirs. -/
lemma holdsName_claimed (hfree : rec.name = "" ∨ resolved reg rec.name = none) (id : UUID) :
    HoldsName (claimed (reg.write (.entity ref) rec) rec.name ref) id := by
  have hheld := hholds id
  grind [HoldsName, claimed]

/-- A record with a free name is written, and its name is still to be claimed. -/
lemma restores_claimed {name : String} (hnamed : rec.name ≠ "")
    (hfree : resolved reg rec.name = none)
    (hheld : holderOf reg name = some ⟨typeRack, id⟩)
    (hsame : SameView (claimed (reg.write (.entity ⟨typeRack, id⟩) rec) rec.name
      ⟨typeRack, id⟩) target) :
    Restores grace (reg.write (.entity ⟨typeRack, id⟩) rec) target := by
  by_cases hself : holderOf reg rec.name = some ⟨typeRack, id⟩
  · have hclaimed := @holdsName_claimed reg rec ⟨typeRack, id⟩ hholds (Or.inr hfree)
    rw [claimed, holderOf_write_entity, if_pos (Or.inr hself)] at hclaimed hsame
    exact restores_healthy hclaimed hsame
  · rw [claimed, holderOf_write_entity, if_neg (not_or.mpr ⟨hnamed, hself⟩)] at hsame
    apply restores_complete (broken_create hholds hnamed hself) _ _ hsame
    · exact name
    · rw [holderOf_write_entity]
      exact hheld
    · exact (resolved_write_entity_of_ne hself).trans hfree

lemma survives_fresh (habsent : recordOf reg rec.ref = none)
    (hfree : rec.name = "" ∨ resolved reg rec.name = none) :
    Survives grace reg (claimed (reg.write (.entity rec.ref) rec) rec.name rec.ref)
      (freshStates reg rec) := by
  have hfinal := @holdsName_claimed reg rec rec.ref hholds hfree
  apply survives_first hholds
  apply survives_cons _ (survives_last hfinal)
  by_cases hself : rec.name = "" ∨ holderOf reg rec.name = some rec.ref
  · -- The claim finds nothing to do: the second write is the last.
    rw [claimed, holderOf_write_entity, if_pos hself] at hfinal ⊢
    exact Or.inr (restores_healthy hfinal (SameView.refl _))
  rw [not_or] at hself
  by_cases htype : rec.typeID = typeRack
  · have href : rec.ref = ⟨typeRack, rec.machineID⟩ := by
      rw [Record.ref, htype]
    rw [href] at habsent hself ⊢
    by_cases hheld : ∃ name, holderOf reg name = some ⟨typeRack, rec.machineID⟩
    · obtain ⟨name, hheld⟩ := hheld
      right
      exact restores_claimed hholds hself.1 (hfree.resolve_left hself.1) hheld (SameView.refl _)
    · left
      exact restores_delete (broken_create hholds hself.1 hself.2) (by grind)
        (sameView_undo habsent)
  · left
    apply restores_healthy _ (sameView_create habsent htype (by grind))
    exact fun id => (hholds id).write_entity (by grind [Record.ref])

omit hholds

section

variable {hello : Hello} {holder : Record} {now : Time}

/-- The copy is written and the name points at it. -/
abbrev pointed (reg : RegBucket) (hello : Hello) (holder : Record) (now : Time) : RegBucket :=
  (reg.write (.entity hello.ref) (holder.moved hello now)).write (.name hello.name) hello.ref

variable (hadopts : Adopts cfg reg hello holder) (horderly : Orderly reg)

include hadopts horderly

/-- Once the name points at the copy, only the original has lost it. -/
lemma holdsName_pointed (hholds : ∀ id, HoldsName reg id) {id : UUID}
    (hother : (⟨typeRack, id⟩ : NameRef) ≠ holder.ref) :
    HoldsName (pointed reg hello holder now) id := by
  have hname : (holder.moved hello now).name = hello.name := hadopts.name_eq
  have hpoints := (hadopts.points horderly).1
  have hheld := hholds id
  grind [HoldsName]

lemma holdsName_adopted (hholds : ∀ id, HoldsName reg id) (id : UUID) :
    HoldsName ((pointed reg hello holder now).remove (.entity holder.ref)) id := by
  by_cases hself : (⟨typeRack, id⟩ : NameRef) = holder.ref
  · grind [HoldsName]
  · exact (holdsName_pointed hadopts horderly hholds hself).remove_entity

lemma pointed_stored : recordOf (pointed reg hello holder now) holder.ref = some holder := by
  grind [hadopts.ref_ne horderly, hadopts.points horderly]

/-- The original is the only broken Rack once its name points at the copy. -/
lemma broken_pointed (hholds : ∀ id, HoldsName reg id)
    (hrack : holder.ref = ⟨typeRack, holder.machineID⟩) :
    Broken (pointed reg hello holder now) holder.machineID holder where
  others other hother := by
    apply holdsName_pointed hadopts horderly hholds
    rw [hrack]
    simpa using hother
  stored := by
    rw [← hrack]
    exact pointed_stored hadopts horderly
  named := hadopts.name_eq ▸ hadopts.named
  lost := by
    rw [← hrack, holderOf_write_name, if_pos hadopts.name_eq]
    simpa using (hadopts.ref_ne horderly).symm

lemma survives_adopt (hholds : ∀ id, HoldsName reg id)
    (hsafe : CrashSafe cfg reg (.register hello)) :
    Survives grace reg ((pointed reg hello holder now).remove (.entity holder.ref))
      (adoptStates reg holder.ref hello.ref hello.name (holder.moved hello now)) := by
  obtain ⟨hholder, hstored⟩ := hadopts.points horderly
  have hne := hadopts.ref_ne horderly
  have hname : (holder.moved hello now).name = hello.name := hadopts.name_eq
  have hlost : holderOf reg (holder.moved hello now).name ≠ some hello.ref := by grind
  have hfinal := @holdsName_adopted _ _ _ _ now hadopts horderly hholds
  apply survives_first hholds
  by_cases htype : hello.typeID = typeRack
  · -- The sweep deletes the copy before the move of the name, the original after.
    obtain ⟨hunheld, honly⟩ := hsafe holder hadopts htype
    have hnew : hello.ref = ⟨typeRack, hello.machineID⟩ := by
      rw [Hello.ref, htype]
    have hold : holder.ref = ⟨typeRack, holder.machineID⟩ := by
      rw [Record.ref, hadopts.sameType, htype]
    apply survives_cons
    · left
      rw [hnew] at hlost hunheld ⊢
      apply restores_delete
      · exact broken_create hholds (hname ▸ hadopts.named) hlost
      · grind
      · exact sameView_undo (hnew ▸ hadopts.unknown)
    apply survives_cons _ (survives_last hfinal)
    right
    apply restores_delete (broken_pointed hadopts horderly hholds hold)
    · grind
    · rw [hold]
      exact SameView.refl _
  · have htypes : holder.ref.typeID ≠ typeRack := fun heq => htype (hadopts.sameType ▸ heq)
    apply survives_cons
    · left
      apply restores_healthy _ (sameView_create hadopts.unknown htype hlost)
      exact fun id => (hholds id).write_entity (by grind [Hello.ref])
    apply survives_cons _ (survives_last hfinal)
    right
    apply restores_healthy
    · exact fun id => holdsName_pointed hadopts horderly hholds (by grind)
    · apply sameView_remove (pointed_stored hadopts horderly) htypes
      grind [hadopts.name_eq]

end

include hholds

lemma survives_rename {newName : String} {orig : Record} {now : Time}
    (hrenames : Renames reg id newName orig) (hfree : resolved reg newName = none)
    (hheld : ∃ name, holderOf reg name = some ⟨typeRack, id⟩) :
    Survives grace reg (released (claimed (reg.write (.entity ⟨typeRack, id⟩)
        (orig.approved newName now)) newName ⟨typeRack, id⟩) orig.name ⟨typeRack, id⟩)
      (renameStates reg ⟨typeRack, id⟩ orig newName now) := by
  have hpointed : ∀ other, HoldsName (claimed (reg.write (.entity ⟨typeRack, id⟩)
      (orig.approved newName now)) newName ⟨typeRack, id⟩) other :=
    holdsName_claimed hholds (Or.inr hfree)
  have hstale : ∀ rec, recordOf (claimed (reg.write (.entity ⟨typeRack, id⟩)
      (orig.approved newName now)) newName ⟨typeRack, id⟩) ⟨typeRack, id⟩ =
        some rec → rec.name ≠ orig.name := by
    grind [Record.approved, hrenames.changed]
  have hsame := sameView_released hstale
  obtain ⟨name, hheld⟩ := hheld
  apply survives_first hholds
  apply survives_cons (Or.inr (restores_claimed hholds hrenames.named hfree hheld hsame))
  apply survives_cons (Or.inr (restores_healthy hpointed hsame))
  exact survives_last fun other => (hpointed other).released (by grind)

lemma survives_remove : Survives grace reg (released (reg.remove (.entity ref)) rec.name ref)
      (removeStates reg ref rec) := by
  have hremoved : ∀ id, HoldsName (reg.remove (.entity ref)) id :=
    fun id => (hholds id).remove_entity
  apply survives_first hholds
  apply survives_cons (Or.inr (restores_healthy hremoved (sameView_released (by grind))))
  exact survives_last fun id => (hremoved id).released (by grind)

/-- Every story of a safe call survives. -/
lemma survives_story {call : Call} (hstory : Story cfg reg call states) (horderly : Orderly reg)
    (hcall : ∀ self, call ≠ .upsertSelf self) (hsafe : CrashSafe cfg reg call)
    (hlast : states.getLast? = some after) : Survives grace reg after states := by
  cases hstory with
  | refuse =>
    exact survives_first hholds nofun
  | rewrite _ hstored _ hname =>
    obtain rfl : reg.write _ _ = after := by simpa using hlast
    exact survives_first hholds (survives_last (holdsName_rewrite hholds hstored hname))
  | fresh _ habsent hfree =>
    obtain rfl : claimed _ _ _ = after := by simpa [freshStates] using hlast
    exact survives_fresh hholds habsent hfree
  | adopt _ hadopts =>
    obtain rfl : Bucket.remove _ _ = after := by simpa [adoptStates] using hlast
    exact survives_adopt hadopts horderly hholds hsafe
  | rename _ hrenames hfree =>
    obtain rfl : released _ _ _ = after := by simpa [renameStates] using hlast
    exact survives_rename hholds hrenames hfree (hsafe _ hrenames).1
  | revert _ hrenames htaken =>
    rw [(hsafe _ hrenames).2] at htaken
    exact absurd htaken.symm (Option.some_ne_none _)
  | remove =>
    obtain rfl : released _ _ _ = after := by simpa [removeStates] using hlast
    exact survives_remove hholds
  | assign => exact absurd rfl (hcall _)

end

end Fluxrig.Registry
