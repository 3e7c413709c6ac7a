import Fluxrig.Registry.Alone

/-!
# What each call does alone

A call that runs without interference passes through a few buckets, one for
each write, and which ones is decided by the bucket it starts from.  `Story`
lists them for every call and every way it can go: refused, a single rewrite, a
fresh registration, an adoption, a rename, a rename taken back, a removal.  The
main theorem says that every run of every call is one of these stories.
-/

namespace Fluxrig.Registry

open Fluxrig.Core

/-- Every record is stored under its own reference. -/
def Orderly (reg : RegBucket) : Prop :=
  ∀ ref rec, recordOf reg ref = some rec → rec.ref = ref

lemma orderly_namedBucket : Orderly namedBucket := by
  intro ref rec hrecord
  obtain ⟨rfl, rfl⟩ := eq_of_recordOf_namedBucket hrecord
  rfl

/-- The Hello comes from a new machine with the name and the secret of
`holder`. -/
structure Adopts (cfg : Settings) (reg : RegBucket) (hello : Hello) (holder : Record) : Prop where
  identified : hello.machineID ≠ nilID
  unknown : recordOf reg hello.ref = none
  named : hello.name ≠ ""
  resolves : resolved reg hello.name = some holder
  sameType : holder.typeID = hello.typeID
  authentic : secretMatches cfg holder.secretHash hello.secret = true

/-- The approval gives the Rack `orig` another name, and is not refused because
the name resolves to another machine. -/
structure Renames (reg : RegBucket) (id : UUID) (newName : String) (orig : Record) : Prop where
  stored : recordOf reg ⟨typeRack, id⟩ = some orig
  named : newName ≠ ""
  changed : newName ≠ orig.name
  unopposed : ∀ {holder}, resolved reg newName = some holder → holder.machineID = id

/-- The call neither adopts nor renames. -/
def Plain (cfg : Settings) (reg : RegBucket) : Call → Prop
  | .register hello => ∀ holder, ¬ Adopts cfg reg hello holder
  | .approve id newName => ∀ orig, ¬ Renames reg id newName orig
  | _ => True

/-- The record an adoption writes under the new machine ID. -/
def Record.moved (holder : Record) (hello : Hello) (now : Time) : Record :=
  { holder.renew hello now with machineID := hello.machineID }

/-- Write the copy, repoint the name, delete the original. -/
def adoptStates (reg : RegBucket) (source target : NameRef) (name : String)
    (moved : Record) : List RegBucket :=
  let created := reg.write (.entity target) moved
  let pointed := created.write (.name name) target
  [reg, created, pointed, pointed.remove (.entity source)]

/-- Write a new record, then claim its name. -/
def freshStates (reg : RegBucket) (rec : Record) : List RegBucket :=
  let created := reg.write (.entity rec.ref) rec
  [reg, created, claimed created rec.name rec.ref]

/-- The record an approval writes. -/
def Record.approved (orig : Record) (name : String) (now : Time) : Record :=
  { orig with name := name, status := "active", updatedAt := now }

variable (reg : RegBucket) (ref : NameRef)

/-- Write the record under its new name, claim that, release the old one. -/
def renameStates (orig : Record) (newName : String) (now : Time) : List RegBucket :=
  let updated := reg.write (.entity ref) (orig.approved newName now)
  let pointed := claimed updated newName ref
  [reg, updated, pointed, released pointed orig.name ref]

/-- The new name is another entity's: the record is written back. -/
def revertStates (orig : Record) (newName : String) (now : Time) : List RegBucket :=
  let updated := reg.write (.entity ref) (orig.approved newName now)
  [reg, updated, updated.write (.entity ref) orig]

def removeStates (rec : Record) : List RegBucket :=
  let removed := reg.remove (.entity ref)
  [reg, removed, released removed rec.name ref]

/-- The buckets a call passes through, first to last. -/
inductive Story (cfg : Settings) (reg : RegBucket) : Call → List RegBucket → Prop where
  | refuse {call : Call} (hplain : Plain cfg reg call) : Story cfg reg call [reg]
  | rewrite {call : Call} {ref : NameRef} {old rec : Record}
      (hplain : Plain cfg reg call)
      (hstored : recordOf reg ref = some old)
      (href : rec.ref = old.ref) (hname : rec.name = old.name) :
      Story cfg reg call [reg, reg.write (.entity ref) rec]
  | fresh {hello : Hello} {rec : Record}
      (hplain : Plain cfg reg (.register hello))
      (habsent : recordOf reg rec.ref = none)
      (hfree : rec.name = "" ∨ resolved reg rec.name = none) :
      Story cfg reg (.register hello) (freshStates reg rec)
  | adopt {hello : Hello} {holder : Record} (now : Time)
      (hadopts : Adopts cfg reg hello holder) :
      Story cfg reg (.register hello)
        (adoptStates reg holder.ref hello.ref hello.name (holder.moved hello now))
  | rename {id : UUID} {newName : String} {orig : Record} (now : Time)
      (hrenames : Renames reg id newName orig)
      (hfree : resolved reg newName = none) :
      Story cfg reg (.approve id newName) (renameStates reg ⟨typeRack, id⟩ orig newName now)
  | revert {id : UUID} {newName : String} {orig holder : Record} (now : Time)
      (hrenames : Renames reg id newName orig)
      (htaken : resolved reg newName = some holder) :
      Story cfg reg (.approve id newName) (revertStates reg ⟨typeRack, id⟩ orig newName now)
  | remove {typeID : UInt8} {id : UUID} {rec : Record}
      (hstored : recordOf reg ⟨typeID, id⟩ = some rec) :
      Story cfg reg (.remove typeID id) (removeStates reg ⟨typeID, id⟩ rec)
  | assign {self : Self} {rec : Record} (href : rec.ref = self.ref)
      (hname : rec.name = self.name) :
      Story cfg reg (.upsertSelf self) [reg, reg.write (.entity self.ref) rec]

/-- The buckets passed through are `states`, the last of them being `final`. -/
def Passed (states : List RegBucket) (passed : Set RegBucket) (final : RegBucket) : Prop :=
  passed = {point | point ∈ states} ∧ states.getLast? = some final

/-- A run that told one of the stories of `call`. -/
def Tells (cfg : Settings) (reg : RegBucket) (call : Call)
    (passed : Set RegBucket) (final : RegBucket) : Prop :=
  ∃ states, Story cfg reg call states ∧ Passed states passed final

lemma passed_start (reg : RegBucket) : Passed [reg] {reg} reg := by
  constructor
  · ext point
    simp
  · rfl

lemma Passed.write {states : List RegBucket} {passed : Set RegBucket}
    {final : RegBucket} (hpassed : Passed states passed final)
    (next : RegBucket) :
    Passed (states ++ [next]) (insert next passed) next := by
  constructor
  · ext point
    simp [hpassed.1, or_comm]
  · simp

section

variable {cfg : Settings} {reg : RegBucket} {hello : Hello}
variable {holder : Record}

section

variable (hadopts : Adopts cfg reg hello holder)

include hadopts

lemma Adopts.moved_ref (now : Time) : (holder.moved hello now).ref = hello.ref := by
  simp [Record.ref, Record.moved, Record.renew, Hello.ref, hadopts.sameType]

lemma Adopts.name_eq : holder.name = hello.name := by
  obtain ⟨_, _, _, hname⟩ := resolved_eq_some_iff.mp hadopts.resolves
  exact hname

lemma Adopts.points (horderly : Orderly reg) :
    holderOf reg hello.name = some holder.ref ∧ recordOf reg holder.ref = some holder := by
  obtain ⟨ref, hholder, hrecord, _⟩ := resolved_eq_some_iff.mp hadopts.resolves
  obtain rfl : holder.ref = ref := horderly _ _ hrecord
  exact ⟨hholder, hrecord⟩

lemma Adopts.ref_ne (horderly : Orderly reg) : holder.ref ≠ hello.ref := by
  intro heq
  have hstored := (hadopts.points horderly).2
  rw [heq, hadopts.unknown] at hstored
  exact Option.some_ne_none _ hstored.symm

end

end

/-- A name that resolves, though the Rack does not carry it, points elsewhere. -/
lemma Renames.not_points {reg : RegBucket} {id : UUID} {newName : String}
    {orig holder : Record} (hrenames : Renames reg id newName orig)
    (hresolved : resolved reg newName = some holder) :
    holderOf reg newName ≠ some ⟨typeRack, id⟩ := by
  obtain ⟨ref, hholder, hrecord, hcarries⟩ := resolved_eq_some_iff.mp hresolved
  intro hself
  rw [hholder, Option.some.injEq] at hself
  rw [hself, hrenames.stored, Option.some.injEq] at hrecord
  exact hrenames.changed (hrecord ▸ hcarries.symm)

/-- Writing a record does not make its own name unclaimable. -/
lemma claimable_write {reg : RegBucket} {ref : NameRef} {rec : Record}
    {name : String} (hfree : name = "" ∨ resolved reg name = none) :
    name = "" ∨ holderOf (reg.write (.entity ref) rec) name = some ref ∨
      resolved (reg.write (.entity ref) rec) name = none := by
  rcases hfree with hname | hfree
  · exact Or.inl hname
  rw [holderOf_write_entity]
  by_cases hself : holderOf reg name = some ref
  · exact Or.inr (Or.inl hself)
  · refine Or.inr (Or.inr ?_)
    rw [resolved_write_entity_of_ne hself]
    exact hfree

section

variable {cfg : Settings} {reg : RegBucket} {allowed : Input → Prop}

/-- How an attempt of a retried call may end. -/
def Ends {A : Type} (cfg : Settings) (reg : RegBucket) (call : Call)
    (outcome : Except Err A) (passed : Set RegBucket) (final : RegBucket) : Prop :=
  Attempt (fun _ => Tells cfg reg call) {reg} reg outcome passed final

variable {call : Call} {hello : Hello} {now : Time} {id : UUID} {newName : String}

lemma tells_refuse (hplain : Plain cfg reg call) : Tells cfg reg call {reg} reg :=
  ⟨[reg], .refuse hplain, passed_start reg⟩

lemma ends_refuse {A : Type} (hplain : Plain cfg reg call) (err : Err) :
    Ends cfg reg call (.error err : Except Err A) {reg} reg := by
  by_cases hconflict : err = .conflict
  · exact Or.inl ⟨congrArg _ hconflict, rfl, rfl, fun _ => tells_refuse hplain⟩
  · refine Or.inr ⟨?_, tells_refuse hplain⟩
    intro heq
    exact hconflict (Except.error.inj heq)

lemma ends_ok {A : Type} {value : A} {states : List RegBucket} {passed : Set RegBucket}
    {final : RegBucket} (hstory : Story cfg reg call states)
    (hpassed : Passed states passed final) :
    Ends cfg reg call (.ok value : Except Err A) passed final := by
  refine Or.inr ⟨?_, states, hstory, hpassed⟩
  simp

lemma ends_rewrite {A : Type} {value : A} {ref : NameRef} {item : Item Record} {rec : Record}
    (hplain : Plain cfg reg call) (hitem : reg.get (.entity ref) = some item)
    (href : rec.ref = item.value.ref) (hname : rec.name = item.value.name) :
    Ends cfg reg call (.ok value : Except Err A)
      {reg.write (.entity ref) rec, reg} (reg.write (.entity ref) rec) :=
  ends_ok (.rewrite hplain (recordOf_of_get hitem) href hname) ((passed_start reg).write _)

lemma ends_adopt (horderly : Orderly reg) {holder : Record}
    (hadopts : Adopts cfg reg hello holder) :
    (adopt holder hello now).Alone exec allowed (Ends cfg reg (.register hello)) {reg} reg := by
  obtain ⟨hholder, hrecord⟩ := hadopts.points horderly
  have hnew := hadopts.moved_ref now
  have hdiffers : holder.ref ≠ (holder.moved hello now).ref := hnew ▸ hadopts.ref_ne horderly
  have hsame : ¬ (hello.machineID = nilID ∨ hello.machineID = holder.machineID) := by
    rintro (hnil | heq)
    · exact hadopts.identified hnil
    · apply hdiffers
      simp [Record.ref, Record.moved, Record.renew, heq]
  obtain ⟨oldRev, hitem⟩ := exists_get_of_recordOf hrecord
  have habsent : reg.get (.entity (holder.moved hello now).ref) = none := by
    rw [hnew]
    exact recordOf_eq_none_iff.mp hadopts.unknown
  rw [adopt, if_neg hsame]
  apply alone_getRecord_some (Set.mem_singleton reg) hitem
  apply alone_create habsent
  apply alone_moveName (Set.mem_insert _ _)
  · rw [holderOf_write_entity, hadopts.name_eq]
    exact hholder
  apply alone_delete
  · refine ⟨⟨holder, oldRev⟩, ?_, rfl⟩
    rw [Bucket.get_write_of_ne _ _ (by simp), Bucket.get_write_of_ne _ _ (by
      simpa using hdiffers)]
    exact hitem
  apply alone_toRack (Set.mem_insert _ _)
  intro rack _
  have hname : (holder.moved hello now).name = hello.name := hadopts.name_eq
  have hstory : Story cfg reg (.register hello)
      (adoptStates reg holder.ref (holder.moved hello now).ref
        (holder.moved hello now).name (holder.moved hello now)) := by
    rw [hnew, hname]
    exact .adopt now hadopts
  exact ends_ok hstory ((((passed_start reg).write _).write _).write _)

lemma ends_createFresh {registered : Hello} {issued : String} {eid : UUID}
    (hplain : Plain cfg reg (.register hello))
    (hfree : registered.name = "" ∨ resolved reg registered.name = none) :
    (createFresh cfg registered now issued eid).Alone exec allowed
      (Ends cfg reg (.register hello)) {reg} reg := by
  have href : (registered.newRecord cfg now issued eid).ref = registered.ref :=
    rfl
  cases hitem : reg.get (.entity registered.ref) with
  | some =>
    apply alone_create_conflict (Set.mem_singleton reg) hitem
    exact ends_refuse hplain .conflict
  | none =>
    apply alone_create hitem
    apply alone_claimName (Set.mem_insert _ _)
    · exact claimable_write hfree
    apply alone_toRack (Set.mem_insert _ _)
    intro rack _
    have habsent := recordOf_eq_none_iff.mpr hitem
    rw [← href] at habsent
    apply ends_ok (.fresh hplain habsent hfree)
    exact ((passed_start reg).write _).write _

lemma ends_registerFresh (hplain : Plain cfg reg (.register hello))
    (hfree : hello.name = "" ∨ resolved reg hello.name = none) :
    (registerFresh cfg hello now).Alone exec allowed
      (Ends cfg reg (.register hello)) {reg} reg := by
  have hissue : ∀ registered : Hello, registered.name = hello.name →
      (issueFresh cfg registered now).Alone exec allowed
        (Ends cfg reg (.register hello)) {reg} reg := by
    intro registered hname
    apply alone_read .generateSecret (Set.mem_singleton reg) (fun _ _ => rfl)
    intro input _
    cases hsecret : input.secret with
    | none =>
      simp only [exec, hsecret]
      exact ends_refuse hplain .issueSecret
    | some =>
      simp only [exec, hsecret]
      apply Program.Alone.bind
      apply alone_read (.newUUID _) (Set.mem_singleton reg) (fun _ _ => rfl)
      intro input _
      cases hfresh : input.uuid with
      | none =>
        simp only [exec, hfresh]
        exact ends_refuse hplain .mintEntityID
      | some =>
        simp only [exec, hfresh]
        exact ends_createFresh hplain (hname ▸ hfree)
  rw [registerFresh]
  split
  · exact ends_refuse hplain .bootstrapSecretMismatch
  split
  · apply alone_read (.newUUID _) (Set.mem_singleton reg) (fun _ _ => rfl)
    intro input _
    cases hfresh : input.uuid with
    | none =>
      simp only [exec, hfresh]
      exact ends_refuse hplain .mintMachineID
    | some machineID =>
      simp only [exec, hfresh]
      exact hissue { hello with machineID := machineID } rfl
  · exact hissue hello rfl

lemma ends_registerNamed (horderly : Orderly reg)
    (hunknown : hello.machineID ≠ nilID → recordOf reg hello.ref = none) :
    (registerNamed cfg hello now).Alone exec allowed
      (Ends cfg reg (.register hello)) {reg} reg := by
  rw [registerNamed]
  split
  next hname =>
    exact ends_registerFresh (fun _ hadopts => hadopts.named hname) (Or.inl hname)
  next hname =>
    apply Program.Alone.bind
    apply alone_resolveName (Set.mem_singleton reg)
    cases hresolved : resolved reg hello.name with
    | none =>
      have hplain : Plain cfg reg (.register hello) := by
        intro holder hadopts
        rw [hadopts.resolves] at hresolved
        exact Option.some_ne_none _ hresolved
      simp only [resolution, hresolved]
      exact ends_registerFresh hplain (Or.inr hresolved)
    | some =>
      simp only [resolution, hresolved]
      split
      next hmismatch =>
        apply ends_refuse
        intro other hadopts
        rw [hadopts.resolves, Option.some.injEq] at hresolved
        subst hresolved
        rcases hmismatch with htype | hsecret
        · exact htype hadopts.sameType
        · exact hsecret hadopts.authentic
      next hmatch =>
        rw [not_or, not_not, not_not] at hmatch
        by_cases hnil : hello.machineID = nilID
        · rw [adopt, if_pos (Or.inl hnil)]
          apply ends_refuse
          exact fun _ hadopts => hadopts.identified hnil
        · exact ends_adopt horderly ⟨hnil, hunknown hnil, hname, hresolved, hmatch.1, hmatch.2⟩

lemma ends_registerOnce (horderly : Orderly reg) : (registerOnce cfg hello).Alone exec allowed
      (Ends cfg reg (.register hello)) {reg} reg := by
  apply alone_read .now (Set.mem_singleton reg) (fun _ _ => rfl)
  intro input _
  split
  next hnil => exact ends_registerNamed horderly (fun hsome => absurd hnil hsome)
  next hsome =>
    cases hitem : reg.get (.entity hello.ref) with
    | none =>
      apply alone_getRecord_none (Set.mem_singleton reg) hitem
      exact ends_registerNamed horderly (fun _ => recordOf_eq_none_iff.mpr hitem)
    | some item =>
      have hstored := recordOf_of_get hitem
      have hplain : Plain cfg reg (.register hello) := by
        intro holder hadopts
        rw [hadopts.unknown] at hstored
        exact Option.some_ne_none _ hstored.symm
      apply alone_getRecord_some (Set.mem_singleton reg) hitem
      simp only [registerKnown]
      split
      · exact ends_refuse hplain _
      apply alone_update ⟨item, hitem, rfl⟩
      apply alone_toRack (Set.mem_insert _ _)
      intro rack _
      exact ends_rewrite hplain hitem rfl rfl

lemma ends_approveAs_same {item : Item Record}
    (hitem : reg.get (.entity ⟨typeRack, id⟩) = some item)
    (hplain : Plain cfg reg (.approve id newName)) :
    (approveAs item.value item.rev id item.value.name).Alone exec allowed
      (Ends cfg reg (.approve id newName)) {reg} reg := by
  have hat : reg.At (.entity ⟨typeRack, id⟩) item.rev := ⟨item, hitem, rfl⟩
  apply alone_read .now (Set.mem_singleton reg) (fun _ _ => rfl)
  intro input _
  apply alone_update hat
  simp only [if_true]
  apply alone_toRack (Set.mem_insert _ _)
  intro rack _
  exact ends_rewrite hplain hitem rfl rfl

lemma ends_approveAs {item : Item Record} (hitem : reg.get (.entity ⟨typeRack, id⟩) = some item)
    (hrenames : Renames reg id newName item.value) :
    (approveAs item.value item.rev id newName).Alone exec allowed
      (Ends cfg reg (.approve id newName)) {reg} reg := by
  have hat : reg.At (.entity ⟨typeRack, id⟩) item.rev := ⟨item, hitem, rfl⟩
  apply alone_read .now (Set.mem_singleton reg) (fun _ _ => rfl)
  intro input _
  apply alone_update hat
  simp only [hrenames.changed, if_false]
  cases hresolved : resolved reg newName with
  | none =>
    apply alone_claimName (Set.mem_insert _ _)
    · exact claimable_write (Or.inr hresolved)
    apply alone_releaseName (Set.mem_insert _ _)
    apply alone_toRack (Set.mem_insert _ _)
    intro rack _
    apply ends_ok (.rename input.now hrenames hresolved)
    exact (((passed_start reg).write _).write _).write _
  | some =>
    have hother := hrenames.not_points hresolved
    apply alone_claimName_conflict (Set.mem_insert _ _) hrenames.named
    · rw [holderOf_write_entity]
      exact hother
    · rw [resolved_write_entity_of_ne hother]
      exact hresolved
    apply alone_update
    · exact ⟨_, Bucket.get_write _ _ _, rfl⟩
    refine Or.inr ⟨by simp, _, .revert input.now hrenames hresolved, ?_⟩
    exact ((passed_start reg).write _).write _

lemma ends_approveOnce : (approveOnce id newName).Alone exec allowed
      (Ends cfg reg (.approve id newName)) {reg} reg := by
  cases hitem : reg.get (.entity ⟨typeRack, id⟩) with
  | none =>
    apply alone_getRecord_none (Set.mem_singleton reg) hitem
    apply ends_refuse
    intro orig hrenames
    exact Option.some_ne_none _ (hrenames.stored.symm.trans (recordOf_eq_none_iff.mpr hitem))
  | some item =>
    have hstored := recordOf_of_get hitem
    have horig : ∀ {orig}, Renames reg id newName orig → orig = item.value := by
      intro orig hrenames
      exact Option.some.inj (hrenames.stored.symm.trans hstored)
    apply alone_getRecord_some (Set.mem_singleton reg) hitem
    by_cases hkeep : newName = "" ∨ newName = item.value.name
    · simp only [hkeep, if_true]
      apply ends_approveAs_same hitem
      intro orig hrenames
      rcases hkeep with hempty | hsame
      · exact hrenames.named hempty
      · exact hrenames.changed (horig hrenames ▸ hsame)
    · simp only [hkeep, if_false]
      rw [not_or] at hkeep
      apply Program.Alone.bind
      apply alone_resolveName (Set.mem_singleton reg)
      cases hresolved : resolved reg newName with
      | none =>
        simp only [resolution, hresolved]
        apply ends_approveAs hitem
        refine ⟨hstored, hkeep.1, hkeep.2, ?_⟩
        intro holder hholder
        rw [hresolved] at hholder
        exact absurd hholder.symm (Option.some_ne_none _)
      | some =>
        simp only [resolution, hresolved]
        split
        next hother =>
          apply ends_refuse
          exact fun orig hrenames => hother (hrenames.unopposed hresolved)
        next hself =>
          apply ends_approveAs hitem
          refine ⟨hstored, hkeep.1, hkeep.2, ?_⟩
          intro other hholder
          rw [hresolved, Option.some.injEq] at hholder
          rw [← hholder]
          exact not_not.mp hself

lemma ends_removeOnce {typeID : UInt8} : (removeOnce typeID id).Alone exec allowed
      (Ends cfg reg (.remove typeID id)) {reg} reg := by
  have hplain : Plain cfg reg (.remove typeID id) := trivial
  cases hitem : reg.get (.entity ⟨typeID, id⟩) with
  | none =>
    apply alone_getRecord_none (Set.mem_singleton reg) hitem
    exact ends_refuse hplain _
  | some item =>
    have hat : reg.At (.entity ⟨typeID, id⟩) item.rev := ⟨item, hitem, rfl⟩
    apply alone_getRecord_some (Set.mem_singleton reg) hitem
    apply alone_delete hat
    apply alone_releaseName (Set.mem_insert _ _)
    apply alone_read (.liveDelete _) (Set.mem_insert _ _) (fun _ _ => rfl)
    intro _ _
    apply alone_read (.statsDelete _) (Set.mem_insert _ _) (fun _ _ => rfl)
    intro _ _
    apply ends_ok (.remove (recordOf_of_get hitem))
    exact ((passed_start reg).write _).write _

lemma ends_updateStatusOnce {typeID : UInt8} {status : String} :
    (updateStatusOnce typeID id status).Alone exec allowed
      (Ends cfg reg (.updateStatus typeID id status)) {reg} reg := by
  have hplain : Plain cfg reg (.updateStatus typeID id status) := trivial
  cases hitem : reg.get (.entity ⟨typeID, id⟩) with
  | none =>
    apply alone_getRecord_none (Set.mem_singleton reg) hitem
    exact ends_refuse hplain _
  | some item =>
    have hat : reg.At (.entity ⟨typeID, id⟩) item.rev := ⟨item, hitem, rfl⟩
    apply alone_getRecord_some (Set.mem_singleton reg) hitem
    apply alone_read .now (Set.mem_singleton reg) (fun _ _ => rfl)
    intro input _
    apply alone_update hat
    exact ends_rewrite hplain hitem rfl rfl

lemma ends_upsertSelfOnce (horderly : Orderly reg) {self : Self} :
    (upsertSelfOnce cfg self).Alone exec allowed (Ends cfg reg (.upsertSelf self)) {reg} reg := by
  have hplain : Plain cfg reg (.upsertSelf self) := trivial
  apply alone_read .now (Set.mem_singleton reg) (fun _ _ => rfl)
  intro input _
  cases hitem : reg.get (.entity self.ref) with
  | none =>
    apply alone_getRecord_none (Set.mem_singleton reg) hitem
    apply Program.Alone.bind
    apply alone_read (.newUUID _) (Set.mem_singleton reg) (fun _ _ => rfl)
    intro minted _
    cases hfresh : minted.uuid with
    | none =>
      simp only [exec, hfresh]
      exact ends_refuse hplain _
    | some fresh =>
      simp only [exec, hfresh]
      apply alone_create hitem
      apply ends_ok (.assign _ _)
      · exact (passed_start reg).write _
      · rfl
      · rfl
  | some item =>
    have hat : reg.At (.entity self.ref) item.rev := ⟨item, hitem, rfl⟩
    apply alone_getRecord_some (Set.mem_singleton reg) hitem
    apply alone_update hat
    have hself : item.value.ref = self.ref := horderly _ _ (recordOf_of_get hitem)
    apply ends_ok (.assign _ _)
    · exact (passed_start reg).write _
    · exact hself
    · rfl

/-- Every run of every call, whatever the inputs, tells one of its stories. -/
lemma tells_body (horderly : Orderly reg) (call : Call) : (call.body cfg).Alone exec allowed
      (fun _ => Tells cfg reg call) {reg} reg := by
  cases call with
  | register =>
    apply Program.Alone.bind
    exact alone_retry (ends_registerOnce horderly)
  | approve =>
    apply Program.Alone.bind
    exact alone_retry ends_approveOnce
  | remove =>
    apply Program.Alone.bind
    exact alone_retry ends_removeOnce
  | updateStatus =>
    apply Program.Alone.bind
    exact alone_retry ends_updateStatusOnce
  | upsertSelf =>
    apply Program.Alone.bind
    exact alone_retry (ends_upsertSelfOnce horderly)

/-- The bucket after a call that runs alone. -/
def completed (cfg : Settings) (reg : RegBucket) (call : Call) (inputs : ℕ → Input) : RegBucket :=
  ((call.body cfg).runAlone exec (reg, inputs)).2.1

/-- The same, read off one run: its crash points are the buckets of a story,
and the last of them is what the call leaves. -/
lemma exists_story (horderly : Orderly reg) (call : Call) (inputs : ℕ → Input) :
    ∃ states, Story cfg reg call states ∧
      (∀ point, point ∈ (call.body cfg).crashPoints exec (reg, inputs) ↔ point ∈ states) ∧
      states.getLast? = some (completed cfg reg call inputs) := by
  have htells : (call.body cfg).Alone exec (fun _ => True)
      (fun _ => Tells cfg reg call) {reg} reg :=
    tells_body horderly call
  obtain ⟨states, hstory, hpassed, hlast⟩ :=
    htells.runAlone (Set.mem_singleton reg) (fun step => trivial)
  refine ⟨states, hstory, ?_, hlast⟩
  intro point
  have hmem : point = reg ∨ point ∈ (call.body cfg).crashPoints exec (reg, inputs) ↔
        point ∈ states := Set.ext_iff.mp hpassed point
  rw [← hmem]
  constructor
  · exact Or.inr
  · rintro (rfl | hpoint)
    · exact Program.mem_crashPoints_start exec _ _
    · exact hpoint

end

end Fluxrig.Registry
