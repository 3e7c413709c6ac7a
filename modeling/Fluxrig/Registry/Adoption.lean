import Fluxrig.Registry.Milestones
import Fluxrig.Registry.Rules
import Fluxrig.Registry.Story

/-!
# An adoption among updates of the adopted record

An adoption copies the record that `resolveName` read, and reads the revision at
which it will delete that record only afterwards.  An update in between is
acknowledged, is missing from the copy, and is then deleted with the old record.

The adoption and the updates follow different protocols.  The updates rewrite
the old record and keep its identity; the adoption leaves the old record alone
until its last delete.  If at that delete the old record is still the one
copied, then no update is lost.
-/

namespace Fluxrig.Registry

open Fluxrig.Core Core.Protocol

/-- Approvals without rename and status updates of `holder`. -/
def Updates (holder : Record) : Call → Prop
  | .approve id newName =>
      id = holder.machineID ∧ (newName = "" ∨ newName = holder.name)
  | .updateStatus typeID id _ => typeID = holder.typeID ∧ id = holder.machineID
  | _ => False

/-- The status an update asks for. -/
def Call.status : Call → String
  | .updateStatus _ _ status => status
  | _ => "active"

/-- The record an operation writes over the one stored under `ref`. -/
def landed (ref : NameRef) (reg : RegBucket) : Op → Option Record
  | .update _ (.entity target) rec rev =>
      if target = ref ∧ reg.At (.entity target) rev then some rec else none
  | _ => none

/-- The log of these writes, with the thread of each. -/
def rewrites (ref : NameRef) (world : World) : Event Call Input → Option (ℕ × Record)
  | .start _ => none
  | .step thread _ =>
      ((world.nextOp thread).bind (landed ref world.state)).map fun rec =>
        (thread, rec)

/-- The record last written, `holder` being the first. -/
def latest (holder : Record) (log : List (ℕ × Record)) : Record :=
  (log.getLast?.map Prod.snd).getD holder

/-- The last delete of an adoption meets the very record that was copied. -/
def CopyCurrent (reg : RegBucket) : Op → Prop
  | .delete (.dropOld holder) (.entity target) rev =>
      reg.get (.entity target) = some ⟨holder, rev⟩
  | _ => True

instance (reg : RegBucket) (op : Op) : Decidable (CopyCurrent reg op) := by
  unfold CopyCurrent
  split <;> infer_instance

@[simp]
lemma latest_append (holder : Record) (log : List (ℕ × Record)) (entry : Option (ℕ × Record)) :
    latest holder (log ++ entry.toList) = (entry.map Prod.snd).getD (latest holder log) := by
  cases entry with
  | none => simp
  | some => simp [latest]

/-- Two records of one identity: an update changes none of this. -/
structure Kin (first second : Record) : Prop where
  ref : second.ref = first.ref
  name : second.name = first.name
  secretHash : second.secretHash = first.secretHash

lemma Kin.trans {first second third : Record} (hfirst : Kin first second)
    (hsecond : Kin second third) : Kin first third where
  ref := hsecond.ref.trans hfirst.ref
  name := hsecond.name.trans hfirst.name
  secretHash := hsecond.secretHash.trans hfirst.secretHash

/-- What is stored under `holder`'s reference, if anything, is of its identity. -/
def KinAt (holder : Record) (reg : RegBucket) : Prop :=
  ∀ rec, recordOf reg holder.ref = some rec → Kin holder rec

/-- Something is stored there. -/
def Kept (holder : Record) (reg : RegBucket) : Prop :=
  ∃ rec, recordOf reg holder.ref = some rec ∧ Kin holder rec

/-- Whether the adoption has deleted the old record. -/
inductive Phase where
  | before
  | dropped
  deriving DecidableEq

/-- The adoption reads presence and statistics only for its reply. -/
def Op.phase : Op → Phase
  | .liveGet _ | .statsGet _ => .dropped
  | _ => .before

/-- One operation of an update. -/
inductive Updating (holder : Record) : Op → Input → RegBucket → Phase → Prop where
  | rest {op : Op} {input : Input} {reg : RegBucket}
      (hstate : (exec op input reg).2 = reg)
      (hlanded : landed holder.ref reg op = none) :
      Updating holder op input reg .before
  | write {old rec : Record} {rev : ℕ} {input : Input} {reg : RegBucket}
      (hread : reg.get (.entity holder.ref) = some ⟨old, rev⟩)
      (hkin : Kin old rec) :
      Updating holder (.update .plain (.entity holder.ref) rec rev) input reg .before

/-- One operation of the adoption. -/
inductive Adopting (holder : Record) (hello : Hello) : Op → Input → RegBucket → Phase → Prop where
  | away {op : Op} {input : Input} {reg : RegBucket}
      (hphase : op.phase = .before) (hlanded : landed holder.ref reg op = none)
      (hsame : (exec op input reg).2.get (.entity holder.ref) = reg.get (.entity holder.ref)) :
      Adopting holder hello op input reg .before
  | drop {copied : Record} {now : Time} {rev : ℕ} {input : Input}
      {reg : RegBucket}
      (hread : reg.get (.entity holder.ref) = some ⟨copied, rev⟩)
      (hcopy : recordOf reg hello.ref = some (copied.moved hello now)) :
      Adopting holder hello (.delete (.dropOld copied) (.entity holder.ref) rev)
        input reg .dropped
  | reply {op : Op} {input : Input} {reg : RegBucket}
      (hphase : op.phase = .dropped) (hlanded : landed holder.ref reg op = none)
      (hstate : (exec op input reg).2 = reg) :
      Adopting holder hello op input reg .dropped

/-- An update relies on the identity of the record it rewrites. -/
def updating (holder : Record) : Protocol exec Phase where
  label _ := .before
  idle := .before
  assume _ _ _ := True
  rely first second :=
    first.Extends second ∧ (KinAt holder first → KinAt holder second)
  guarantee := Updating holder
  rely_refl reg := ⟨Bucket.Extends.refl reg, id⟩
  rely_trans hfirst hsecond :=
    ⟨hfirst.1.trans hsecond.1, fun hkin => hsecond.2 (hfirst.2 hkin)⟩

/-- The adoption relies on every other key, and on the old record being there
under its identity. -/
def adopting (holder : Record) (hello : Hello) : Protocol exec Phase where
  label := Op.phase
  idle := .dropped
  assume op _ reg := CopyCurrent reg op
  rely first second := first.Extends second ∧
    (∀ key, key ≠ .entity holder.ref → second.get key = first.get key) ∧
    (Kept holder first → Kept holder second)
  guarantee := Adopting holder hello
  rely_refl reg := ⟨Bucket.Extends.refl reg, fun _ _ => rfl, id⟩
  rely_trans hfirst hsecond :=
    ⟨hfirst.1.trans hsecond.1,
      fun key (hkey : key ≠ .entity holder.ref) =>
        (hsecond.2.1 key hkey).trans (hfirst.2.1 key hkey),
      fun hkept => hsecond.2.2 (hfirst.2.2 hkept)⟩

/-- Thread 0 adopts, the others update. -/
def team (holder : Record) (hello : Hello) : ℕ → Protocol exec Phase
  | 0 => adopting holder hello
  | _ + 1 => updating holder

section

variable {holder : Record} {hello : Hello} {op : Op} {input : Input}
variable {reg : RegBucket} {after : Phase}

/-- An update leaves every other key alone, and what it leaves under the old
record's key is of the same identity. -/
lemma Updating.frame (hmove : Updating holder op input reg after) :
    (∀ key, key ≠ .entity holder.ref → (exec op input reg).2.get key = reg.get key) ∧
    ∀ rec, recordOf reg holder.ref = some rec →
      ∃ next, recordOf (exec op input reg).2 holder.ref = some next ∧ Kin rec next := by
  cases hmove with
  | rest hstate _ =>
    rw [hstate]
    exact ⟨fun _ _ => rfl, fun rec hrecord => ⟨rec, hrecord, rfl, rfl, rfl⟩⟩
  | @write old rec rev _ _ hread hkin =>
    have hstored := recordOf_of_get hread
    rw [exec, Bucket.update_of_at _ ⟨_, hread, rfl⟩]
    exact ⟨fun key hkey => Bucket.get_write_of_ne _ _ hkey,
      fun found hfound => ⟨rec, by grind, by grind⟩⟩

/-- The adoption leaves the old record as it is or deletes it. -/
lemma Adopting.frame (hmove : Adopting holder hello op input reg after) :
    recordOf (exec op input reg).2 holder.ref = recordOf reg holder.ref ∨
      recordOf (exec op input reg).2 holder.ref = none := by
  cases hmove with
  | away _ _ hsame => exact Or.inl (by rw [recordOf, recordOf, hsame])
  | drop hread _ =>
    right
    rw [exec, Bucket.delete_of_at ⟨_, hread, rfl⟩, recordOf_remove_entity, if_pos rfl]
  | reply _ _ hstate => exact Or.inl (by rw [hstate])

lemma Updating.kinAt (hmove : Updating holder op input reg after)
    (hkin : KinAt holder reg) : KinAt holder (exec op input reg).2 := by
  intro next hnext
  cases hmove with
  | rest hstate =>
    rw [hstate] at hnext
    exact hkin next hnext
  | @write old rec rev _ _ hread hsame =>
    rw [exec, Bucket.update_of_at _ ⟨_, hread, rfl⟩, recordOf_write_entity,
      if_pos rfl, Option.some.injEq] at hnext
    rw [← hnext]
    exact (hkin old (recordOf_of_get hread)).trans hsame

lemma Adopting.kinAt (hmove : Adopting holder hello op input reg after)
    (hkin : KinAt holder reg) : KinAt holder (exec op input reg).2 := by
  intro next hnext
  rcases hmove.frame with hsame | hgone
  · exact hkin next (hsame ▸ hnext)
  · rw [hgone] at hnext
    exact absurd hnext.symm (Option.some_ne_none _)

end

lemma team_compatible (holder : Record) (hello : Hello) : Compatible (team holder hello) := by
  intro first second hne op input reg after hmove
  have hextends := extends_exec op input reg
  cases first with
  | zero =>
    cases second with
    | zero => exact absurd rfl hne
    | succ => exact ⟨hextends, Adopting.kinAt hmove⟩
  | succ =>
    have hupdating : Updating holder op input reg after := hmove
    cases second with
    | zero =>
      refine ⟨hextends, hupdating.frame.1, ?_⟩
      rintro ⟨rec, hrecord, hkin⟩
      obtain ⟨next, hnext, hsame⟩ := hupdating.frame.2 rec hrecord
      exact ⟨next, hnext, hkin.trans hsame⟩
    | succ => exact ⟨hextends, hupdating.kinAt⟩

/-- What a Hello has to bring to adopt `holder`, whatever else changes. -/
structure Succeeding (cfg : Settings) (hello : Hello) (holder : Record) : Prop where
  identified : hello.machineID ≠ nilID
  named : hello.name ≠ ""
  sameName : holder.name = hello.name
  sameType : holder.typeID = hello.typeID
  authentic : secretMatches cfg holder.secretHash hello.secret = true
  ref_ne : hello.ref ≠ holder.ref

/-- The bucket an adoption starts from. -/
structure Ready (holder : Record) (hello : Hello) (reg : RegBucket) : Prop where
  kept : Kept holder reg
  points : holderOf reg hello.name = some holder.ref
  unknown : reg.get (.entity hello.ref) = none

section

variable {cfg : Settings} {holder copied : Record} {hello : Hello}
variable {now : Time} {first second state : RegBucket}

lemma adopting_get (href : hello.ref ≠ holder.ref)
    (hrely : (adopting holder hello).rely first second) :
    second.get (.entity hello.ref) = first.get (.entity hello.ref) :=
  hrely.2.1 _ (by simpa using href)

lemma adopting_name (name : String) (hrely : (adopting holder hello).rely first second) :
    second.get (.name name) = first.get (.name name) :=
  hrely.2.1 _ Key.noConfusion

lemma Ready.stable (hready : Ready holder hello first) (href : hello.ref ≠ holder.ref)
    (hrely : (adopting holder hello).rely first second) :
    Ready holder hello second where
  kept := hrely.2.2 hready.kept
  points := by
    rw [holderOf, adopting_name hello.name hrely]
    exact hready.points
  unknown := (adopting_get href hrely).trans hready.unknown

/-- The name still resolves to the old record, as it is now. -/
lemma adopting_resolveName (hsucceeding : Succeeding cfg hello holder)
    {post : Except Err Record → Phase → RegBucket → Prop}
    (hready : Ready holder hello state)
    (hpost : ∀ current copied, Ready holder hello current → Kin holder copied →
      post (.ok copied) .before current) :
    (adopting holder hello).Holds (resolveName hello.name) post .before state := by
  apply Holds.bind
  refine holds_read (.get .plain (.name hello.name)) (fun _ _ => rfl)
    (fun _ _ => .away rfl rfl rfl) ?_
  intro current hrely _
  have hcurrent := hready.stable hsucceeding.ref_ne hrely
  obtain ⟨rev, hheld⟩ := exists_get_of_holderOf hcurrent.points
  simp only [exec, hheld]
  apply Holds.bind
  refine holds_getRecord (fun _ _ => .away rfl rfl rfl) ?_ ?_
  · intro later hlater hmissing
    obtain ⟨rec, hrecord, _⟩ := (hcurrent.stable hsucceeding.ref_ne hlater).kept
    rw [← recordOf_eq_none_iff] at hmissing
    cases hrecord.symm.trans hmissing
  · intro later copied rev hlater hfound
    have hready := hcurrent.stable hsucceeding.ref_ne hlater
    obtain ⟨rec, hrecord, hkin⟩ := hready.kept
    cases hrecord.symm.trans (recordOf_of_get hfound)
    have hname : copied.name = hello.name := hkin.name.trans hsucceeding.sameName
    simp only [hname, ne_eq, not_true_eq_false, if_false]
    exact hpost later copied hready hkin

/-- Nobody else moves the name key, so it follows the record. -/
lemma adopting_moveName (href : hello.ref ≠ holder.ref) {moved : Record}
    {post : Except Err Unit → Phase → RegBucket → Prop}
    (hpoints : holderOf state hello.name = some holder.ref)
    (hplaced : recordOf state hello.ref = some moved)
    (hpost : ∀ current, recordOf current hello.ref = some moved → post (.ok ()) .before current) :
    (adopting holder hello).Holds (moveName hello.name holder.ref hello.ref) post
      .before state := by
  obtain ⟨rev, hheld⟩ := exists_get_of_holderOf hpoints
  apply Holds.bind
  refine holds_read (.get (.move hello.ref hello.name) (.name hello.name)) (fun _ _ => rfl)
    (fun _ _ => .away rfl rfl rfl) ?_
  intro current hrely _
  have hcurrent := (adopting_name hello.name hrely).trans hheld
  simp only [exec, hcurrent, ne_eq, not_true_eq_false, if_false]
  apply Holds.bind
  apply Holds.perform
  intro later hlater input _
  have hat : later.At (.name hello.name) rev :=
    ⟨_, (adopting_name hello.name hlater).trans hcurrent, rfl⟩
  have hsame : (exec (.update (.move hello.ref hello.name) (.name hello.name)
      hello.ref rev) input later).2.get (.entity holder.ref) =
        later.get (.entity holder.ref) := by
    rw [exec, Bucket.update_of_at _ hat, Bucket.get_write_of_ne _ _ Key.noConfusion]
  refine ⟨.before, .away rfl rfl hsame, ?_⟩
  simp only [exec, Bucket.update_of_at _ hat]
  apply hpost
  rw [recordOf_write_name, recordOf, adopting_get href hlater, adopting_get href hrely]
  exact hplaced

lemma adopting_adopt (hsucceeding : Succeeding cfg hello holder)
    (hcopied : Kin holder copied) (hready : Ready holder hello state) :
    (adopting holder hello).Holds (adopt copied hello now)
      (fun outcome label _ => Succeeds outcome ∧ label = .dropped) .before
      state := by
  have href := hsucceeding.ref_ne
  have hsource : copied.ref = holder.ref := hcopied.ref
  have htarget : (⟨copied.typeID, hello.machineID⟩ : NameRef) = hello.ref := by
    rw [Hello.ref, ← hsucceeding.sameType, (NameRef.mk.inj hsource).1]
  have hname : copied.name = hello.name := hcopied.name.trans hsucceeding.sameName
  have hmachine : ¬ (hello.machineID = nilID ∨ hello.machineID = copied.machineID) := by
    rintro (hnil | hsame)
    · exact hsucceeding.identified hnil
    · apply href
      rw [← htarget, ← hsource, hsame]
      rfl
  rw [adopt, if_neg hmachine, htarget, hsource, hname]
  apply Holds.bind
  refine holds_getRecord (fun _ _ => .away rfl rfl rfl) ?_ ?_
  · intro current hrely hmissing
    obtain ⟨rec, hrecord, _⟩ := (hready.stable href hrely).kept
    rw [← hsource] at hrecord
    rw [← recordOf_eq_none_iff] at hmissing
    cases hrecord.symm.trans hmissing
  intro current _ oldRev hrely _
  have hcurrent := hready.stable href hrely
  apply Holds.bind
  apply Holds.perform
  intro later hlater input _
  have hunknown := (hcurrent.stable href hlater).unknown
  refine ⟨.before, .away rfl rfl ?_, ?_⟩
  · rw [exec, Bucket.create_of_none _ hunknown,
      Bucket.get_write_of_ne _ _ (by simpa using href.symm)]
  simp only [exec, Bucket.create_of_none _ hunknown]
  apply Holds.bind
  apply adopting_moveName href
  · rw [holderOf_write_entity]
    exact (hcurrent.stable href hlater).points
  · rw [recordOf_write_entity, if_pos rfl]
  intro moved hplaced
  apply Holds.bind
  apply Holds.perform
  intro final hfinal input hread
  have hcopy : recordOf final hello.ref = some (copied.moved hello now) := by
    rw [recordOf, adopting_get href hfinal]
    exact hplaced
  refine ⟨.dropped, .drop hread hcopy, ?_⟩
  exact holds_toRack (fun _ _ => .reply rfl rfl rfl) (fun _ _ => .reply rfl rfl rfl)
    fun rack _ _ _ _ => ⟨⟨rack, rfl⟩, rfl⟩

lemma adopting_registerOnce (hsucceeding : Succeeding cfg hello holder)
    (hready : Ready holder hello state) :
    (adopting holder hello).Holds (registerOnce cfg hello)
      (fun outcome label _ => Succeeds outcome ∧ label = .dropped) .before
      state := by
  have href := hsucceeding.ref_ne
  apply Holds.bind
  refine holds_read .now (fun _ _ => rfl) (fun _ _ => .away rfl rfl rfl) ?_
  intro current hrely input
  have hcurrent := hready.stable href hrely
  simp only [hsucceeding.identified, if_false]
  apply Holds.bind
  refine holds_getRecord (fun _ _ => .away rfl rfl rfl) ?_ ?_
  swap
  · intro later rec rev hlater hfound
    have hunknown := (hcurrent.stable href hlater).unknown
    nomatch hfound.symm.trans hunknown
  intro later hlater _
  rw [registerNamed, if_neg hsucceeding.named]
  apply Holds.bind
  apply adopting_resolveName hsucceeding (hcurrent.stable href hlater)
  intro final copied hfinal hcopied
  have hallowed : ¬ (copied.typeID ≠ hello.typeID ∨
      ¬ secretMatches cfg copied.secretHash hello.secret = true) := by
    have htype : copied.typeID = holder.typeID := (NameRef.mk.inj hcopied.ref).1
    simp [htype, hsucceeding.sameType, hcopied.secretHash, hsucceeding.authentic]
  simp only [hallowed, if_false]
  exact adopting_adopt hsucceeding hcopied hfinal

lemma adopting_register (hsucceeding : Succeeding cfg hello holder)
    (hready : Ready holder hello state) :
    (adopting holder hello).Holds (Call.body cfg (.register hello))
      (fun _ label _ => label = .dropped) .before state := by
  apply Holds.bind
  apply Holds.bind
  apply (adopting_registerOnce hsucceeding hready).weaken
  intro outcome label current hpost
  obtain ⟨⟨rack, rfl⟩, rfl⟩ := hpost
  rfl

end

section

variable {cfg : Settings} {holder : Record} {state : RegBucket}

/-- The compare-and-swap of an update: it lands on the record read, or nowhere. -/
lemma updating_update {post : Option ℕ → Phase → RegBucket → Prop}
    {source : RegBucket} {old rec : Record} {rev : ℕ}
    (hread : source.get (.entity holder.ref) = some ⟨old, rev⟩)
    (hkin : Kin old rec) (hsource : source.Extends state)
    (hkinAt : KinAt holder state)
    (hpost : ∀ reply final, KinAt holder final → post reply .before final) :
    (updating holder).Holds (update .plain (.entity holder.ref) rec rev) post .before state := by
  apply Holds.perform
  intro current hrely input _
  have hcurrent := hrely.2 hkinAt
  by_cases hat : current.At (.entity holder.ref) rev
  · have hmove : Updating holder (.update .plain (.entity holder.ref) rec rev)
      input current .before := .write ((hsource.trans hrely.1).get_of_at hread hat) hkin
    exact ⟨.before, hmove, hpost _ _ (hmove.kinAt hcurrent)⟩
  · have hstate : (exec (.update .plain (.entity holder.ref) rec rev) input
        current).2 = current := by
      rw [exec, Bucket.update_of_not_at _ hat]
    exact ⟨.before, .rest hstate (by simp [landed, hat]), hpost _ _ (by rwa [hstate])⟩

lemma updating_updateStatus {typeID : UInt8} {id : UUID} {status : String}
    (href : (⟨typeID, id⟩ : NameRef) = holder.ref) (hkin : KinAt holder state) :
    (updating holder).Holds (updateStatusEntity cfg typeID id status)
      (fun _ label _ => label = .before) .before state := by
  apply holds_retry (KinAt holder) _ hkin
  intro state hkin
  apply Holds.bind
  refine holds_getRecord (fun _ _ => .rest rfl rfl) ?_ ?_
  · exact fun current hrely _ => ⟨rfl, hrely.2 hkin⟩
  intro current rec rev hrely hread
  rw [href] at hread
  apply Holds.bind
  refine holds_read .now (fun _ _ => rfl) (fun _ _ => .rest rfl rfl) ?_
  intro later hlater _
  rw [href]
  apply Holds.bind
  refine updating_update hread ⟨rfl, rfl, rfl⟩ hlater.1 (hlater.2 (hrely.2 hkin))
    fun reply final hfinal => ?_
  cases reply with
  | none | some => exact ⟨rfl, hfinal⟩

lemma updating_approve {id : UUID} {newName : String}
    (href : (⟨typeRack, id⟩ : NameRef) = holder.ref)
    (hname : newName = "" ∨ newName = holder.name) (hkin : KinAt holder state) :
    (updating holder).Holds (approve cfg id newName)
      (fun _ label _ => label = .before) .before state := by
  apply holds_retry (KinAt holder) _ hkin
  intro state hkin
  apply Holds.bind
  refine holds_getRecord (fun _ _ => .rest rfl rfl) ?_ ?_
  · exact fun current hrely _ => ⟨rfl, hrely.2 hkin⟩
  intro current rec rev hrely hread
  rw [href] at hread
  have hcurrent := hrely.2 hkin
  have hsame : newName = "" ∨ newName = rec.name := by
    rw [(hcurrent rec (recordOf_of_get hread)).name]
    exact hname
  simp only [hsame, if_true]
  rw [approveAs, href]
  apply Holds.bind
  refine holds_read .now (fun _ _ => rfl) (fun _ _ => .rest rfl rfl) ?_
  intro later hlater _
  apply Holds.bind
  refine updating_update hread ⟨rfl, rfl, rfl⟩ hlater.1 (hlater.2 hcurrent)
    fun reply final hfinal => ?_
  cases reply with
  | none => exact ⟨rfl, hfinal⟩
  | some =>
    simp only [if_true]
    exact holds_toRack (fun _ _ => .rest rfl rfl) (fun _ _ => .rest rfl rfl)
      fun _ _ _ hrely hlater => ⟨rfl, hlater.2 (hrely.2 hfinal)⟩

lemma updating_body {call : Call} (hrack : holder.typeID = typeRack)
    (hupdates : Updates holder call) (hkin : KinAt holder state) :
    (updating holder).Follows (call.body cfg) state := by
  apply And.right
  apply follows_of_holds
  cases call with
  | approve id =>
    apply Holds.bind
    exact updating_approve (by rw [Record.ref, hrack, hupdates.1]) hupdates.2 hkin
  | updateStatus typeID id =>
    apply Holds.bind
    exact updating_updateStatus (by rw [Record.ref, hupdates.1, hupdates.2]) hkin
  | register | remove | upsertSelf => exact hupdates.elim

end

/-- Where the record is, according to how far the adoption has come: under its
old key, or moved under the new one. -/
def Placed (holder : Record) (hello : Hello) (rec : Record) (reg : RegBucket) : Phase → Prop
  | .before => recordOf reg holder.ref = some rec
  | .dropped => recordOf reg holder.ref = none ∧
      ∃ now, recordOf reg hello.ref = some (rec.moved hello now)

section

variable {cfg : Settings} {holder : Record} {hello : Hello}
variable {op : Op} {input : Input} {reg : RegBucket} {after : Phase}

lemma Adopting.placed {rec : Record} (href : hello.ref ≠ holder.ref)
    (hmove : Adopting holder hello op input reg after)
    (hplaced : Placed holder hello rec reg op.phase) :
    Placed holder hello rec (exec op input reg).2 after ∧ landed holder.ref reg op = none := by
  cases hmove with
  | away hphase hlanded hsame => grind [Placed, recordOf]
  | @drop copied now rev _ _ hread hcopy =>
    have hstored := recordOf_of_get hread
    rw [exec, Bucket.delete_of_at ⟨_, hread, rfl⟩]
    exact ⟨⟨by grind, now, by grind [Placed, Op.phase]⟩, rfl⟩
  | reply hphase hlanded hstate => grind

lemma Updating.placed {rec : Record} {phase : Phase} (hmove : Updating holder op input reg after)
    (hplaced : Placed holder hello rec reg phase) :
    Placed holder hello ((landed holder.ref reg op).getD rec) (exec op input reg).2 phase := by
  cases hmove with
  | rest hstate hlanded => grind
  | @write old written rev _ _ hread hkin =>
    have hat : reg.At (.entity holder.ref) rev := ⟨_, hread, rfl⟩
    have hstored := recordOf_of_get hread
    rw [exec, Bucket.update_of_at _ hat]
    cases phase <;> grind [Placed, landed]

variable (holder hello) in
/-- Every thread keeps to its protocol, and the record is where the adoption has
brought it, with every write that landed. -/
structure Tracked (log : List (ℕ × Record)) (world : World) : Prop where
  sound : Sound (team holder hello) world
  kin : KinAt holder world.state
  placed : ∃ program, world.threads[0]? = some (.register hello, program) ∧
    Placed holder hello (latest holder log) world.state ((adopting holder hello).labelOf program)

lemma tracked_next (hrack : holder.typeID = typeRack)
    (href : hello.ref ≠ holder.ref) {log : List (ℕ × Record)} {world : World}
    {event : Event Call Input}
    (hcall : ∀ call, event = .start call → Updates holder call)
    (hcurrent : Config.EachOp (fun world _ => CopyCurrent world.state) world event)
    (htracked : Tracked holder hello log world) :
    Tracked holder hello (log ++ (rewrites holder.ref world event).toList)
      (world.next exec (Call.body cfg) event) := by
  obtain ⟨hsound, hkin, program, hfirst, hplaced⟩ := htracked
  have hlength : world.threads.length ≠ 0 := by
    have hlt := (List.getElem?_eq_some_iff.mp hfirst).1
    exact hlt.ne'
  have hnext : Sound (team holder hello) (world.next exec (Call.body cfg) event) := by
    apply hsound.next (team_compatible holder hello)
    · intro call hevent
      obtain ⟨before, hbefore⟩ := Nat.exists_eq_succ_of_ne_zero hlength
      rw [hbefore]
      exact updating_body hrack (hcall call hevent) hkin
    · intro thread input op hevent hop
      cases thread with
      | zero =>
        rw [hevent] at hcurrent
        exact hcurrent op hop
      | succ => trivial
  rcases Config.next_cases exec (Call.body cfg) world event with
    ⟨call, rfl, hworld⟩ | ⟨thread, input, rfl, hop, hworld⟩ |
      ⟨thread, input, call, op, rest, rfl, hthread, hworld⟩
  · have hlog : log ++ (rewrites holder.ref world (.start call)).toList = log := by
      simp [rewrites]
    rw [hlog]
    rw [hworld] at hnext ⊢
    refine ⟨hnext, hkin, program, ?_, hplaced⟩
    exact List.getElem?_append_left (Nat.pos_of_ne_zero hlength) |>.trans hfirst
  · have hlog : log ++ (rewrites holder.ref world (.step thread input)).toList = log := by
      simp [rewrites, hop]
    rw [hlog, hworld]
    exact ⟨hsound, hkin, program, hfirst, hplaced⟩
  · have hop : world.nextOp thread = some op := by
      simp [Config.nextOp, hthread, Program.next?]
    have hassume : (team holder hello thread).assume op input world.state := by
      cases thread with
      | zero => exact hcurrent op hop
      | succ => trivial
    have hmove := (hsound.step (team_compatible holder hello) hthread hassume).1
    have hlatest : latest holder
        (log ++ (rewrites holder.ref world (.step thread input)).toList) =
          (landed holder.ref world.state op).getD (latest holder log) := by
      rw [latest_append, rewrites, hop, Option.bind_some, Option.map_map]
      simp [Function.comp_def]
    rw [hworld] at hnext ⊢
    cases thread with
    | zero =>
      rw [hfirst, Option.some.injEq, Prod.mk.injEq] at hthread
      obtain ⟨rfl, rfl⟩ := hthread
      have hadopting : Adopting holder hello op input world.state _ := hmove
      obtain ⟨hmoved, hlanded⟩ := hadopting.placed href hplaced
      refine ⟨hnext, hadopting.kinAt hkin, _,
        List.getElem?_set_self (Nat.pos_of_ne_zero hlength), ?_⟩
      rw [hlatest, hlanded]
      exact hmoved
    | succ thread =>
      have hupdating : Updating holder op input world.state _ := hmove
      refine ⟨hnext, hupdating.kinAt hkin, program, ?_, ?_⟩
      · exact (List.getElem?_set_ne (Nat.succ_ne_zero thread)).trans hfirst
      · rw [hlatest]
        exact hupdating.placed hplaced

/-- A write that an update waits for is in the log. -/
lemma rewrites_of_writesStatus {ref : NameRef} {status : String} {thread : ℕ}
    {world : World} (hop : world.nextOp thread = some op)
    (hwritten : WritesStatus ref status op (exec op input world.state).1) :
    ∃ rec, rewrites ref world (.step thread input) = some (thread, rec) ∧
      rec.status = status := by
  cases op with
  | update _ key value rev =>
    cases key with
    | name => exact hwritten.elim
    | entity target =>
      by_cases hat : world.state.At (.entity target) rev
      · rw [exec, Bucket.update_of_at _ hat] at hwritten
        obtain ⟨rfl, hstatus⟩ : target = ref ∧ value.status = status := hwritten
        exact ⟨value, by simp [rewrites, hop, landed, hat], hstatus⟩
      · rw [exec, Bucket.update_of_not_at _ hat] at hwritten
        exact hwritten.elim
  | _ => exact hwritten.elim

lemma requires_of_updates {call : Call} (hrack : holder.typeID = typeRack)
    (hupdates : Updates holder call) :
    (call.body cfg).Requires (WritesStatus holder.ref call.status) Succeeds := by
  cases call with
  | approve id newName =>
    rw [Record.ref, hrack, ← hupdates.1]
    exact requires_approve id newName
  | updateStatus typeID id status =>
    rw [Record.ref, ← hupdates.1, ← hupdates.2]
    exact requires_updateStatus typeID id status
  | register | remove | upsertSelf => exact hupdates.elim

end

variable (cfg : Settings) (reg : RegBucket) (hello : Hello)

/-- The run that begins with the adoption and goes on with `events`. -/
def adoptionRun (events : List (Event Call Input)) : World :=
  Config.run exec (Call.body cfg) ⟨reg, []⟩ (.start (.register hello) :: events)

/-- The writes to the old record along that run. -/
def adoptionLog (ref : NameRef) (events : List (Event Call Input)) : List (ℕ × Record) :=
  Config.emitted exec (Call.body cfg) (rewrites ref) ⟨reg, []⟩
    (.start (.register hello) :: events)

/-- The old record is gone and the new one continues the last write to it; and
every update that reported success is among these writes. -/
structure UpdatesVisible (cfg : Settings) (reg : RegBucket) (hello : Hello)
    (holder : Record) (events : List (Event Call Input)) : Prop where
  gone : recordOf (adoptionRun cfg reg hello events).state holder.ref = none
  continued : ∃ now,
    recordOf (adoptionRun cfg reg hello events).state hello.ref =
      some ((latest holder (adoptionLog cfg reg hello holder.ref events)).moved hello now)
  logged : ∀ thread call reply, Updates holder call →
    (adoptionRun cfg reg hello events).threads[thread]? = some (call, .done (.ok reply)) →
    ∃ rec, (thread, rec) ∈ adoptionLog cfg reg hello holder.ref events ∧ rec.status = call.status

section

/-- Machine 2 adopts the sample Rack. -/
def successor : Hello := sampleHello 2 "rack-a" secretA

lemma adopts_sampleRecord : Adopts sampleSettings namedBucket successor sampleRecord where
  identified := by decide
  unknown := by decide +kernel
  named := by decide
  resolves := by decide +kernel
  sameType := rfl
  authentic := by decide +kernel

/-- Between the adoption's read of the record and its read of the revision, the
Rack is disabled. -/
def lossyEvents : List (Event Call Input) :=
  sampleSteps 0 4 secretB ++ [.start (.updateStatus typeRack 1 "disabled")] ++
  sampleSteps 1 3 secretB ++ sampleSteps 0 7 secretB

/-- The adoption and the update both report success, and the update is lost. -/
theorem adoption_loses_update : (∀ call, .start call ∈ lossyEvents → Updates sampleRecord call) ∧
    (∃ rack, (adoptionRun sampleSettings namedBucket successor lossyEvents).threads[0]? =
      some (.register successor, .done (.ok rack))) ∧
    (∃ reply, (adoptionRun sampleSettings namedBucket successor lossyEvents).threads[1]? =
      some (.updateStatus typeRack 1 "disabled", .done (.ok reply))) ∧
    ¬ UpdatesVisible sampleSettings namedBucket successor sampleRecord lossyEvents := by
  refine ⟨?_, ⟨_, rfl⟩, ⟨_, rfl⟩, ?_⟩
  · intro call hcall
    have hupdate : call = .updateStatus typeRack 1 "disabled" := by
      simpa [lossyEvents, sampleSteps] using hcall
    rw [hupdate]
    exact ⟨rfl, rfl⟩
  · intro hvisible
    obtain ⟨now, hcontinued⟩ := hvisible.continued
    have hstored : (recordOf (adoptionRun sampleSettings namedBucket successor
        lossyEvents).state successor.ref).map Record.status = some "active" := by
      decide +kernel
    have hwritten : (latest sampleRecord (adoptionLog sampleSettings namedBucket
        successor sampleRecord.ref lossyEvents)).status = "disabled" := by
      decide +kernel
    rw [hcontinued, Option.map_some, Record.moved, Record.renew, hwritten] at hstored
    exact absurd hstored (by decide)

end

/-- Take an adoption of a Rack by a new machine, interleaved operation by
operation with any number of status updates and approvals without rename of that
Rack.  If the last delete of the adoption meets the very record the adoption
copied, then every update that reported success is visible in the new record. -/
theorem updatesVisible_of_copyCurrent {cfg : Settings} {reg : RegBucket}
    {hello : Hello} {holder : Record} (horderly : Orderly reg)
    (hadopts : Adopts cfg reg hello holder)
    (hrack : holder.typeID = typeRack) {events : List (Event Call Input)}
    (hcalls : ∀ call, .start call ∈ events → Updates holder call)
    (hcurrent : Config.EveryStep exec (Call.body cfg)
      (Config.EachOp fun world _ => CopyCurrent world.state) ⟨reg, []⟩
      (.start (.register hello) :: events))
    {outcome : Except Err (Option Rack)}
    (hdone : (adoptionRun cfg reg hello events).threads[0]? =
      some (.register hello, .done outcome)) :
    UpdatesVisible cfg reg hello holder events := by
  have hsucceeding : Succeeding cfg hello holder :=
    ⟨hadopts.identified, hadopts.named, hadopts.name_eq, hadopts.sameType, hadopts.authentic,
      (hadopts.ref_ne horderly).symm⟩
  have hpoints := hadopts.points horderly
  have hkin : Kin holder holder := ⟨rfl, rfl, rfl⟩
  have hready : Ready holder hello reg :=
    ⟨⟨holder, hpoints.2, hkin⟩, hpoints.1, recordOf_eq_none_iff.mp hadopts.unknown⟩
  obtain ⟨hlabel, hfollows⟩ := follows_of_holds (adopting_register hsucceeding hready)
  have hstart : Tracked holder hello []
      ⟨reg, [(.register hello, Call.body cfg (.register hello))]⟩ := by
    refine ⟨?_, ?_, _, rfl, ?_⟩
    · intro thread entry hentry
      cases thread with
      | zero =>
        cases hentry
        exact hfollows
      | succ => simp at hentry
    · intro rec hrecord
      rw [hpoints.2, Option.some.injEq] at hrecord
      exact hrecord ▸ hkin
    · rw [hlabel]
      exact hpoints.2
  have htracked := Config.run_invariant_log exec (Call.body cfg)
    (fun log world event hmem htracked hgood =>
      tracked_next hrack hsucceeding.ref_ne
        (fun call hevent => hcalls call (hevent ▸ hmem)) hgood htracked)
    hstart hcurrent.2
  obtain ⟨_, _, program, hfirst, hplaced⟩ := htracked
  have hprogram : program = .done outcome := by
    have hboth := hfirst.symm.trans hdone
    rw [Option.some.injEq, Prod.mk.injEq] at hboth
    exact hboth.2
  rw [hprogram] at hplaced
  refine ⟨hplaced.1, hplaced.2, ?_⟩
  intro thread call reply hupdates hreturned
  obtain ⟨front, input, back, op, hevents, hop, hwritten⟩ :=
    Config.reaches_of_done exec (Call.body cfg)
      (requires_of_updates hrack hupdates) (fun program hprogram => by simp at hprogram)
      hreturned ⟨reply, rfl⟩
  obtain ⟨rec, hrecord, hstatus⟩ := rewrites_of_writesStatus hop hwritten
  refine ⟨rec, ?_, hstatus⟩
  rw [adoptionLog, hevents]
  rw [Config.emitted_append, Config.emitted, hrecord]
  simp

/-- The Rack is disabled while the adoption is in progress, but before it reads
the record. -/
def timelyEvents : List (Event Call Input) :=
  sampleSteps 0 2 secretB ++ [.start (.updateStatus typeRack 1 "disabled")] ++
  sampleSteps 1 3 secretB ++ sampleSteps 0 9 secretB

theorem timely_update_visible :
    UpdatesVisible sampleSettings namedBucket successor sampleRecord timelyEvents :=
  updatesVisible_of_copyCurrent orderly_namedBucket adopts_sampleRecord rfl (by
      intro call hcall
      have hupdate : call = .updateStatus typeRack 1 "disabled" := by
        simpa [timelyEvents, sampleSteps] using hcall
      rw [hupdate]
      exact ⟨rfl, rfl⟩)
    (by decide +kernel) (by rfl)

end Fluxrig.Registry
