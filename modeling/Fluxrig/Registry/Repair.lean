import Fluxrig.Registry.Sweep

/-!
# What a whole sweep does

The Racks that are listed and the entity each name resolves to are all that a
reader of the registry sees.  A sweep leaves this view as it is when every
named Rack holds its name key.  When exactly one Rack does not, the sweep
deletes that Rack, points its name at it, or renames it back.
-/

namespace Fluxrig.Registry

open Fluxrig.Core

/-- The same Racks are listed and every name resolves to the same record. -/
structure SameView (left right : RegBucket) : Prop where
  racks : ∀ id, recordOf left ⟨typeRack, id⟩ = recordOf right ⟨typeRack, id⟩
  names : ∀ name, resolved left name = resolved right name

lemma SameView.refl (reg : RegBucket) : SameView reg reg := ⟨fun _ => rfl, fun _ => rfl⟩

lemma SameView.trans {left middle right : RegBucket}
    (hfirst : SameView left middle) (hsecond : SameView middle right) :
    SameView left right :=
  ⟨fun id => (hfirst.racks id).trans (hsecond.racks id),
    fun name => (hfirst.names name).trans (hsecond.names name)⟩

/-- Which name keys point at records that do not carry the name is no part of
the view. -/
lemma sameView_of {left right : RegBucket}
    (hrecords : ∀ ref, recordOf left ref = recordOf right ref)
    (hholders : ∀ ref rec, recordOf right ref = some rec →
      (holderOf left rec.name = some ref ↔ holderOf right rec.name = some ref)) :
    SameView left right := by
  refine ⟨fun id => hrecords _, fun name => ?_⟩
  grind

/-- The Rack holds the key of the name it carries, if it carries one. -/
def HoldsName (reg : RegBucket) (id : UUID) : Prop :=
  ∀ rec, recordOf reg ⟨typeRack, id⟩ = some rec → rec.name ≠ "" →
    holderOf reg rec.name = some ⟨typeRack, id⟩

/-- What the pass over all name keys leaves and collects. -/
structure Indexed (before after : RegBucket) (held : Held) : Prop where
  records : ∀ ref, recordOf after ref = recordOf before ref
  holders : ∀ name ref, holderOf after name = some ref ↔
    holderOf before name = some ref ∧ recordOf before ref ≠ none
  collected : ∀ ref name, name ∈ held ref ↔ holderOf after name = some ref
  untouched : (∀ name, ¬ Dangling before name) → after = before

lemma mem_nameKeys_iff {reg : RegBucket} {name : String} :
    name ∈ reg.keys Key.name? ↔ ∃ ref, holderOf reg name = some ref := by
  rw [Bucket.mem_keys_iff]
  constructor
  · rintro ⟨key, item, hitem, hname⟩
    cases key with
    | entity => simp [Key.name?] at hname
    | name text =>
      obtain rfl : text = name := by simpa [Key.name?] using hname
      exact ⟨item.value, holderOf_of_get hitem⟩
  · rintro ⟨ref, hholder⟩
    obtain ⟨rev, hkey⟩ := exists_get_of_holderOf hholder
    exact ⟨.name name, ⟨ref, rev⟩, hkey, rfl⟩

lemma mem_rackKeys_iff {reg : RegBucket} {id : UUID} : id ∈ reg.keys (Key.entityOf? typeRack) ↔
      ∃ rec, recordOf reg ⟨typeRack, id⟩ = some rec := by
  rw [Bucket.mem_keys_iff]
  constructor
  · rintro ⟨key, item, hitem, hid⟩
    cases key with
    | entity ref =>
      obtain ⟨typeID, machineID⟩ := ref
      obtain ⟨rfl, rfl⟩ : typeID = typeRack ∧ machineID = id := by
        simpa [Key.entityOf?] using hid
      exact ⟨item.value, recordOf_of_get hitem⟩
    | name => simp [Key.entityOf?] at hid
  · rintro ⟨rec, hrecord⟩
    obtain ⟨rev, hitem⟩ := exists_get_of_recordOf hrecord
    exact ⟨.entity ⟨typeRack, id⟩, ⟨rec, rev⟩, hitem, by simp [Key.entityOf?]⟩

lemma rackKeys_nodup (reg : RegBucket) : (reg.keys (Key.entityOf? typeRack)).Nodup := by
  apply reg.keys_nodup
  intro key other id hkey hother
  cases key <;> cases other <;> grind [Key.entityOf?, cases NameRef]

lemma indexed_of_tidied {before after : RegBucket} {held : Held}
    (htidied : Tidied (before.keys Key.name?) before after (fun _ => []) held) :
    Indexed before after held := by
  have hkeys : ∀ name ref, holderOf before name = some ref → name ∈ before.keys Key.name? :=
    fun name ref hholder => mem_nameKeys_iff.mpr ⟨ref, hholder⟩
  have hholders : ∀ name ref, holderOf after name = some ref ↔
      holderOf before name = some ref ∧ recordOf before ref ≠ none := by
    intro name ref
    have hkept := htidied.kept name
    have hcleared := htidied.cleared name
    grind [Dangling]
  refine ⟨htidied.records, hholders, ?_, ?_⟩
  · intro ref name
    rw [htidied.collected]
    grind
  · exact fun hnone => htidied.untouched fun name _ => hnone name

lemma Indexed.sameView {before after : RegBucket} {held : Held}
    (hindexed : Indexed before after held) : SameView after before := by
  apply sameView_of hindexed.records
  grind [hindexed.holders]

section

variable {allowed : Input → Prop} {seen : Set RegBucket} {reg : RegBucket}
variable {grace : ℤ}

lemma alone_sweepOrphans {post : SweepResult × Option Err → Set RegBucket → RegBucket → Prop}
    (hseen : reg ∈ seen)
    (hrecords : ∀ held result passed after, after ∈ passed → Indexed reg after held →
      ((∀ name, ¬ Dangling reg name) → result = ⟨0, 0, 0⟩) →
      (sweepRecords grace held (after.keys (Key.entityOf? typeRack)) result).Alone
        exec allowed post passed after) :
    (sweepOrphans grace).Alone exec allowed post seen reg := by
  apply alone_read .nameKeys hseen (fun _ _ => rfl)
  intro _ _
  apply Program.Alone.bind
  apply alone_sweepNames hseen
  intro held count passed after hafter htidied hcount
  apply alone_read (.entityKeys typeRack) hafter (fun _ _ => rfl)
  intro _ _
  apply hrecords held _ passed after hafter (indexed_of_tidied htidied)
  intro hnone
  rw [hcount fun name _ => hnone name]

lemma Indexed.skipped {after : RegBucket} {held : Held} {id : UUID}
    (hindexed : Indexed reg after held) (hholds : HoldsName reg id) :
    Skipped held after id := by
  intro rec hrecord
  have hcollected := hindexed.collected ⟨typeRack, id⟩ rec.name
  have hholders := hindexed.holders rec.name ⟨typeRack, id⟩
  rw [hindexed.records] at hrecord
  have hheld := hholds rec hrecord
  grind

/-- A sweep changes nothing a reader sees when every named Rack holds its name
key, and nothing at all when no name key dangles either. -/
lemma alone_sweep_healthy (hseen : reg ∈ seen) (hholds : ∀ id, HoldsName reg id) :
    (sweepOrphans grace).Alone exec allowed (fun outcome _ final => SameView final reg ∧
        ((∀ name, ¬ Dangling reg name) →
          final = reg ∧ outcome = (⟨0, 0, 0⟩, none))) seen reg := by
  apply alone_sweepOrphans hseen
  intro held result passed after hafter hindexed hresult
  apply alone_sweepRecords_skip hafter
  · exact fun id _ => hindexed.skipped (hholds id)
  · refine ⟨hindexed.sameView, fun hnone => ⟨hindexed.untouched hnone, ?_⟩⟩
    rw [hresult hnone]

/-! ## One Rack that lost its name -/

/-- The only named Rack that does not hold its name key. -/
structure Broken (reg : RegBucket) (id : UUID) (rec : Record) : Prop where
  others : ∀ other, other ≠ id → HoldsName reg other
  stored : recordOf reg ⟨typeRack, id⟩ = some rec
  named : rec.name ≠ ""
  lost : holderOf reg rec.name ≠ some ⟨typeRack, id⟩

variable {id : UUID} {rec : Record} (hseen : reg ∈ seen)
  (hbroken : Broken reg id rec)
  (hold : ∀ input, allowed input → grace ≤ input.now - rec.updatedAt)

include hseen hbroken hold

/-- The sweep comes down to the second half of `sweepRecord` for that Rack. -/
lemma alone_sweep_broken {fixed : RegBucket → Prop}
    (hempty : (∀ name, holderOf reg name ≠ some ⟨typeRack, id⟩) →
      ∀ after held, Indexed reg after held → fixed (after.remove (.entity ⟨typeRack, id⟩)))
    (hrename : ∀ after held rev oldest names passed result,
      Indexed reg after held → after ∈ passed →
      after.get (.entity ⟨typeRack, id⟩) = some ⟨rec, rev⟩ →
      held ⟨typeRack, id⟩ = oldest :: names →
      (sweepRename rec rev ⟨typeRack, id⟩ oldest (oldest :: names) result).Alone
        exec allowed (fun outcome passed final => outcome.2 = none ∧
          final ∈ passed ∧ (∀ other, other ≠ id →
            recordOf final ⟨typeRack, other⟩ = recordOf after ⟨typeRack, other⟩) ∧
          fixed final) passed after) :
    (sweepOrphans grace).Alone exec allowed (fun _ _ final => fixed final) seen reg := by
  apply alone_sweepOrphans hseen
  intro held result passed after hafter hindexed _
  have hstored : recordOf after ⟨typeRack, id⟩ = some rec := by
    rw [hindexed.records]
    exact hbroken.stored
  obtain ⟨rev, hitem⟩ := exists_get_of_recordOf hstored
  apply alone_sweepRecords_one hafter (rackKeys_nodup after) (mem_rackKeys_iff.mpr ⟨rec, hstored⟩)
  · exact fun other _ hne => hindexed.skipped (hbroken.others other hne)
  · intro result
    apply alone_sweepRecord hafter hitem hbroken.named hold
    · intro hheld
      have hpoints := (hindexed.collected _ _).mp hheld
      exact hbroken.lost ((hindexed.holders _ _).mp hpoints).1
    · intro hnil result
      refine ⟨rfl, Set.mem_insert _ _, ?_, ?_⟩
      · intro other hother
        simp [hother]
      · apply hempty _ after held hindexed
        intro name hholder
        have hmem : name ∈ held ⟨typeRack, id⟩ :=
          (hindexed.collected _ _).mpr ((hindexed.holders _ _).mpr
            ⟨hholder, by simp [hbroken.stored]⟩)
        simp [hnil] at hmem
    · intro oldest names hheld
      exact hrename after held rev oldest names passed result hindexed hafter hitem hheld
  · exact fun _ _ final hfixed => hfixed

/-- A Rack that no name key points at is deleted. -/
lemma alone_sweep_delete (hunheld : ∀ name, holderOf reg name ≠ some ⟨typeRack, id⟩) :
    (sweepOrphans grace).Alone exec allowed
      (fun _ _ final => SameView final (reg.remove (.entity ⟨typeRack, id⟩)))
      seen reg := by
  apply alone_sweep_broken hseen hbroken hold
  · intro _ after held hindexed
    apply sameView_of
    · intro ref
      simp [hindexed.records]
    · grind [hindexed.holders]
  · intro after held rev oldest names passed result hindexed _ _ hheld
    have hcollected := hindexed.collected ⟨typeRack, id⟩ oldest
    grind [hindexed.holders]

/-- A Rack whose name nobody carries gets its key back. -/
lemma alone_sweep_complete {name : String} (hheld : holderOf reg name = some ⟨typeRack, id⟩)
    (hfree : resolved reg rec.name = none) :
    (sweepOrphans grace).Alone exec allowed (fun _ _ final => SameView final
        (reg.write (.name rec.name) ⟨typeRack, id⟩)) seen reg := by
  apply alone_sweep_broken hseen hbroken hold
  · exact fun hunheld => absurd hheld (hunheld name)
  · intro after held rev oldest names passed result hindexed hafter hitem hnames
    apply alone_claimName hafter
    · exact Or.inr (Or.inr ((hindexed.sameView.names _).trans hfree))
    apply Program.Alone.bind
    apply alone_releaseAll (Set.mem_insert _ _)
    intro passed hpassed
    refine ⟨rfl, hpassed, ?_, ?_⟩
    · intro other _
      simp
    rw [← hnames]
    apply sameView_of
    · intro ref
      simp [hindexed.records]
    intro ref other hother
    rw [holderOf_releasedAll, holderOf_claimed hbroken.named, holderOf_write_name]
    simp only [hindexed.collected]
    have hholders := hindexed.holders other.name
    have hstored := hbroken.stored
    have hlost := hbroken.lost
    grind

/-- A Rack whose name another entity carries is renamed to a name that still
points at it. -/
lemma alone_sweep_rollback {name : String} {holder : Record}
    (hheld : holderOf reg name = some ⟨typeRack, id⟩)
    (htaken : resolved reg rec.name = some holder) :
    (sweepOrphans grace).Alone exec allowed (fun _ _ final => ∃ oldest input, allowed input ∧
        recordOf final ⟨typeRack, id⟩ = some { rec with name := oldest, updatedAt := input.now })
      seen reg := by
  apply alone_sweep_broken hseen hbroken hold
  · exact fun hunheld => absurd hheld (hunheld name)
  · intro after held rev oldest names passed result hindexed hafter hitem _
    apply alone_claimName_conflict hafter hbroken.named
    · intro hpoints
      exact hbroken.lost ((hindexed.holders _ _).mp hpoints).1
    · exact (hindexed.sameView.names _).trans htaken
    apply alone_read .now hafter (fun _ _ => rfl)
    intro input hinput
    apply alone_update ⟨_, hitem, rfl⟩
    refine ⟨rfl, Set.mem_insert _ _, ?_, oldest, input, hinput, ?_⟩
    · intro other hother
      simp [hother]
    · simp [exec]

end

end Fluxrig.Registry
