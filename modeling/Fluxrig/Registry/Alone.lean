import Fluxrig.Registry.View

/-!
# The helpers of the store, run alone

Without interference every helper is a function of the bucket.  There is one
rule for each, followed by the rest of the call: which reply it gives, which
bucket it leaves, and which buckets it passes through on the way.
-/

namespace Fluxrig.Registry

open Fluxrig.Core

variable {A : Type} {allowed : Input → Prop} {seen : Set RegBucket}
variable {reg : RegBucket} {post : A → Set RegBucket → RegBucket → Prop}

lemma alone_read (op : Op) {rest : op.Reply → Prog A} (hseen : reg ∈ seen)
    (hstate : ∀ input reg, (exec op input reg).2 = reg)
    (hrest : ∀ input, allowed input →
      (rest (exec op input reg).1).Alone exec allowed post seen reg) :
    (Program.request op >>= rest).Alone exec allowed post seen reg := by
  intro input hallowed
  rw [hstate, Set.insert_eq_of_mem hseen]
  exact hrest input hallowed

variable {site : Site} {key : Key} {value : key.Value} {name : String}
  {rest : Except Err Unit → Prog A} {ref : NameRef}

lemma alone_get {rest : Option (Item key.Value) → Prog A} (hseen : reg ∈ seen)
    (hrest : (rest (reg.get key)).Alone exec allowed post seen reg) :
    (get site key >>= rest).Alone exec allowed post seen reg :=
  alone_read (.get site key) hseen (fun _ _ => rfl) (fun _ _ => hrest)

lemma alone_create {rest : Option ℕ → Prog A} (habsent : reg.get key = none)
    (hrest : (rest (some (reg.rev + 1))).Alone exec allowed post
      (insert (reg.write key value) seen) (reg.write key value)) :
    (create site key value >>= rest).Alone exec allowed post seen reg := by
  intro input _
  simp only [exec, Bucket.create_of_none _ habsent]
  exact hrest

lemma alone_create_conflict {item : Item key.Value} {rest : Option ℕ → Prog A}
    (hseen : reg ∈ seen) (hitem : reg.get key = some item)
    (hrest : (rest none).Alone exec allowed post seen reg) :
    (create site key value >>= rest).Alone exec allowed post seen reg := by
  intro input _
  simp only [exec, Bucket.create_of_some _ hitem, Set.insert_eq_of_mem hseen]
  exact hrest

lemma alone_update {rev : ℕ} {rest : Option ℕ → Prog A} (hat : reg.At key rev)
    (hrest : (rest (some (reg.rev + 1))).Alone exec allowed post
      (insert (reg.write key value) seen) (reg.write key value)) :
    (update site key value rev >>= rest).Alone exec allowed post seen reg := by
  intro input _
  simp only [exec, Bucket.update_of_at _ hat]
  exact hrest

lemma alone_delete {rev : ℕ} {rest : Bool → Prog A} (hat : reg.At key rev)
    (hrest : (rest true).Alone exec allowed post (insert (reg.remove key) seen)
      (reg.remove key)) :
    (delete site key rev >>= rest).Alone exec allowed post seen reg := by
  intro input _
  simp only [exec, Bucket.delete_of_at hat]
  exact hrest

lemma alone_getRecord_none {typeID : UInt8} {id : UUID}
    {rest : Except Err (Record × ℕ) → Prog A} (hseen : reg ∈ seen)
    (habsent : reg.get (.entity ⟨typeID, id⟩) = none)
    (hrest : (rest (.error .notFound)).Alone exec allowed post seen reg) :
    (getRecord site typeID id >>= rest).Alone exec allowed post seen reg := by
  apply Program.Alone.bind
  apply alone_get hseen
  rw [habsent]
  exact hrest

lemma alone_getRecord_some {typeID : UInt8} {id : UUID} {item : Item Record}
    {rest : Except Err (Record × ℕ) → Prog A} (hseen : reg ∈ seen)
    (hitem : reg.get (.entity ⟨typeID, id⟩) = some item)
    (hrest : (rest (.ok (item.value, item.rev))).Alone exec allowed post seen reg) :
    (getRecord site typeID id >>= rest).Alone exec allowed post seen reg := by
  apply Program.Alone.bind
  apply alone_get hseen
  rw [hitem]
  exact hrest

/-- `resolveName` returns exactly `resolution` and changes nothing. -/
lemma alone_resolveName {post : Except Err Record → Set RegBucket → RegBucket → Prop}
    (hseen : reg ∈ seen) (hpost : post (resolution reg name) seen reg) :
    (resolveName name).Alone exec allowed post seen reg := by
  apply alone_get hseen
  cases hkey : reg.get (.name name) with
  | none =>
    have hresolved : resolved reg name = none := by
      simp [resolved, holderOf, hkey]
    rw [resolution, hresolved] at hpost
    exact hpost
  | some held =>
    have hholder := holderOf_of_get hkey
    cases hitem : reg.get (.entity held.value) with
    | none =>
      have hresolved : resolved reg name = none := by
        simp [resolved, hholder, recordOf, hitem]
      rw [resolution, hresolved] at hpost
      exact alone_getRecord_none hseen hitem hpost
    | some item =>
      apply alone_getRecord_some hseen hitem
      by_cases hname : item.value.name = name
      · have hresolved : resolved reg name = some item.value := resolved_eq_some_iff.mpr
            ⟨held.value, hholder, recordOf_of_get hitem, hname⟩
        rw [resolution, hresolved] at hpost
        simp only [hname, ne_eq, not_true_eq_false, if_false]
        exact hpost
      · have hresolved : resolved reg name = none := by
          simp [resolved, hholder, recordOf, hitem, hname]
        rw [resolution, hresolved] at hpost
        simp only [hname, ne_eq, not_false_eq_true, if_true]
        exact hpost

lemma resolveName_runAlone (name : String) (reg : RegBucket) (inputs : ℕ → Input) :
    ((resolveName name).runAlone exec (reg, inputs)).1 = resolution reg name := by
  have halone : (resolveName name).Alone exec (fun _ => True)
      (fun outcome _ _ => outcome = resolution reg name) {reg} reg :=
    alone_resolveName rfl rfl
  exact halone.runAlone rfl (fun _ => trivial)

section

variable (reg : RegBucket) (name : String) (ref : NameRef)

/-- What a successful `claimName` leaves. -/
def claimed : RegBucket :=
  if name = "" ∨ holderOf reg name = some ref then reg
  else reg.write (.name name) ref

/-- What `releaseName` leaves. -/
def released : RegBucket :=
  if name ≠ "" ∧ holderOf reg name = some ref then reg.remove (.name name)
  else reg

end

@[simp, grind =]
lemma recordOf_claimed (name : String) (ref other : NameRef) :
    recordOf (claimed reg name ref) other = recordOf reg other := by
  grind [claimed]

lemma holderOf_claimed (hname : name ≠ "") (ref : NameRef) (other : String) :
    holderOf (claimed reg name ref) other =
      if other = name then some ref else holderOf reg other := by
  grind [claimed]

@[simp, grind =]
lemma recordOf_released (name : String) (ref other : NameRef) :
    recordOf (released reg name ref) other = recordOf reg other := by
  grind [released]

@[grind =]
lemma holderOf_released (name other : String) (ref : NameRef) :
    holderOf (released reg name ref) other =
      if other = name ∧ other ≠ "" ∧ holderOf reg other = some ref then none
      else holderOf reg other := by
  grind [released]

lemma alone_repoint {post : Except Err Unit → Set RegBucket → RegBucket → Prop}
    {held : Item NameRef} (hkey : reg.get (.name name) = some held)
    (hpost : post (.ok ()) (insert (reg.write (.name name) ref) seen)
      (reg.write (.name name) ref)) :
    (repoint name ref held.rev).Alone exec allowed post seen reg :=
  alone_update ⟨held, hkey, rfl⟩ hpost

section

variable (hseen : reg ∈ seen)

include hseen

lemma alone_claimName
    (hclaim : name = "" ∨ holderOf reg name = some ref ∨ resolved reg name = none)
    (hpost : (rest (.ok ())).Alone exec allowed post (insert (claimed reg name ref) seen)
      (claimed reg name ref)) :
    (claimName name ref >>= rest).Alone exec allowed post seen reg := by
  apply Program.Alone.bind
  by_cases hname : name = ""
  · rw [claimed, if_pos (Or.inl hname), Set.insert_eq_of_mem hseen] at hpost
    rw [claimName, if_pos hname]
    exact hpost
  rw [claimName, if_neg hname]
  cases hkey : reg.get (.name name) with
  | none =>
    have hfree : ¬ (name = "" ∨ holderOf reg name = some ref) := by
      simp [hname, holderOf_eq_none_iff.mpr hkey]
    rw [claimed, if_neg hfree] at hpost
    exact alone_create hkey hpost
  | some held =>
    have hholder := holderOf_of_get hkey
    apply alone_create_conflict hseen hkey
    apply alone_get hseen
    rw [hkey]
    by_cases hself : held.value = ref
    · simp only [hself, if_true]
      rw [claimed, if_pos (Or.inr (hholder.trans (congrArg some hself))),
        Set.insert_eq_of_mem hseen] at hpost
      exact hpost
    · simp only [hself, if_false]
      have hother : ¬ (name = "" ∨ holderOf reg name = some ref) := by
        simp [hname, hholder, hself]
      have hunresolved : resolved reg name = none := by
        simpa [hname, hholder, hself] using hclaim
      rw [claimed, if_neg hother] at hpost
      cases hitem : reg.get (.entity held.value) with
      | none =>
        apply alone_getRecord_none hseen hitem
        exact alone_repoint hkey hpost
      | some item =>
        apply alone_getRecord_some hseen hitem
        have hcarries : item.value.name ≠ name := by
          intro hcarries
          have hresolved : resolved reg name = some item.value := resolved_eq_some_iff.mpr
              ⟨held.value, hholder, recordOf_of_get hitem, hcarries⟩
          rw [hunresolved] at hresolved
          exact Option.some_ne_none _ hresolved.symm
        simp only [hcarries, if_false]
        exact alone_repoint hkey hpost

/-- A name that resolves to another entity is not given up. -/
lemma alone_claimName_conflict {rec : Record}
    (hname : name ≠ "") (hother : holderOf reg name ≠ some ref)
    (hresolved : resolved reg name = some rec)
    (hpost : (rest (.error .nameConflict)).Alone exec allowed post seen reg) :
    (claimName name ref >>= rest).Alone exec allowed post seen reg := by
  obtain ⟨holder, hholder, hrecord, hcarries⟩ := resolved_eq_some_iff.mp hresolved
  obtain ⟨rev, hkey⟩ := exists_get_of_holderOf hholder
  obtain ⟨recordRev, hitem⟩ := exists_get_of_recordOf hrecord
  have hself : holder ≠ ref := by
    intro heq
    exact hother (heq ▸ hholder)
  apply Program.Alone.bind
  rw [claimName, if_neg hname]
  apply alone_create_conflict hseen hkey
  apply alone_get hseen
  rw [hkey]
  simp only [hself, if_false]
  apply alone_getRecord_some hseen hitem
  simp only [hcarries, if_true]
  exact hpost

lemma alone_moveName {source target : NameRef} (hholder : holderOf reg name = some source)
    (hpost : (rest (.ok ())).Alone exec allowed post
      (insert (reg.write (.name name) target) seen) (reg.write (.name name) target)) :
    (moveName name source target >>= rest).Alone exec allowed post seen reg := by
  obtain ⟨rev, hkey⟩ := exists_get_of_holderOf hholder
  apply Program.Alone.bind
  apply alone_get hseen
  rw [hkey]
  simp only [ne_eq, not_true_eq_false, if_false]
  exact alone_update ⟨_, hkey, rfl⟩ hpost

lemma alone_releaseName {rest : Unit → Prog A}
    (hpost : (rest ()).Alone exec allowed post (insert (released reg name ref) seen)
      (released reg name ref)) :
    (releaseName name ref >>= rest).Alone exec allowed post seen reg := by
  apply Program.Alone.bind
  by_cases hheld : name ≠ "" ∧ holderOf reg name = some ref
  · rw [released, if_pos hheld] at hpost
    obtain ⟨rev, hkey⟩ := exists_get_of_holderOf hheld.2
    rw [releaseName, if_neg hheld.1]
    apply alone_get hseen
    rw [hkey]
    simp only [if_true]
    exact alone_delete ⟨_, hkey, rfl⟩ hpost
  · rw [released, if_neg hheld, Set.insert_eq_of_mem hseen] at hpost
    by_cases hname : name = ""
    · rw [releaseName, if_pos hname]
      exact hpost
    · rw [releaseName, if_neg hname]
      apply alone_get hseen
      cases hkey : reg.get (.name name) with
      | none => exact hpost
      | some held =>
        have hother : held.value ≠ ref := by
          intro heq
          exact hheld ⟨hname, (holderOf_of_get hkey).trans (congrArg some heq)⟩
        simp only [hother, if_false]
        exact hpost

lemma alone_toRack {rec : Record} {rest : Rack → Prog A}
    (hrest : ∀ rack, rack.secret = "" → (rest rack).Alone exec allowed post seen reg) :
    (toRack rec >>= rest).Alone exec allowed post seen reg := by
  apply Program.Alone.bind
  apply alone_read (.liveGet rec.ref) hseen (fun _ _ => rfl)
  intro _ _
  apply alone_read (.statsGet rec.ref) hseen (fun _ _ => rfl)
  intro _ _
  exact hrest _ rfl

end

section

variable {fn : Prog (Except Err A)} {post : Except Err A → Set RegBucket → RegBucket → Prop}

/-- An attempt that ends in a revision conflict has changed nothing. -/
def Attempt (post : Except Err A → Set RegBucket → RegBucket → Prop)
    (seen : Set RegBucket) (reg : RegBucket) (outcome : Except Err A)
    (passed : Set RegBucket) (final : RegBucket) : Prop :=
  (outcome = .error .conflict ∧ passed = seen ∧ final = reg ∧ ∀ err, post (.error err) seen reg) ∨
  (outcome ≠ .error .conflict ∧ post outcome passed final)

lemma alone_retryLoop_succ {attempts : ℕ} {giveUp : Err}
    (hfn : fn.Alone exec allowed (Attempt post seen reg) seen reg)
    (hrest : (∀ err, post (.error err) seen reg) →
      (retryLoop attempts giveUp fn).Alone exec allowed post seen reg) :
    (retryLoop (attempts + 1) giveUp fn).Alone exec allowed post seen reg := by
  apply Program.Alone.bind
  apply hfn.mono
  intro outcome passed final hcase
  split
  · rcases hcase with ⟨_, rfl, rfl, hgiveUp⟩ | ⟨hother, _⟩
    · exact hrest hgiveUp
    · exact absurd rfl hother
  next hother =>
    rcases hcase with ⟨heq, _⟩ | ⟨_, hpost⟩
    · exact absurd heq hother
    · exact hpost

/-- A retried call is its last attempt. -/
lemma alone_retry {cfg : Settings} {op : String}
    (hfn : fn.Alone exec allowed (Attempt post seen reg) seen reg) :
    (retry cfg op fn).Alone exec allowed post seen reg := by
  have hloop : ∀ attempts giveUp,
      (retryLoop (attempts + 1) giveUp fn).Alone exec allowed post seen reg := by
    intro attempts giveUp
    induction attempts with
    | zero => exact alone_retryLoop_succ hfn (fun hgiveUp => hgiveUp giveUp)
    | succ _ ih => exact alone_retryLoop_succ hfn (fun _ => ih)
  exact hloop _ _

end

end Fluxrig.Registry
