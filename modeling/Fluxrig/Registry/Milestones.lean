import Fluxrig.Registry.Store

/-!
# What a call has done once it has succeeded

Updates and removals report success on one path only: the one that passes their
compare-and-swap.  These facts are about the programs alone, so they hold in
every interleaving.
-/

namespace Fluxrig.Registry

open Fluxrig.Core

variable {A : Type} {cfg : Settings}
variable {milestone : (op : Op) → op.Reply → Prop}

def Succeeds (outcome : Except Err A) : Prop :=
  ∃ value, outcome = .ok value

/-- A record with this status was written under `ref`. -/
def WritesStatus (ref : NameRef) (status : String) : (op : Op) → op.Reply → Prop
  | .update _ (.entity target) rec _, some _ =>
      target = ref ∧ rec.status = status
  | _, _ => False

/-- The record under `ref` was deleted. -/
def DeletesRecord (ref : NameRef) : (op : Op) → op.Reply → Prop
  | .delete .plain (.entity target) _, true => target = ref
  | _, _ => False

lemma exists_delete_of_deletesRecord {ref : NameRef} {op : Op} {reply : op.Reply}
    (hdeletes : DeletesRecord ref op reply) :
    ∃ rev, op = .delete .plain (.entity ref) rev := by
  unfold DeletesRecord at hdeletes
  split at hdeletes
  · exact ⟨_, by rw [hdeletes]⟩
  · exact hdeletes.elim

lemma not_succeeds_error (err : Err) : ¬ Succeeds (.error err : Except Err A) := by
  rintro ⟨value, hvalue⟩
  cases hvalue

lemma requires_retry {op : String} {fn : Prog (Except Err A)}
    {final : Except Err A → Prop} (hfinal : ∀ err, ¬ final (.error err))
    (hfn : fn.Requires milestone final) :
    (retry cfg op fn).Requires milestone final := by
  rw [retry]
  generalize cfg.writeRetries + 1 = attempts
  induction attempts with
  | zero => exact hfinal _
  | succ _ ih =>
    apply Program.Requires.bind hfn
    intro outcome hfailed
    split
    · exact ih
    · exact hfailed

/-- The last step of every call: its outcome under one type. -/
lemma requires_map {B : Type} {program : Prog (Except Err A)} {wrap : A → B}
    {inner : Except Err A → Prop} {final : Except Err B → Prop}
    (hinner : ∀ outcome, final (outcome.map wrap) → inner outcome)
    (hprogram : program.Requires milestone inner) :
    (program >>= fun outcome => pure (outcome.map wrap)).Requires milestone final := by
  apply Program.Requires.bind hprogram
  exact fun outcome hfailed hfinal => hfailed (hinner outcome hfinal)

lemma succeeds_of_map {B : Type} {wrap : A → B} (outcome : Except Err A)
    (hsucceeds : Succeeds (outcome.map wrap)) : Succeeds outcome := by
  cases outcome with
  | error err => exact absurd hsucceeds (not_succeeds_error err)
  | ok value => exact ⟨value, rfl⟩

lemma requires_updateStatus (typeID : UInt8) (id : UUID) (status : String) :
    (Call.body cfg (.updateStatus typeID id status)).Requires
      (WritesStatus ⟨typeID, id⟩ status) Succeeds := by
  apply requires_map succeeds_of_map
  apply requires_retry not_succeeds_error
  intro item
  right
  cases item with
  | none => exact not_succeeds_error _
  | some =>
    intro now
    right
    intro written
    cases written with
    | none => exact Or.inr (not_succeeds_error _)
    | some => exact Or.inl ⟨rfl, rfl⟩

lemma requires_approveAs (orig : Record) (rev : ℕ) (id : UUID) (name : String) :
    (approveAs orig rev id name).Requires (WritesStatus ⟨typeRack, id⟩ "active") Succeeds := by
  intro now
  right
  intro written
  cases written with
  | none => exact Or.inr (not_succeeds_error _)
  | some => exact Or.inl ⟨rfl, rfl⟩

lemma requires_approve (id : UUID) (newName : String) :
    (Call.body cfg (.approve id newName)).Requires
      (WritesStatus ⟨typeRack, id⟩ "active") Succeeds := by
  apply requires_map succeeds_of_map
  apply requires_retry not_succeeds_error
  intro item
  right
  cases item with
  | none => exact not_succeeds_error _
  | some item =>
    change Program.Requires _ _ (if newName = "" ∨ newName = item.value.name then _
      else _)
    split
    · exact requires_approveAs _ _ _ _
    · apply (Program.requires_never _ (resolveName newName)).bind
      intro holder _
      cases holder with
      | error => exact requires_approveAs _ _ _ _
      | ok holder =>
        change Program.Requires _ _ (if holder.machineID ≠ id then _ else _)
        split
        · exact not_succeeds_error _
        · exact requires_approveAs _ _ _ _

lemma requires_remove (typeID : UInt8) (id : UUID) :
    (Call.body cfg (.remove typeID id)).Requires (DeletesRecord ⟨typeID, id⟩) Succeeds := by
  apply requires_map succeeds_of_map
  apply requires_retry not_succeeds_error
  intro item
  right
  cases item with
  | none => exact not_succeeds_error _
  | some =>
    intro deleted
    cases deleted with
    | false => exact Or.inr (not_succeeds_error _)
    | true => exact Or.inl rfl

end Fluxrig.Registry
