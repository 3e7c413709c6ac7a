import Fluxrig.Registry.Moves

/-!
# The ledger of names

A record and its name key are two keys, so every call leaves them apart for a
while.  What survives every interleaving is weaker: a record that carries a
name either holds its name key, or some call in progress still has to settle
that name for that record.

The ledger does not survive five steps of the code: a name key given to
somebody else, or deleted, after its holder has come to carry the name again; an
undo or the last delete of an adoption that meets a moved revision; and the
undo of a rename whose old name was taken meanwhile.  `Harmful` names them.
This file shows that every other operation keeps the ledger.
-/

namespace Fluxrig.Registry

open Fluxrig.Core

/-- Every record that carries a name holds its name key, or is owed it. -/
def Accounted (reg : RegBucket) (owed : NameRef → String → Prop) : Prop :=
  ∀ ref name, nameOf reg ref = some name → name ≠ "" →
    holderOf reg name = some ref ∨ owed ref name

/-- The key of `name` is still at `rev` and its holder carries the name, which
no other call is settling for it: taking the key away strands the holder. -/
def TakesKey (others : NameRef → String → Prop) (reg : RegBucket)
    (name : String) (rev : ℕ) : Prop :=
  ∃ holder, reg.get (.name name) = some ⟨holder, rev⟩ ∧
    nameOf reg holder = some name ∧ ¬ others holder name

/-- A record that carries a name without its key, and that no other call
settles. -/
def Stranded (others : NameRef → String → Prop) (reg : RegBucket)
    (ref : NameRef) (name : String) : Prop :=
  nameOf reg ref = some name ∧ holderOf reg name ≠ some ref ∧ ¬ others ref name

/-- The steps that break the accounting, judged in the state before the step.
`others` is what the other calls in progress still have to settle. -/
def Harmful (others : NameRef → String → Prop) (reg : RegBucket) : Op → Prop
  | .update (.claim _ name) _ _ rev => TakesKey others reg name rev
  | .delete (.release _ name) _ rev => TakesKey others reg name rev
  | .delete (.undo ref name) key rev =>
      ¬ reg.At key rev ∧ Stranded others reg ref name
  | .delete (.dropOld holder) key rev =>
      ¬ reg.At key rev ∧ Stranded others reg holder.ref holder.name
  | .update (.undo ref name) (.entity target) orig rev =>
      (reg.At (.entity target) rev ∧ orig.name ≠ "" ∧
        holderOf reg orig.name ≠ some target ∧ ¬ others target orig.name) ∨
      (¬ reg.At (.entity target) rev ∧ Stranded others reg ref name)
  | _ => False

instance (others : NameRef → String → Prop)
    [∀ ref name, Decidable (others ref name)] (reg : RegBucket)
    (name : String) (rev : ℕ) : Decidable (TakesKey others reg name rev) :=
  match hitem : reg.get (.name name) with
  | none => isFalse fun ⟨_, hget, _⟩ => by simp [hitem] at hget
  | some ⟨holder, found⟩ =>
    decidable_of_iff (found = rev ∧ nameOf reg holder = some name ∧ ¬ others holder name) <| by
      simp only [TakesKey, hitem, Option.some.injEq, Item.mk.injEq]
      constructor
      · rintro ⟨rfl, hrest⟩
        exact ⟨holder, ⟨rfl, rfl⟩, hrest⟩
      · rintro ⟨_, ⟨rfl, rfl⟩, hrest⟩
        exact ⟨rfl, hrest⟩

instance (others : NameRef → String → Prop)
    [∀ ref name, Decidable (others ref name)] (reg : RegBucket)
    (ref : NameRef) (name : String) :
    Decidable (Stranded others reg ref name) :=
  inferInstanceAs (Decidable (_ ∧ _ ∧ _))

instance (others : NameRef → String → Prop)
    [∀ ref name, Decidable (others ref name)] (reg : RegBucket) (op : Op) :
    Decidable (Harmful others reg op) := by
  unfold Harmful
  split <;> infer_instance

/-- One operation keeps the accounts, `after` being what its call has to settle
from then on. -/
def Keeps (op : Op) (input : Input) (reg : RegBucket) (after : Debt) : Prop :=
  ∀ others : NameRef → String → Prop,
    Accounted reg (fun ref name =>
      op.debt = .name ref name ∨ others ref name) →
    ¬ Harmful others reg op →
    Accounted (exec op input reg).2 (fun ref name =>
      after = .name ref name ∨ others ref name)

variable {input : Input} {reg : RegBucket} {after : Debt} {site : Site} {ref : NameRef}
  {name : String} {rev : ℕ}

/-- An operation that changes nothing may pass on what it has to settle, or
drop it where the key is already right. -/
lemma keeps_of_unchanged {op : Op} (hstate : (exec op input reg).2 = reg)
    (hdebt : ∀ ref name, op.debt = .name ref name →
      after = .name ref name ∨ holderOf reg name = some ref) :
    Keeps op input reg after := by
  intro others haccounted _
  grind [Accounted]

lemma keeps_create_record {rec : Record}
    (hsite : ∀ settled carried, site.debt ≠ .name settled carried)
    (habsent : reg.get (.entity ref) = none)
    (hafter : rec.name = "" ∨ after = .name ref rec.name) :
    Keeps (.create site (.entity ref) rec) input reg after := by
  intro others haccounted _
  rw [exec, Bucket.create_of_none _ habsent]
  grind [Accounted, nameOf, Op.debt, Op.site]

lemma keeps_create_name (hsite : site.debt = .name ref name)
    (habsent : reg.get (.name name) = none) :
    Keeps (.create site (.name name) ref) input reg after := by
  intro others haccounted _
  have hfree := holderOf_eq_none_iff.mpr habsent
  rw [exec, Bucket.create_of_none _ habsent]
  grind [Accounted, nameOf, Op.debt, Op.site]

/-- A holder that carries the name of a key given away is settled by others. -/
lemma not_takesKey {others : NameRef → String → Prop} {item : Item NameRef}
    (hheld : reg.get (.name name) = some item) (hcarries : nameOf reg ref = some name)
    (hkey : holderOf reg name = some ref)
    (hharmless : ¬ TakesKey others reg name item.rev) : others ref name := by
  rw [holderOf_of_get hheld, Option.some.injEq] at hkey
  by_contra hother
  exact hharmless ⟨item.value, hheld, hkey ▸ hcarries, hkey ▸ hother⟩

/-- `claimName` repointing an orphan key. -/
lemma keeps_repoint (hat : reg.At (.name name) rev) :
    Keeps (.update (.claim ref name) (.name name) ref rev) input reg after := by
  intro others haccounted hharmless
  rw [exec, Bucket.update_of_at _ hat]
  obtain ⟨item, hheld, rfl⟩ := hat
  have hsettled := @not_takesKey reg
  grind [Accounted, nameOf, Op.debt, Op.site, Site.debt, Harmful]

/-- `moveName` repointing a key from the old identity: the old record is now
the one to be settled. -/
lemma keeps_move {source target : NameRef} (hheld : reg.get (.name name) = some ⟨source, rev⟩) :
    Keeps (.update (.move target name) (.name name) target rev) input reg
      (.name source name) := by
  intro others haccounted _
  have hholder := holderOf_of_get hheld
  rw [exec, Bucket.update_of_at _ ⟨_, hheld, rfl⟩]
  grind [Accounted, nameOf, Op.debt, Op.site, Site.debt]

/-- Rewriting a record that is still the one read. -/
lemma keeps_rewrite {old rec : Record} (hread : reg.get (.entity ref) = some ⟨old, rev⟩)
    (hafter : rec.name = old.name ∨ after = .name ref rec.name) :
    Keeps (.update .plain (.entity ref) rec rev) input reg after := by
  intro others haccounted _
  have hstored := recordOf_of_get hread
  rw [exec, Bucket.update_of_at _ ⟨_, hread, rfl⟩]
  grind [Accounted, nameOf, Op.debt, Op.site, Site.debt]

lemma keeps_release (hrev : rev ≠ 0) :
    Keeps (.delete (.release ref name) (.name name) rev) input reg .clear := by
  by_cases hat : reg.At (.name name) rev
  · intro others haccounted hharmless
    rw [exec, Bucket.delete_of_at hat]
    obtain ⟨item, hheld, rfl⟩ := hat
    have hsettled := @not_takesKey reg
    grind [Accounted, nameOf, Op.debt, Op.site, Site.debt, Harmful]
  · apply keeps_of_unchanged
    · rw [exec, Bucket.delete_of_not_at hrev hat]
    · exact fun _ _ hdebt => Or.inl hdebt

/-- A deleted record needs no name. -/
lemma accounted_remove {owed others : NameRef → String → Prop}
    (haccounted : Accounted reg owed) (howed : ∀ other carried, owed other carried →
      other = ref ∨ others other carried) : Accounted (reg.remove (.entity ref))
      (fun ref name => after = .name ref name ∨ others ref name) := by
  grind [Accounted, nameOf]

/-- Giving up a name that is not stranded leaves the accounts as they are. -/
lemma accounted_drop {debt : Debt} {others : NameRef → String → Prop}
    (hdebt : debt = .name ref name)
    (haccounted : Accounted reg fun ref name => debt = .name ref name ∨ others ref name)
    (hstranded : ¬ Stranded others reg ref name) :
    Accounted reg fun ref name => after = .name ref name ∨ others ref name := by
  grind [Accounted, Stranded]

lemma keeps_remove (hat : reg.At (.entity ref) rev) :
    Keeps (.delete .plain (.entity ref) rev) input reg .clear := by
  intro others haccounted _
  rw [exec, Bucket.delete_of_at hat]
  apply accounted_remove haccounted
  intro other carried howed
  right
  simpa [Op.debt, Op.site, Site.debt] using howed

/-- A delete that takes a record back, or gives up on a record that moved
without being stranded. -/
lemma keeps_takeBack (hrev : rev ≠ 0) (hsite : site.debt = .name ref name)
    (hharmful : ∀ others, ¬ reg.At (.entity ref) rev → Stranded others reg ref name →
        Harmful others reg (.delete site (.entity ref) rev)) :
    Keeps (.delete site (.entity ref) rev) input reg .clear := by
  intro others haccounted hharmless
  by_cases hat : reg.At (.entity ref) rev
  · rw [exec, Bucket.delete_of_at hat]
    apply accounted_remove haccounted
    grind [Op.debt, Op.site]
  · rw [exec, Bucket.delete_of_not_at hrev hat]
    apply accounted_drop hsite haccounted
    intro hstranded
    exact hharmless (hharmful others hat hstranded)

/-- The undo of a rename writes the original record back, or gives up. -/
lemma keeps_restore {orig : Record} :
    Keeps (.update (.undo ref name) (.entity ref) orig rev) input reg .clear := by
  intro others haccounted hharmless
  by_cases hat : reg.At (.entity ref) rev
  · rw [exec, Bucket.update_of_at _ hat]
    grind [Accounted, nameOf, Op.debt, Op.site, Site.debt, Harmful]
  · rw [exec, Bucket.update_of_not_at _ hat]
    apply accounted_drop rfl haccounted
    intro hstranded
    exact hharmless (Or.inr ⟨hat, hstranded⟩)

/-- Every operation of every call keeps the accounts. -/
lemma keeps_of_moves {cfg : Settings} {op : Op}
    (hmoves : Moves cfg op input reg after) : Keeps op input reg after := by
  cases hmoves with
  | pass _ hstate => exact keeps_of_unchanged hstate fun _ _ hdebt => Or.inl hdebt
  | settle hholder =>
    apply keeps_of_unchanged rfl
    intro other carried hdebt
    obtain ⟨rfl, rfl⟩ := Debt.name.inj hdebt
    exact Or.inr hholder
  | take _ | draw _ => exact keeps_of_unchanged rfl fun _ _ => Debt.noConfusion
  | forget hpending hstate =>
    apply keeps_of_unchanged hstate
    intro other carried hdebt
    rw [hdebt] at hpending
    exact hpending.elim
  | createFresh habsent _ hafter =>
    exact keeps_create_record (fun _ _ => Debt.noConfusion) habsent (hafter.imp_left And.left)
  | createCopy habsent _ =>
    exact keeps_create_record (fun _ _ => Debt.noConfusion) habsent (Or.inr rfl)
  | createName hsite habsent => exact keeps_create_name hsite habsent
  | repoint hat => exact keeps_repoint hat
  | moveKey hheld => exact keeps_move hheld
  | rewrite hread _ hafter => exact keeps_rewrite hread (hafter.imp_left And.left)
  | release hrev => exact keeps_release hrev
  | remove hat => exact keeps_remove hat
  | takeBack hrev | dropOld hrev =>
    exact keeps_takeBack hrev rfl fun _ hmoved hstranded => ⟨hmoved, hstranded⟩
  | restore => exact keeps_restore

end Fluxrig.Registry
