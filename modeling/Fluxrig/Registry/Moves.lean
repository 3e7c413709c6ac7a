import Fluxrig.Core.Protocol
import Fluxrig.Registry.View

/-!
# What one operation of a call in progress can do

Other calls may change the bucket between any two operations of a call.  What a
call still knows when it performs an operation is little: a revision it read
before is either gone or still has the value it read.  `Moves` says, for each
operation of each call, what that leaves: which key it writes, what the written
value has in common with the value it replaces, and what the call owes
afterwards.  Every statement about interleavings of registry calls is derived
from it.
-/

namespace Fluxrig.Registry

open Fluxrig.Core

/-- What a call in progress still owes: a name that has to be settled for a
record, or a record that it is about to write, with a secret it was issued or as
a copy of another. -/
inductive Debt where
  | clear
  | name (ref : NameRef) (name : String)
  | issue (secret : String)
  | copy (holder : Record)
  deriving DecidableEq

def Site.debt : Site → Debt
  | .claim ref name => .name ref name
  | .move ref name => .name ref name
  | .undo ref name => .name ref name
  | .dropOld holder => .name holder.ref holder.name
  | .issue secret => .issue secret
  | .adopt holder => .copy holder
  | .plain | .release _ _ => .clear

def Op.site : Op → Site
  | .get site _ => site
  | .create site _ _ => site
  | .update site _ _ _ => site
  | .delete site _ _ => site
  | .newUUID site => site
  | _ => .plain

def Op.debt (op : Op) : Debt := op.site.debt

/-- The call is about to write a record. -/
def Debt.Pending : Debt → Prop
  | .issue _ | .copy _ => True
  | .clear | .name _ _ => False

/-- Every delete of the store is conditional on a revision. -/
def Op.Conditional : Op → Prop
  | .delete _ _ rev => rev ≠ 0
  | _ => True

/-- One operation of a call, in the bucket in which it is performed, with what
the call owes afterwards. -/
inductive Moves (cfg : Settings) : Op → Input → RegBucket → Debt → Prop where
  /-- A read, or a write that meets a moved revision. -/
  | pass {op : Op} {input : Input} {reg : RegBucket}
      (hconditional : op.Conditional) (hstate : (exec op input reg).2 = reg) :
      Moves cfg op input reg op.debt
  /-- `claimName` finds the key already right. -/
  | settle {ref : NameRef} {name : String} {input : Input} {reg : RegBucket}
      (hholder : holderOf reg name = some ref) :
      Moves cfg (.get (.claim ref name) (.name name)) input reg .clear
  /-- `resolveName` reads the record that an adoption will copy. -/
  | take {input : Input} {reg : RegBucket} {ref : NameRef} {holder : Record}
      (hstored : recordOf reg ref = some holder) :
      Moves cfg (.get .plain (.entity ref)) input reg (.copy holder)
  | draw {secret : String} {input : Input} {reg : RegBucket}
      (hsecret : input.secret = some secret) :
      Moves cfg .generateSecret input reg (.issue secret)
  /-- A registration or an adoption gives up before it has written its record. -/
  | forget {op : Op} {input : Input} {reg : RegBucket}
      (hpending : op.debt.Pending) (hstate : (exec op input reg).2 = reg) :
      Moves cfg op input reg .clear
  | createFresh {ref : NameRef} {rec : Record} {issued : String}
      {input : Input} {reg : RegBucket} {after : Debt}
      (habsent : reg.get (.entity ref) = none)
      (hhash : rec.secretHash = cfg.hashSecret issued)
      (hafter : (rec.name = "" ∧ after = .clear) ∨ after = .name ref rec.name) :
      Moves cfg (.create (.issue issued) (.entity ref) rec) input reg after
  | createCopy {holder rec : Record} {ref : NameRef} {input : Input}
      {reg : RegBucket} (habsent : reg.get (.entity ref) = none)
      (hhash : rec.secretHash = holder.secretHash) :
      Moves cfg (.create (.adopt holder) (.entity ref) rec) input reg (.name ref rec.name)
  | createName {site : Site} {ref : NameRef} {name : String} {input : Input}
      {reg : RegBucket} {after : Debt} (hsite : site.debt = .name ref name)
      (habsent : reg.get (.name name) = none)
      (hafter : after = .clear ∨ ∃ ref, after = .name ref name) :
      Moves cfg (.create site (.name name) ref) input reg after
  | repoint {ref : NameRef} {name : String} {rev : ℕ} {input : Input}
      {reg : RegBucket} (hat : reg.At (.name name) rev) :
      Moves cfg (.update (.claim ref name) (.name name) ref rev) input reg .clear
  | moveKey {source target : NameRef} {name : String} {rev : ℕ} {input : Input}
      {reg : RegBucket}
      (hheld : reg.get (.name name) = some ⟨source, rev⟩) :
      Moves cfg (.update (.move target name) (.name name) target rev)
        input reg (.name source name)
  /-- A record is rewritten that is still the one read. -/
  | rewrite {ref : NameRef} {old rec : Record} {rev : ℕ} {input : Input}
      {reg : RegBucket} {after : Debt}
      (hread : reg.get (.entity ref) = some ⟨old, rev⟩)
      (hhash : rec.secretHash = old.secretHash)
      (hafter : (rec.name = old.name ∧ after = .clear) ∨ after = .name ref rec.name) :
      Moves cfg (.update .plain (.entity ref) rec rev) input reg after
  | release {ref : NameRef} {name : String} {rev : ℕ} {input : Input}
      {reg : RegBucket} (hrev : rev ≠ 0) :
      Moves cfg (.delete (.release ref name) (.name name) rev) input reg .clear
  | remove {ref : NameRef} {rev : ℕ} {input : Input} {reg : RegBucket}
      (hat : reg.At (.entity ref) rev) :
      Moves cfg (.delete .plain (.entity ref) rev) input reg .clear
  /-- A failed registration or adoption takes its record back. -/
  | takeBack {ref : NameRef} {name : String} {rev : ℕ} {input : Input}
      {reg : RegBucket} (hrev : rev ≠ 0) :
      Moves cfg (.delete (.undo ref name) (.entity ref) rev) input reg .clear
  | dropOld {holder : Record} {rev : ℕ} {input : Input} {reg : RegBucket}
      (hrev : rev ≠ 0) :
      Moves cfg (.delete (.dropOld holder) (.entity holder.ref) rev) input reg .clear
  /-- A failed rename writes the original record back. -/
  | restore {ref : NameRef} {name : String} {orig : Record} {rev : ℕ}
      {input : Input} {reg : RegBucket}
      (hhash : ∀ rec, reg.get (.entity ref) = some ⟨rec, rev⟩ →
        rec.secretHash = orig.secretHash) :
      Moves cfg (.update (.undo ref name) (.entity ref) orig rev) input reg .clear

/-- The protocol of registry calls: others may do anything but rewrite history,
and every operation is one of `Moves`. -/
def moving (cfg : Settings) : Protocol exec Debt where
  label := Op.debt
  idle := .clear
  assume _ _ _ := True
  rely := Bucket.Extends
  guarantee := Moves cfg
  rely_refl := Bucket.Extends.refl
  rely_trans := Bucket.Extends.trans

lemma moving_compatible (cfg : Settings) : Protocol.Compatible fun _ => moving cfg :=
  fun _ _ _ op input state _ _ => extends_exec op input state

end Fluxrig.Registry
