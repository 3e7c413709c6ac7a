import Fluxrig.Registry.Store

/-!
# What the registry keys say

Every statement about the registry is about two partial maps: which record is
stored under an entity, and which entity a name key points at.  This file gives
both with their frame lemmas, and what a name resolves to in their terms.
-/

namespace Fluxrig.Registry

open Fluxrig.Core

/-- The record stored under an entity key. -/
def recordOf (reg : RegBucket) (ref : NameRef) : Option Record :=
  (reg.get (.entity ref)).map Item.value

/-- The entity a name key points at. -/
def holderOf (reg : RegBucket) (name : String) : Option NameRef :=
  (reg.get (.name name)).map Item.value

/-- The name a stored record carries. -/
def nameOf (reg : RegBucket) (ref : NameRef) : Option String :=
  (recordOf reg ref).map Record.name

variable {reg : RegBucket} {ref : NameRef} {name : String} {rec : Record}

lemma recordOf_of_get {item : Item Record} (hitem : reg.get (.entity ref) = some item) :
    recordOf reg ref = some item.value := by
  simp [recordOf, hitem]

lemma holderOf_of_get {item : Item NameRef} (hitem : reg.get (.name name) = some item) :
    holderOf reg name = some item.value := by
  simp [holderOf, hitem]

lemma nameOf_of_recordOf (hrecord : recordOf reg ref = some rec) :
    nameOf reg ref = some rec.name := by
  rw [nameOf, hrecord, Option.map_some]

lemma recordOf_eq_none_iff : recordOf reg ref = none ↔ reg.get (.entity ref) = none := by
  simp [recordOf]

lemma holderOf_eq_none_iff : holderOf reg name = none ↔ reg.get (.name name) = none := by
  simp [holderOf]

lemma exists_get_of_recordOf (hrecord : recordOf reg ref = some rec) :
    ∃ rev, reg.get (.entity ref) = some ⟨rec, rev⟩ := by
  obtain ⟨item, hitem, rfl⟩ := Option.map_eq_some_iff.mp hrecord
  exact ⟨item.rev, hitem⟩

lemma exists_get_of_holderOf (hholder : holderOf reg name = some ref) :
    ∃ rev, reg.get (.name name) = some ⟨ref, rev⟩ := by
  obtain ⟨item, hitem, rfl⟩ := Option.map_eq_some_iff.mp hholder
  exact ⟨item.rev, hitem⟩

@[simp]
lemma recordOf_empty (ref : NameRef) : recordOf Bucket.empty ref = none := rfl

@[simp]
lemma holderOf_empty (name : String) : holderOf Bucket.empty name = none := rfl

variable (reg : RegBucket)

@[simp, grind =]
lemma recordOf_write_entity (ref other : NameRef) (rec : Record) :
    recordOf (reg.write (.entity ref) rec) other =
      if other = ref then some rec else recordOf reg other := by
  by_cases href : other = ref
  · subst other
    simp [recordOf]
  · have hkey : Key.entity other ≠ Key.entity ref := by simpa using href
    rw [if_neg href, recordOf, recordOf, Bucket.get_write_of_ne _ _ hkey]

@[simp, grind =]
lemma recordOf_write_name (name : String) (ref other : NameRef) :
    recordOf (reg.write (.name name) ref) other = recordOf reg other := by
  rw [recordOf, recordOf, Bucket.get_write_of_ne _ _ (by simp)]

@[simp, grind =]
lemma recordOf_remove_entity (ref other : NameRef) : recordOf (reg.remove (.entity ref)) other =
      if other = ref then none else recordOf reg other := by
  by_cases href : other = ref
  · subst other
    simp [recordOf]
  · have hkey : Key.entity other ≠ Key.entity ref := by simpa using href
    rw [if_neg href, recordOf, recordOf, Bucket.get_remove_of_ne _ hkey]

@[simp, grind =]
lemma recordOf_remove_name (name : String) (other : NameRef) :
    recordOf (reg.remove (.name name)) other = recordOf reg other := by
  rw [recordOf, recordOf, Bucket.get_remove_of_ne _ (by simp)]

@[simp, grind =]
lemma holderOf_write_name (name other : String) (ref : NameRef) :
    holderOf (reg.write (.name name) ref) other =
      if other = name then some ref else holderOf reg other := by
  by_cases hname : other = name
  · subst other
    simp [holderOf]
  · have hkey : Key.name other ≠ Key.name name := by simpa using hname
    rw [if_neg hname, holderOf, holderOf, Bucket.get_write_of_ne _ _ hkey]

@[simp, grind =]
lemma holderOf_write_entity (ref : NameRef) (rec : Record) (other : String) :
    holderOf (reg.write (.entity ref) rec) other = holderOf reg other := by
  rw [holderOf, holderOf, Bucket.get_write_of_ne _ _ (by simp)]

@[simp, grind =]
lemma holderOf_remove_name (name other : String) : holderOf (reg.remove (.name name)) other =
      if other = name then none else holderOf reg other := by
  by_cases hname : other = name
  · subst other
    simp [holderOf]
  · have hkey : Key.name other ≠ Key.name name := by simpa using hname
    rw [if_neg hname, holderOf, holderOf, Bucket.get_remove_of_ne _ hkey]

@[simp, grind =]
lemma holderOf_remove_entity (ref : NameRef) (other : String) :
    holderOf (reg.remove (.entity ref)) other = holderOf reg other := by
  rw [holderOf, holderOf, Bucket.get_remove_of_ne _ (by simp)]

/-- What `resolveName` finds, read off the keys. -/
def resolved (name : String) : Option Record :=
  (holderOf reg name).bind fun ref =>
    (recordOf reg ref).filter fun rec => rec.name = name

variable {reg}

lemma resolved_eq_some_iff : resolved reg name = some rec ↔ ∃ ref, holderOf reg name = some ref ∧
        recordOf reg ref = some rec ∧ rec.name = name := by
  simp [resolved, Option.bind_eq_some_iff, Option.filter_eq_some_iff]

@[grind =]
lemma resolved_eq (reg : RegBucket) (name : String) : resolved reg name =
    match holderOf reg name with
    | none => none
    | some ref =>
      match recordOf reg ref with
      | none => none
      | some rec => if rec.name = name then some rec else none := by
  rw [resolved]
  cases holderOf reg name with
  | none => rfl
  | some ref => cases hrecord : recordOf reg ref <;> simp [hrecord, Option.filter]

/-- Only the names that point at a record notice a write to it. -/
lemma resolved_write_entity_of_ne (hother : holderOf reg name ≠ some ref) :
    resolved (reg.write (.entity ref) rec) name = resolved reg name := by
  grind

/-- The reply `resolveName` draws from the keys. -/
def resolution (reg : RegBucket) (name : String) : Except Err Record :=
  match resolved reg name with
  | some rec => .ok rec
  | none => .error .notFound

/-! ## A sample deployment

Concrete values for the runs that witness the theorems: two issued secrets with
their SHA-256, one Mixer, and the Hello of a Rack. -/

def secretA : String :=
  "000102030405060708090a0b0c0d0e0f101112131415161718191a1b1c1d1e1f"

def secretB : String :=
  "202122232425262728292a2b2c2d2e2f303132333435363738393a3b3c3d3e3f"

/-- The hex SHA-256 of the sample secrets. -/
def sampleHash (secret : String) : String :=
  if secret = secretA then
    "6c86c6aac5fb24bcf5d9939cb7d7d5645ce39418f449e03b262dd4fa14b4b92b"
  else if secret = secretB then
    "31c0e4a8de3d32a8964f4dd6c3faae248a3994f3c4e226fdd8ee56904c96c6f7"
  else ""

def sampleSettings : Settings where
  writeRetries := 3
  mixerID := 0xa0
  autoAdopt := true
  bootstrapSecret := "bootstrap"
  hashSecret := sampleHash

def sampleHello (machineID : UUID) (name secret : String) : Hello where
  typeID := typeRack
  machineID := machineID
  name := name
  secret := secret
  ip := "10.0.0.1"
  port := 4222
  version := "v1"
  config := none
  attrs := none
  mixerID := 0xa0

/-- The record of Rack 1, registered as "rack-a". -/
def sampleRecord : Record :=
  (sampleHello 1 "rack-a" "bootstrap").newRecord sampleSettings 1 secretA 7

/-- A registry with that Rack and its name. -/
def namedBucket : RegBucket :=
  (Bucket.empty.write (.entity ⟨typeRack, 1⟩) sampleRecord).write (.name "rack-a") ⟨typeRack, 1⟩

lemma eq_of_recordOf_namedBucket (hrecord : recordOf namedBucket ref = some rec) :
    ref = ⟨typeRack, 1⟩ ∧ rec = sampleRecord := by
  grind [namedBucket, recordOf_empty]

lemma eq_of_holderOf_namedBucket (hholder : holderOf namedBucket name = some ref) :
    name = "rack-a" ∧ ref = ⟨typeRack, 1⟩ := by
  grind [namedBucket, holderOf_empty]

/-- What a step draws at time `now`, with `secret` as the next one issued. -/
def sampleInput (now : Time) (secret : String) : Input where
  now := now
  uuid := some 7
  secret := some secret
  presence := none
  heartbeat := none

/-- `count` operations of one thread, one after the other. -/
def sampleSteps (thread count : ℕ) (secret : String) : List (Event Call Input) :=
  List.replicate count (.step thread (sampleInput 1 secret))

end Fluxrig.Registry
