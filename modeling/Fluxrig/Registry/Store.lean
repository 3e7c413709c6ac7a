import Fluxrig.Core.Bucket
import Fluxrig.Core.Program

/-!
# The key-value registry

The Mixer keeps one record for each Rack, Mixer and Snake and one name key for
each claimed name, both in one revisioned bucket.  Every registry call below is
a program over single bucket operations, in the order in which the Go code
performs them, so the same definition is run alone, cut off by a crash, or
interleaved with other calls.

Three kinds of reply come from outside the bucket and are therefore the input
of their step: the clock, minted identifiers and secrets, and the overlay of
the liveness bucket and of the Mixer's own heartbeat table.
-/

namespace Fluxrig.Registry

open Fluxrig.Core

abbrev UUID := BitVec 128

/-- Nanoseconds since the epoch. -/
abbrev Time := ℤ

/-- `uuid.Nil`. -/
def nilID : UUID := 0

/-! Entity types kept in the registry bucket. -/

def typeMixer : UInt8 := 2
def typeRack : UInt8 := 4

/-- The value of a name key: which entity holds the name. -/
structure NameRef where
  typeID : UInt8
  machineID : UUID
  deriving DecidableEq

/-- One entity in the registry bucket.  The two JSON maps are kept as their
encoded text, `none` being the nil map. -/
structure Record where
  entityID : UUID
  typeID : UInt8
  machineID : UUID
  mixerID : UUID
  name : String
  status : String
  secretHash : String
  version : String
  ip : String
  port : ℤ
  firstSeen : Time
  updatedAt : Time
  updateCount : ℤ
  config : Option String
  attributes : Option String
  deriving DecidableEq

/-- The reference under which a record says it is stored. -/
def Record.ref (record : Record) : NameRef :=
  ⟨record.typeID, record.machineID⟩

/-- The value of a liveness key. -/
structure Presence where
  lastSeen : Time
  mixerID : UUID
  deriving DecidableEq, Inhabited

/-- The last heartbeat this Mixer keeps in memory. -/
structure HeartbeatState where
  stats : Option String
  config : Option String
  deriving DecidableEq, Inhabited

/-- The API view of a record. -/
structure Rack where
  machineID : UUID
  name : String
  status : String
  version : String
  ip : String
  port : ℤ
  secret : String
  secretHash : String
  online : Bool
  firstSeen : Time
  lastSeen : Time
  updateCount : ℤ
  stats : Option String
  config : Option String
  deriving DecidableEq

/-- The errors of registry calls.  `conflict` is the bucket's revision
conflict, which the calls retry. -/
inductive Err where
  | notFound
  | nameConflict
  | bootstrapSecretMismatch
  | identityMismatch
  | conflict
  | stillConflicting (op : String) (retries : ℕ)
  | mintMachineID
  | mintEntityID
  | issueSecret
  deriving DecidableEq

/-- `hashSecret` is the hex SHA-256 the registry stores in place of a
secret. -/
structure Settings where
  writeRetries : ℕ
  mixerID : UUID
  autoAdopt : Bool
  bootstrapSecret : String
  hashSecret : String → String

/-- `entityKey` and `nameKey`: both encodings are injective, so a key is what
it encodes. -/
inductive Key where
  | entity (ref : NameRef)
  | name (name : String)
  deriving DecidableEq

@[reducible]
def Key.Value : Key → Type
  | .entity _ => Record
  | .name _ => NameRef

abbrev RegBucket := Bucket Key Key.Value

def Key.name? : Key → Option String
  | .name text => some text
  | .entity _ => none

def Key.entityOf? (typeID : UInt8) : Key → Option UUID
  | .entity ref => if ref.typeID = typeID then some ref.machineID else none
  | .name _ => none

/-- Where in the source an operation stands.  Its outcome does not depend on
it. -/
inductive Site where
  /-- An operation that leaves nothing to be settled. -/
  | plain
  /-- A registration, from the secret it was issued to the new record. -/
  | issue (secret : String)
  /-- `adopt`, from the read of the old revision to the new record. -/
  | adopt (holder : Record)
  /-- `claimName` for a record that already carries the name. -/
  | claim (ref : NameRef) (name : String)
  /-- `moveName` towards a record that already carries the name. -/
  | move (ref : NameRef) (name : String)
  /-- Taking back a record whose name could not be claimed or moved. -/
  | undo (ref : NameRef) (name : String)
  /-- The last step of `adopt`: dropping the old identity. -/
  | dropOld (holder : Record)
  /-- `releaseName`. -/
  | release (ref : NameRef) (name : String)
  deriving DecidableEq

inductive Op where
  | get (site : Site) (key : Key)
  | create (site : Site) (key : Key) (value : key.Value)
  | update (site : Site) (key : Key) (value : key.Value) (rev : ℕ)
  | delete (site : Site) (key : Key) (rev : ℕ)
  | nameKeys
  | entityKeys (typeID : UInt8)
  | now
  | newUUID (site : Site)
  | generateSecret
  | liveGet (ref : NameRef)
  | liveDelete (ref : NameRef)
  | statsGet (ref : NameRef)
  | statsDelete (ref : NameRef)

@[reducible]
def Op.Reply : Op → Type
  | .get _ key => Option (Item key.Value)
  | .create _ _ _ => Option ℕ
  | .update _ _ _ _ => Option ℕ
  | .delete _ _ _ => Bool
  | .nameKeys => List String
  | .entityKeys _ => List UUID
  | .now => Time
  | .newUUID _ => Option UUID
  | .generateSecret => Option String
  | .liveGet _ => Option Presence
  | .liveDelete _ => Unit
  | .statsGet _ => Option HeartbeatState
  | .statsDelete _ => Unit

/-- What one step draws from outside the registry bucket. -/
structure Input where
  now : Time
  uuid : Option UUID
  secret : Option String
  presence : Option Presence
  heartbeat : Option HeartbeatState
  deriving Inhabited

def exec : (op : Op) → Input → RegBucket → op.Reply × RegBucket
  | .get _ key, _, registry => (registry.get key, registry)
  | .create _ key value, _, registry => registry.create key value
  | .update _ key value rev, _, registry => registry.update key value rev
  | .delete _ key rev, _, registry => registry.delete key rev
  | .nameKeys, _, registry => (registry.keys Key.name?, registry)
  | .entityKeys typeID, _, registry =>
      (registry.keys (Key.entityOf? typeID), registry)
  | .now, input, registry => (input.now, registry)
  | .newUUID _, input, registry => (input.uuid, registry)
  | .generateSecret, input, registry => (input.secret, registry)
  | .liveGet _, input, registry => (input.presence, registry)
  | .liveDelete _, _, registry => ((), registry)
  | .statsGet _, input, registry => (input.heartbeat, registry)
  | .statsDelete _, _, registry => ((), registry)

/-- No operation rewrites history: a revision keeps its value for ever. -/
lemma extends_exec (op : Op) (input : Input) (reg : RegBucket) :
    reg.Extends (exec op input reg).2 := by
  cases op with
  | create _ key value => exact Bucket.extends_create reg key value
  | update _ key value rev => exact Bucket.extends_update reg key value rev
  | delete _ key rev => exact Bucket.extends_delete reg key rev
  | _ => exact Bucket.Extends.refl reg

abbrev Prog := Program Op Op.Reply

variable (site : Site) (key : Key)

def get : Prog (Option (Item key.Value)) :=
  Program.request (Op.get site key)

def create (value : key.Value) : Prog (Option ℕ) :=
  Program.request (Op.create site key value)

def update (value : key.Value) (rev : ℕ) : Prog (Option ℕ) :=
  Program.request (Op.update site key value rev)

def delete (rev : ℕ) : Prog Bool :=
  Program.request (Op.delete site key rev)

def now : Prog Time := Program.request Op.now

def newUUID (site : Site) : Prog (Option UUID) :=
  Program.request (Op.newUUID site)

def generateSecret : Prog (Option String) := Program.request Op.generateSecret

def liveGet (ref : NameRef) : Prog (Option Presence) :=
  Program.request (Op.liveGet ref)

def liveDelete (ref : NameRef) : Prog Unit := Program.request (Op.liveDelete ref)

def statsGet (ref : NameRef) : Prog (Option HeartbeatState) :=
  Program.request (Op.statsGet ref)

def statsDelete (ref : NameRef) : Prog Unit := Program.request (Op.statsDelete ref)

/-- `security.SecretsEqual`: an empty side never matches. -/
def secretsEqual (left right : String) : Bool :=
  left ≠ "" && right ≠ "" && left = right

/-- `registry.SecretMatches`. -/
def secretMatches (cfg : Settings) (storedHash presented : String) : Bool :=
  storedHash ≠ "" && presented ≠ "" && secretsEqual storedHash (cfg.hashSecret presented)

/-- Run `fn` until it returns anything but a revision conflict, `attempts`
times at most. -/
def retryLoop {A : Type} (attempts : ℕ) (giveUp : Err)
    (fn : Prog (Except Err A)) : Prog (Except Err A) :=
  match attempts with
  | 0 => pure (.error giveUp)
  | attempts + 1 => do
      match ← fn with
      | .error .conflict => retryLoop attempts giveUp fn
      | outcome => pure outcome

def retry {A : Type} (cfg : Settings) (op : String)
    (fn : Prog (Except Err A)) : Prog (Except Err A) :=
  retryLoop (cfg.writeRetries + 1) (.stillConflicting op cfg.writeRetries) fn

def getRecord (site : Site) (typeID : UInt8) (id : UUID) : Prog (Except Err (Record × ℕ)) := do
  match ← get site (.entity ⟨typeID, id⟩) with
  | none => pure (.error .notFound)
  | some item => pure (.ok (item.value, item.rev))

variable (name : String)

/-- The last write of `claimName`: point an orphan key at the claimant, if it
is still at the revision at which it was found to be one. -/
def repoint (ref : NameRef) (rev : ℕ) : Prog (Except Err Unit) := do
  match ← update (.claim ref name) (.name name) ref rev with
  | none => pure (.error .conflict)
  | some _ => pure (.ok ())

/-- Point `name` at `ref`.  It succeeds when the name is free, already `ref`'s,
or held by an orphan key, whose entity is gone or carries another name. -/
def claimName (ref : NameRef) : Prog (Except Err Unit) :=
  if name = "" then pure (.ok ())
  else do
    match ← create (.claim ref name) (.name name) ref with
    | some _ => pure (.ok ())
    | none =>
        match ← get (.claim ref name) (.name name) with
        | none => pure (.error .conflict)
        | some held =>
            if held.value = ref then pure (.ok ())
            else
              match ← getRecord (.claim ref name) held.value.typeID held.value.machineID with
              | .ok (holder, _) =>
                  if holder.name = name then pure (.error .nameConflict)
                  else repoint name ref held.rev
              | .error .notFound => repoint name ref held.rev
              | .error err => pure (.error err)

/-- Repoint `name` from one entity to another.  A missing key is created; a key
that points elsewhere is a conflict. -/
def moveName (source target : NameRef) : Prog (Except Err Unit) := do
  match ← get (.move target name) (.name name) with
  | none =>
      match ← create (.move target name) (.name name) target with
      | none => pure (.error .conflict)
      | some _ => pure (.ok ())
  | some held =>
      if held.value ≠ source then pure (.error .conflict)
      else
        match ← update (.move target name) (.name name) target held.rev with
        | none => pure (.error .conflict)
        | some _ => pure (.ok ())

/-- Delete `name`'s key if it still points at `ref`. -/
def releaseName (ref : NameRef) : Prog Unit :=
  if name = "" then pure ()
  else do
    match ← get (.release ref name) (.name name) with
    | none => pure ()
    | some held =>
        if held.value = ref then do
          let _ ← delete (.release ref name) (.name name) held.rev
          pure ()
        else pure ()

/-- The entity that holds `name`. -/
def resolveName : Prog (Except Err Record) := do
  match ← get .plain (.name name) with
  | none => pure (.error .notFound)
  | some held =>
      match ← getRecord .plain held.value.typeID held.value.machineID with
      | .error err => pure (.error err)
      | .ok (record, _) =>
          if record.name ≠ name then pure (.error .notFound)
          else pure (.ok record)

/-- The record, overlaid with presence and the last heartbeat. -/
def toRack (record : Record) : Prog Rack := do
  let presence ← liveGet record.ref
  let heartbeat ← statsGet record.ref
  pure {
    machineID := record.machineID, name := record.name, status := record.status,
    version := record.version, ip := record.ip, port := record.port,
    secret := "", secretHash := record.secretHash,
    online := presence.isSome, firstSeen := record.firstSeen,
    lastSeen := match presence with
      | some seen =>
          if record.updatedAt < seen.lastSeen then seen.lastSeen
          else record.updatedAt
      | none => record.updatedAt
    updateCount := record.updateCount,
    stats := heartbeat.bind HeartbeatState.stats,
    config := match heartbeat.bind HeartbeatState.config with
      | some config => some config
      | none => record.config }

/-- The arguments of `RegisterEntity`, its two maps already passed through
`jsonSafeMap`. -/
structure Hello where
  typeID : UInt8
  machineID : UUID
  name : String
  secret : String
  ip : String
  port : ℤ
  version : String
  config : Option String
  attrs : Option String
  mixerID : UUID

def Hello.ref (hello : Hello) : NameRef := ⟨hello.typeID, hello.machineID⟩

/-- What a Hello writes over the record of an entity that is already known. -/
def Record.renew (record : Record) (hello : Hello) (now : Time) : Record :=
  { record with
    ip := hello.ip, port := hello.port, version := hello.version,
    config := hello.config, attributes := hello.attrs, updatedAt := now,
    updateCount := record.updateCount + 1 }

/-- An entity ID: bytes 9 to 12 are the last four bytes of the machine ID and
byte 13 is the entity type, the rest is a fresh UUID. -/
def stampEntityID (fresh : UUID) (typeID : UInt8) (machineID : UUID) : UUID :=
  fresh.extractLsb' 56 72 ++ machineID.extractLsb' 0 32 ++
    typeID.toBitVec ++ fresh.extractLsb' 0 16

def entityID (site : Site) (typeID : UInt8) (machineID : UUID) : Prog (Except Err UUID) := do
  match ← newUUID site with
  | none => pure (.error .mintEntityID)
  | some fresh => pure (.ok (stampEntityID fresh typeID machineID))

/-- Move `holder`'s record to a new machine ID. -/
def adopt (holder : Record) (hello : Hello) (now : Time) : Prog (Except Err Rack) :=
  if hello.machineID = nilID ∨ hello.machineID = holder.machineID then
    pure (.error .identityMismatch)
  else do
    match ← getRecord (.adopt holder) holder.typeID holder.machineID with
    | .error err => pure (.error err)
    | .ok (_, oldRev) =>
        let moved : Record :=
          { holder.renew hello now with machineID := hello.machineID }
        let newRef : NameRef := ⟨holder.typeID, hello.machineID⟩
        match ← create (.adopt holder) (.entity newRef) moved with
        | none => pure (.error .conflict)
        | some newRev =>
            match ← moveName holder.name holder.ref newRef with
            | .error err =>
                let _ ← delete (.undo newRef holder.name) (.entity newRef) newRev
                pure (.error err)
            | .ok () =>
                let _ ← delete (.dropOld holder) (.entity holder.ref) oldRev
                let rack ← toRack moved
                pure (.ok rack)

/-- The record of an entity that registers for the first time. -/
def Hello.newRecord (hello : Hello) (cfg : Settings) (now : Time)
    (issued : String) (eid : UUID) : Record where
  entityID := eid
  typeID := hello.typeID
  machineID := hello.machineID
  mixerID := hello.mixerID
  name := hello.name
  status := if cfg.autoAdopt then "active" else "pending"
  secretHash := cfg.hashSecret issued
  version := hello.version
  ip := hello.ip
  port := hello.port
  firstSeen := now
  updatedAt := now
  updateCount := 0
  config := hello.config
  attributes := hello.attrs

variable (cfg : Settings) (hello : Hello)

section

variable (now : Time)

/-- Write a new record and claim its name, handing the issued secret out. -/
def createFresh (issued : String) (eid : UUID) : Prog (Except Err Rack) := do
  let record := hello.newRecord cfg now issued eid
  match ← create (.issue issued) (.entity hello.ref) record with
  | none => pure (.error .conflict)
  | some rev =>
      match ← claimName hello.name hello.ref with
      | .error err =>
          let _ ← delete (.undo hello.ref hello.name) (.entity hello.ref) rev
          pure (.error err)
      | .ok () =>
          let rack ← toRack record
          pure (.ok { rack with secret := issued })

/-- Issue a secret and an entity ID for a machine ID that is settled. -/
def issueFresh : Prog (Except Err Rack) := do
  match ← generateSecret with
  | none => pure (.error .issueSecret)
  | some issued =>
      match ← entityID (.issue issued) hello.typeID hello.machineID with
      | .error err => pure (.error err)
      | .ok eid => createFresh cfg hello now issued eid

/-- Part 3 of `registerOnce`: the bootstrap secret gates entry. -/
def registerFresh : Prog (Except Err Rack) :=
  if ¬ secretsEqual cfg.bootstrapSecret hello.secret then
    pure (.error .bootstrapSecretMismatch)
  else if hello.machineID = nilID then do
    match ← newUUID .plain with
    | none => pure (.error .mintMachineID)
    | some machineID =>
        issueFresh cfg { hello with machineID := machineID } now
  else issueFresh cfg hello now

/-- Part 2 of `registerOnce`: a taken name is adopted by its holder's secret,
otherwise it is a conflict. -/
def registerNamed : Prog (Except Err Rack) :=
  if hello.name = "" then registerFresh cfg hello now
  else do
    match ← resolveName hello.name with
    | .ok holder =>
        if holder.typeID ≠ hello.typeID ∨
            ¬ secretMatches cfg holder.secretHash hello.secret then
          pure (.error .nameConflict)
        else adopt holder hello now
    | .error .notFound => registerFresh cfg hello now
    | .error err => pure (.error err)

/-- Part 1 of `registerOnce` once the record is found: the secret must match,
and the approved name is kept over the Hello's. -/
def registerKnown (record : Record) (rev : ℕ) : Prog (Except Err Rack) :=
  if ¬ secretMatches cfg record.secretHash hello.secret then
    pure (.error .identityMismatch)
  else do
    let renewed := record.renew hello now
    match ← update .plain (.entity hello.ref) renewed rev with
    | none => pure (.error .conflict)
    | some _ =>
        let rack ← toRack renewed
        pure (.ok rack)

end

def registerOnce : Prog (Except Err Rack) := do
  let now ← now
  if hello.machineID = nilID then registerNamed cfg hello now
  else
    match ← getRecord .plain hello.typeID hello.machineID with
    | .ok (record, rev) => registerKnown cfg hello now record rev
    | .error .notFound => registerNamed cfg hello now
    | .error err => pure (.error err)

def registerEntity : Prog (Except Err Rack) :=
  retry cfg "register" (registerOnce cfg hello)

/-- The write of `Approve` and the move of the name that goes with it. -/
def approveAs (orig : Record) (rev : ℕ) (id : UUID) (name : String) : Prog (Except Err Rack) := do
  let now ← now
  let ref : NameRef := ⟨typeRack, id⟩
  let record : Record :=
    { orig with name := name, status := "active", updatedAt := now }
  match ← update .plain (.entity ref) record rev with
  | none => pure (.error .conflict)
  | some newRev =>
      if name = orig.name then do
        let rack ← toRack record
        pure (.ok rack)
      else
        match ← claimName name ref with
        | .error err =>
            let _ ← update (.undo ref name) (.entity ref) orig newRev
            pure (.error err)
        | .ok () =>
            releaseName orig.name ref
            let rack ← toRack record
            pure (.ok rack)

def approveOnce (id : UUID) (newName : String) : Prog (Except Err Rack) := do
  match ← getRecord .plain typeRack id with
  | .error err => pure (.error err)
  | .ok (record, rev) =>
      if newName = "" ∨ newName = record.name then
        approveAs record rev id record.name
      else
        match ← resolveName newName with
        | .ok holder =>
            if holder.machineID ≠ id then pure (.error .nameConflict)
            else approveAs record rev id newName
        | .error _ => approveAs record rev id newName

def approve (cfg : Settings) (id : UUID) (newName : String) : Prog (Except Err Rack) :=
  retry cfg "approve" (approveOnce id newName)

def removeOnce (typeID : UInt8) (id : UUID) : Prog (Except Err Unit) := do
  match ← getRecord .plain typeID id with
  | .error err => pure (.error err)
  | .ok (record, rev) =>
      if ← delete .plain (.entity ⟨typeID, id⟩) rev then do
        releaseName record.name ⟨typeID, id⟩
        liveDelete ⟨typeID, id⟩
        statsDelete ⟨typeID, id⟩
        pure (.ok ())
      else pure (.error .conflict)

def removeEntity (cfg : Settings) (typeID : UInt8) (id : UUID) : Prog (Except Err Unit) :=
  retry cfg "remove" (removeOnce typeID id)

def updateStatusOnce (typeID : UInt8) (id : UUID) (status : String) : Prog (Except Err Unit) := do
  match ← getRecord .plain typeID id with
  | .error err => pure (.error err)
  | .ok (record, rev) =>
      let now ← now
      let changed : Record := { record with status := status, updatedAt := now }
      match ← update .plain (.entity ⟨typeID, id⟩) changed rev with
      | none => pure (.error .conflict)
      | some _ => pure (.ok ())

def updateStatusEntity (cfg : Settings) (typeID : UInt8) (id : UUID)
    (status : String) : Prog (Except Err Unit) :=
  retry cfg "update status" (updateStatusOnce typeID id status)

/-- The arguments of `UpsertSelf`, its map already passed through
`jsonSafeMap`. -/
structure Self where
  typeID : UInt8
  machineID : UUID
  name : String
  ip : String
  port : ℤ
  version : String
  attrs : Option String

def Self.ref (self : Self) : NameRef := ⟨self.typeID, self.machineID⟩

def Record.assign (record : Record) (self : Self) (now : Time) : Record :=
  { record with
    name := self.name, ip := self.ip, port := self.port,
    version := self.version, attributes := self.attrs, updatedAt := now }

/-- The record of an own entity that is not stored yet, before `assign`. -/
def Self.blank (self : Self) (cfg : Settings) (now : Time) (eid : UUID) : Record where
  entityID := eid
  typeID := self.typeID
  machineID := self.machineID
  mixerID := cfg.mixerID
  name := ""
  status := "active"
  secretHash := ""
  version := ""
  ip := ""
  port := 0
  firstSeen := now
  updatedAt := now
  updateCount := 0
  config := none
  attributes := none

def upsertSelfOnce (cfg : Settings) (self : Self) : Prog (Except Err Unit) := do
  let now ← now
  match ← getRecord .plain self.typeID self.machineID with
  | .error .notFound =>
      match ← entityID .plain self.typeID self.machineID with
      | .error err => pure (.error err)
      | .ok eid =>
          let blank := self.blank cfg now eid
          match ← create .plain (.entity self.ref) (blank.assign self now) with
          | none => pure (.error .conflict)
          | some _ => pure (.ok ())
  | .error err => pure (.error err)
  | .ok (record, rev) =>
      let changed : Record :=
        { record.assign self now with updateCount := record.updateCount + 1 }
      match ← update .plain (.entity self.ref) changed rev with
      | none => pure (.error .conflict)
      | some _ => pure (.ok ())

def upsertSelf (cfg : Settings) (self : Self) : Prog (Except Err Unit) :=
  retry cfg "upsert self" (upsertSelfOnce cfg self)

/-- One call of the registry. -/
inductive Call where
  | register (hello : Hello)
  | approve (id : UUID) (newName : String)
  | remove (typeID : UInt8) (id : UUID)
  | updateStatus (typeID : UInt8) (id : UUID) (status : String)
  | upsertSelf (self : Self)

/-- The calls under one type of reply: the Rack where the call returns one. -/
def Call.body (cfg : Settings) : Call → Prog (Except Err (Option Rack))
  | .register hello => do
      let outcome ← registerEntity cfg hello
      pure (outcome.map some)
  | .approve id newName => do
      let outcome ← Registry.approve cfg id newName
      pure (outcome.map some)
  | .remove typeID id => do
      let outcome ← removeEntity cfg typeID id
      pure (outcome.map fun _ => none)
  | .updateStatus typeID id status => do
      let outcome ← updateStatusEntity cfg typeID id status
      pure (outcome.map fun _ => none)
  | .upsertSelf self => do
      let outcome ← Registry.upsertSelf cfg self
      pure (outcome.map fun _ => none)

/-- Interleavings of registry calls. -/
abbrev World := Config Op Op.Reply (Except Err (Option Rack)) Call RegBucket

end Fluxrig.Registry
