import Fluxrig.Message.Shapes
import Fluxrig.Translate.Amount

/-!
# The coat-check gear: store and restore

`store` parks fields of a message in a bucket under a key built from the message, and
strips them from it.  `restore` finds them again by the key of the reply and merges them
in.  CBOR and `fmt.Sprint` are parameters.
-/

namespace Fluxrig.Coatcheck

open Message Translate

/-- What is used from outside: `fmt.Sprint` of a value and of a map's key, and CBOR. -/
structure Library (Blob : Type) where
  sprint : Value → Text
  sprintKey : ℕ → Text
  marshal : FluxMsg → Option Blob
  unmarshal : Blob → Option FluxMsg

structure Config where
  keyFields : List Text
  keyNormalize : Text
  awaitStore : Bool
  valueFields : List Text
  mergeStrategy : Text
  onMissing : Text

inductive GearError where
  | noKeyFields
  | missingKeyField (field : Text)
  | serialize
  | kvPut
  | decode
  | missingContext (key : Text)
  | unknownOnMissing (policy : Text)
  deriving DecidableEq

/-- `strings.CutPrefix`. -/
def cutStart (start text : Text) : Option Text :=
  if start <+: text then some (text.drop start.length) else none

/-- `GetValue`: an attribute of the message, a metadata entry, or a path into the data. -/
def getValue (msg : FluxMsg) (path : Text) : Option Value :=
  if path = utf8 "payload" then some (.text msg.rawPayload)
  else if path = utf8 "flux_id" then some (.other msg.fluxID.toNat)
  else if path = utf8 "trace_id" then some (.text msg.traceID)
  else if path = utf8 "src_id" then some (.other msg.srcGearID.toNat)
  else
    match cutStart (utf8 "meta.") path with
    | some name => (msg.metadata.lookup name).map .text
    | none =>
        match cutStart (utf8 "data.") path with
        | some rest => msg.get rest
        | none => msg.get path

def normalizeKeyPart (cfg : Config) (part : Text) : Text :=
  if cfg.keyNormalize = utf8 "none" then part
  else if cfg.keyNormalize = utf8 "numeric" then
    let trimmed := (trimSpace part).dropWhile (· = 48)
    if trimmed = [] then utf8 "0" else trimmed
  else trimSpace part

/-- A digit of `base64.RawURLEncoding`. -/
def urlDigit (digit : ℕ) : UInt8 :=
  .ofNat <|
    if digit < 26 then 65 + digit
    else if digit < 52 then 71 + digit
    else if digit < 62 then digit - 4
    else if digit = 62 then 45
    else 95

/-- `EncodeToString` of `base64.RawURLEncoding`, three bytes at a time. -/
def encodeToString : Text → Text
  | [] => []
  | [a] => [urlDigit (a.toNat / 4), urlDigit (a.toNat % 4 * 16)]
  | [a, b] =>
      [urlDigit (a.toNat / 4), urlDigit (a.toNat % 4 * 16 + b.toNat / 16),
        urlDigit (b.toNat % 16 * 4)]
  | a :: b :: c :: rest =>
      urlDigit (a.toNat / 4) :: urlDigit (a.toNat % 4 * 16 + b.toNat / 16) ::
        urlDigit (b.toNat % 16 * 4 + c.toNat / 64) :: urlDigit (c.toNat % 64) ::
        encodeToString rest

section

variable {Blob : Type}

def extractKey (lib : Library Blob) (cfg : Config) (msg : FluxMsg) : Except GearError Text :=
  if cfg.keyFields = [] then .error .noKeyFields
  else do
    let parts ← cfg.keyFields.mapM fun field =>
      match getValue msg field with
      | none => .error (.missingKeyField field)
      | some value => .ok (normalizeKeyPart cfg (fieldToKeyPart lib.sprint value))
    .ok (encodeToString (joinKeys parts))

/-- The override of the time to live travels along. -/
def metaCoatCheckTTL : Text := utf8 "coatcheck.ttl"

/-- The paths `store` and `deleteDotted` take for metadata: something follows the dot. -/
def isMetaField (field : Text) : Bool :=
  5 < field.length && field.take 5 = utf8 "meta."

/-- One turn of the loop over the value fields. -/
def park (msg partialMsg : FluxMsg) (field : Text) : FluxMsg :=
  match getValue msg field with
  | none => partialMsg
  | some extracted =>
      if isMetaField field then
        match extracted with
        | .text value => partialMsg.annotate (field.drop 5) value
        | _ => partialMsg
      else if utf8 "data." <+: field then (partialMsg.set (field.drop 5) extracted).1
      else (partialMsg.set field extracted).1

/-- A fresh message with the identity of the request and its override. -/
def emptyCoat (msg : FluxMsg) : FluxMsg :=
  let fresh := { FluxMsg.new with fluxID := msg.fluxID, tsInit := msg.tsInit }
  match msg.metadata.lookup metaCoatCheckTTL with
  | none => fresh
  | some ttl => fresh.annotate metaCoatCheckTTL ttl

/-- The coat: the fields that are configured, or all of the message. -/
def coat (cfg : Config) (msg : FluxMsg) : FluxMsg :=
  if cfg.valueFields = [] then msg
  else cfg.valueFields.foldl (park msg) (emptyCoat msg)

/-- `delete(m, key)`. -/
def dropField (key : Text) (fields : List (Text × Value)) : List (Text × Value) :=
  fields.filter fun field => field.1 ≠ key

/-- Remove a path, and the maps that it leaves empty.  Tells whether it was there. -/
def deleteNested (sprint : ℕ → Text) (root : List (Text × Value)) :
    List Text → List (Text × Value) × Bool
  | [] => (root, false)
  | [part] =>
      if (root.lookup part).isSome then (dropField part root, true) else (root, false)
  | part :: next :: rest =>
      match (root.lookup part).bind (·.asDataMap sprint) with
      | none => (root, false)
      | some inner =>
          let (left, removed) := deleteNested sprint inner (next :: rest)
          if removed && left.isEmpty then (dropField part root, true)
          else (putField part (.object left) root, removed)

def deleteDotted (sprint : ℕ → Text) (msg : FluxMsg) (path : Text) : FluxMsg :=
  if isMetaField path then { msg with metadata := msg.metadata.erase (path.drop 5) }
  else
    let parts :=
      match splitDots path with
      | first :: next :: rest =>
          if first = utf8 "data" then next :: rest else first :: next :: rest
      | parts => parts
    { msg with data := msg.data.map fun root => (deleteNested sprint root parts).1 }

def strip (sprint : ℕ → Text) (cfg : Config) (msg : FluxMsg) : FluxMsg :=
  cfg.valueFields.foldl (deleteDotted sprint) msg

/-- The bucket, and the message that is forwarded.  `answers` tells whether the bucket
takes the write in time. -/
def store (lib : Library Blob) (cfg : Config) (answers : Bool) (kv : Text → Option Blob)
    (msg : FluxMsg) : Except GearError ((Text → Option Blob) × FluxMsg) := do
  let key ← extractKey lib cfg msg
  match lib.marshal (coat cfg msg) with
  | none => .error .serialize
  | some blob =>
      if answers then
        .ok (Function.update kv key (some blob), strip lib.sprintKey cfg msg)
      else if cfg.awaitStore then .error .kvPut
      else .ok (kv, strip lib.sprintKey cfg msg)

mutual

/-- The number of maps and entries in a value, which bounds how far a merge goes. -/
def weight : Value → ℕ
  | .object fields => fieldsWeight fields + 1
  | .table fields => entriesWeight fields + 1
  | _ => 1

def fieldsWeight : List (Text × Value) → ℕ
  | [] => 0
  | (_, item) :: rest => weight item + fieldsWeight rest

def entriesWeight : List (MapKey × Value) → ℕ
  | [] => 0
  | (_, item) :: rest => weight item + entriesWeight rest

end

lemma weight_pos (value : Value) : 0 < weight value := by
  cases value <;> simp [weight]

lemma fieldsWeight_dropField_le (key : Text) (fields : List (Text × Value)) :
    fieldsWeight (dropField key fields) ≤ fieldsWeight fields := by
  induction fields with
  | nil => exact le_rfl
  | cons field rest ih =>
    rw [dropField] at ih
    rw [dropField, List.filter_cons]
    split
    · rw [fieldsWeight, fieldsWeight]
      omega
    · rw [fieldsWeight]
      omega

lemma fieldsWeight_asDataMap {sprint : ℕ → Text} {value : Value}
    {fields : List (Text × Value)} (hfields : value.asDataMap sprint = some fields) :
    fieldsWeight fields < weight value := by
  cases value with
  | object =>
    rw [← Option.some.inj hfields]
    exact Nat.lt_succ_self _
  | table entries =>
    rw [← Option.some.inj hfields, weight, Nat.lt_succ_iff]
    clear hfields
    induction entries with
    | nil => exact le_rfl
    | cons first rest ih =>
      rw [List.map_cons, fieldsWeight, entriesWeight]
      omega
  | _ => nomatch hfields

/-- The loop over the entries of `src`.  An entry behind another one of its key is none of
the map. -/
def deepMergeData (sprint : ℕ → Text) (overwrite : Bool) (dst : List (Text × Value)) :
    List (Text × Value) → List (Text × Value)
  | [] => dst
  | (key, sv) :: rest =>
      let merged :=
        match hsv : sv.asDataMap sprint, (dst.lookup key).bind (·.asDataMap sprint) with
        | some sm, some dm => putField key (.object (deepMergeData sprint overwrite dm sm)) dst
        | _, _ =>
            if overwrite || (dst.lookup key).isNone then putField key sv dst else dst
      deepMergeData sprint overwrite merged (dropField key rest)
termination_by src => fieldsWeight src
decreasing_by
  · have hlt := fieldsWeight_asDataMap hsv
    rw [fieldsWeight]
    omega
  · have hle := fieldsWeight_dropField_le key rest
    have hpos := weight_pos sv
    rw [fieldsWeight]
    omega

/-- The loop over the saved metadata. -/
def mergeMetadata (overwrite : Bool) (own saved : Metadata) : Metadata :=
  saved.entries.foldl (fun merged entry =>
    if overwrite || (merged.lookup entry.1).isNone then merged.insert entry.1 entry.2
    else merged) own

def enrich (sprint : ℕ → Text) (overwrite : Bool) (msg saved : FluxMsg) : FluxMsg :=
  { msg with
    metadata := mergeMetadata overwrite msg.metadata saved.metadata
    refFluxID := if msg.refFluxID = 0 then saved.fluxID else msg.refFluxID
    traceID := if msg.traceID = [] then saved.traceID else msg.traceID
    data := some (deepMergeData sprint overwrite (msg.data.getD []) (saved.data.getD [])) }

/-- The reply where no coat is found: forwarded as it is, dropped, or an error. -/
def handleMissing (cfg : Config) (msg : FluxMsg) (key : Text) :
    Except GearError (Option FluxMsg) :=
  if cfg.onMissing = utf8 "error" ∨ cfg.onMissing = [] then .error (.missingContext key)
  else if cfg.onMissing = utf8 "drop" then .ok none
  else if cfg.onMissing = utf8 "forward" then .ok (some msg)
  else .error (.unknownOnMissing cfg.onMissing)

def restore (lib : Library Blob) (cfg : Config) (kv : Text → Option Blob)
    (msg : FluxMsg) : Except GearError (Option FluxMsg) := do
  let key ← extractKey lib cfg msg
  match kv key with
  | none => handleMissing cfg msg key
  | some blob =>
      match lib.unmarshal blob with
      | none => .error .decode
      | some saved =>
          .ok (some (enrich lib.sprintKey (cfg.mergeStrategy = utf8 "overwrite") msg saved))

end

end Fluxrig.Coatcheck
