import Fluxrig.Message.Writes
import Fluxrig.Sdl.Validator

/-!
# The ISO 8583 codec

`decode` writes every element of an unpacked message into the data, under the alias the
specification gives it and under `iso8583.field.N`, and the subfields of composites
beside it; the errors of these writes are discarded.  `encode` reads the elements back,
aliases first, and sets them one by one.  The message library is a parameter: what it
unpacks, which values its setters accept, what its bitmap shows, and whether it packs.
-/

namespace Fluxrig.Iso8583

open Message Sdl

/-- What `FixedWidth` looks at in a field's specification. -/
structure FieldShape where
  isText : Bool
  length : ℤ
  isFixed : Bool
  pad : Option (Text → ℤ → Text)

/-- A text field of fixed length gets back the padding that unpacking strips. -/
def fixedWidth (shape : FieldShape) (val : Text) : Text :=
  match shape.pad with
  | none => val
  | some pad =>
      if shape.isText ∧ shape.isFixed ∧ 0 < shape.length ∧ (val.length : ℤ) < shape.length then
        pad val shape.length
      else val

/-- `utf8.ValidString`. -/
def validString (val : Text) : Bool := ByteArray.validateUTF8 ⟨val.toArray⟩

/-- The value in a form that survives the bus: as text, or as bytes where it is none. -/
def storable (val : Text) (raw : Option Text) : Value :=
  match raw with
  | none => .text val
  | some raw => if validString val then .text val else .bytes raw

/-- A field of the library: its `String` and its `Bytes`, unless they fail. -/
structure FieldValue where
  string : Option Text
  bytes : Option Text
  shape : FieldShape

structure SubField extends FieldValue where
  hasSpec : Bool

/-- An element.  The subfields are those of a composite, some of them nil. -/
structure Element extends FieldValue where
  subfields : List (Text × Option SubField)

/-- A message after `Unpack`. -/
structure Unpacked where
  hasBitmap : Bool
  isSet : ℕ → Bool
  element : ℕ → Element
  unknownTags : List (Text × Option Text)

def Element.stored (element : Element) : Option Value :=
  element.string.map fun val => storable (fixedWidth element.shape val) element.bytes

/-- The value that the decoder extracts for a subfield. -/
def SubField.extracted (subField : SubField) : Option Value :=
  if subField.hasSpec then
    match subField.string, subField.bytes with
    | some val, some raw => some (storable (fixedWidth subField.shape val) (some raw))
    | _, _ => none
  else none

namespace Unpacked

/-- The element and the value that the loop of the decoder finds, if any. -/
def found (wire : Unpacked) (i : ℕ) : Option (Element × Value) :=
  if wire.hasBitmap && (i ≤ 128 : Bool) && (i = 0 || wire.isSet i) then
    (wire.element i).stored.map fun stored => (wire.element i, stored)
  else none

/-- The value decoded for an element. -/
def decoded (wire : Unpacked) (i : ℕ) : Option Value := (wire.found i).map Prod.snd

end Unpacked

/-- What the loader keeps of the semantic layer for the codec. -/
structure FieldMeta where
  aliases : AList fun _ : ℤ => Text
  subAliases : AList fun _ : ℤ => AList fun _ : Text => Text

namespace FieldMeta

/-- The name of an element, `g.meta.Aliases[id]`. -/
def aliasOf (names : FieldMeta) (id : ℤ) : Option Text := names.aliases.lookup id

def subAlias (names : FieldMeta) (id : ℤ) (key : Text) : Option Text :=
  (names.subAliases.lookup id).bind (·.lookup key)

end FieldMeta

/-- The names of a composite's parts, by tag or else by ordinal. -/
def partAliases (parts : List Part) : AList fun _ : Text => Text :=
  (parts.zipIdx 1).foldl (fun subs part =>
    if part.1.aliasName = [] then subs
    else subs.insert (if part.1.tag = [] then decimal part.2 else part.1.tag) part.1.aliasName) ∅

/-- The part of `load` that collects the aliases. -/
def fieldMeta (spec : Spec) : FieldMeta :=
  spec.fields.entries.foldl (fun names field =>
    { aliases :=
        if field.2.aliasName = [] then names.aliases
        else names.aliases.insert field.1 field.2.aliasName
      subAliases :=
        if (partAliases field.2.parts).entries = [] then names.subAliases
        else names.subAliases.insert field.1 (partAliases field.2.parts) }) ⟨∅, ∅⟩

def rawKey (id : ℤ) : Text := utf8 "iso8583.field." ++ sprintInt id

def rawSubKey (id : ℤ) (key : Text) : Text := rawKey id ++ utf8 "." ++ key

def unknownTagsKey : Text := utf8 "iso8583.unknown_tags"

/-- A value for a setter: `Field` takes text and `BinaryField` bytes. -/
inductive Setting where
  | text (content : Text)
  | binary (content : Text)
  deriving DecidableEq

/-- The message library, `fmt.Sprint`, and a `map[string][]byte` as a value. -/
structure Moov where
  unpack : Text → Option Unpacked
  accepts : ℤ → Setting → Bool
  shows : List (ℤ × Setting) → ℤ → Bool
  pack : List (ℤ × Setting) → Option Text
  sprint : Value → Text
  tagMap : List (Text × Text) → ℕ

inductive CodecError where
  | unpackFailed
  | decodePanic
  | setFailed (id : ℤ)
  | packFailed
  deriving DecidableEq

section

variable (names : FieldMeta)

/-- The calls of `Set` for one subfield. -/
def subWrites (i : ℕ) (entry : Text × Option SubField) : List (Text × Value) :=
  match entry.2.bind SubField.extracted with
  | none => []
  | some value =>
      (rawSubKey i entry.1, value) ::
        (names.subAlias i entry.1).toList.map fun aliasName => (aliasName, value)

/-- The calls of `Set` for one element. -/
def elementWrites (wire : Unpacked) (i : ℕ) : List (Text × Value) :=
  match wire.found i with
  | none => []
  | some (element, stored) =>
      (names.aliasOf i).toList.map (fun aliasName => (aliasName, stored)) ++
        (rawKey i, stored) :: element.subfields.flatMap (subWrites names i)

variable (tagMap : List (Text × Text) → ℕ) (wire : Unpacked)

/-- The call for the tags that the specification does not know. -/
def tagWrites : List (Text × Value) :=
  let tags := wire.unknownTags.filterMap fun tag => tag.2.map fun raw => (tag.1, raw)
  if wire.hasBitmap ∧ tags ≠ [] then [(unknownTagsKey, .other (tagMap tags))] else []

/-- All calls of `Set` in their order. -/
def writes : List (Text × Value) :=
  (List.range 129).flatMap (elementWrites names wire) ++ tagWrites tagMap wire

/-- The message type, at least four characters wide. -/
def decodedMti (wire : Unpacked) : Text :=
  let mti := fixedWidth (wire.element 0).shape ((wire.element 0).string.getD [])
  if mti = [] then [] else List.replicate (4 - mti.length) 48 ++ mti

/-- A call of `Set` on nil data panics, which is reported as an error. -/
def decode (moov : Moov) (msg : FluxMsg) : Except CodecError (Text × List ℕ × FluxMsg) :=
  match moov.unpack msg.rawPayload with
  | none => .error .unpackFailed
  | some wire =>
      let calls := writes names moov.tagMap wire
      if msg.data = none ∧ calls ≠ [] then .error .decodePanic
      else
        .ok (decodedMti wire,
          (List.range 129).filter fun i => (wire.decoded i).isSome,
          calls.foldl (fun msg call => (msg.set call.1 call.2).1) msg)

end

variable (moov : Moov)

/-- How a value is handed to the library. -/
def Moov.setting : Value → Setting
  | .bytes content => .binary content
  | .text content => .text content
  | value => .text (moov.sprint value)

/-- One call of a setter. -/
def Moov.put (sets : List (ℤ × Setting)) (id : ℤ) (value : Value) :
    Except CodecError (List (ℤ × Setting)) :=
  if moov.accepts id (moov.setting value) then .ok (sets ++ [(id, moov.setting value)])
  else .error (.setFailed id)

/-- One turn of the loop over the aliases. -/
def Moov.setAlias (msg : FluxMsg) (sets : List (ℤ × Setting)) (entry : Sigma fun _ : ℤ => Text) :
    Except CodecError (List (ℤ × Setting)) :=
  if entry.1 = 0 then .ok sets
  else
    match msg.get entry.2 with
    | none => .ok sets
    | some value => moov.put sets entry.1 value

/-- One turn of the loop over the raw fields. -/
def Moov.setRaw (msg : FluxMsg) (sets : List (ℤ × Setting)) (i : ℕ) :
    Except CodecError (List (ℤ × Setting)) :=
  if moov.shows sets i then .ok sets
  else
    match msg.get (rawKey i) with
    | none => .ok sets
    | some value => moov.put sets i value

/-- `_ = isoMsg.Field(0, mti)`, where there is a message type. -/
def Moov.setMti (mti : Text) : List (ℤ × Setting) :=
  if mti ≠ [] ∧ moov.accepts 0 (.text mti) then [(0, .text mti)] else []

/-- The message type that the metadata names. -/
def metadataMti (msg : FluxMsg) : Text := (msg.metadata.lookup (utf8 "iso8583.mti")).getD []

structure Encoded where
  mti : Text
  sets : List (ℤ × Setting)
  payload : Text

/-- `encode`, with the aliases in the order in which the map is visited. -/
def encode (moov : Moov) (order : List (Sigma fun _ : ℤ => Text)) (msg : FluxMsg) :
    Except CodecError Encoded := do
  let mti := metadataMti msg
  let aliased ← order.foldlM (moov.setAlias msg) (moov.setMti mti)
  let sets ← (List.range' 2 127).foldlM (moov.setRaw msg) aliased
  match moov.pack sets with
  | none => .error .packFailed
  | some payload => .ok ⟨mti, sets, payload⟩

/-- A value as rules compare it. -/
def Moov.characters (moov : Moov) : Value → Text
  | .bytes content => content
  | .text content => content
  | value => moov.sprint value

/-- The key that a path of a rule is looked up under. -/
def pathKey (de : ℤ) (subs : List Text) : Text :=
  if subs = [] then rawKey de else rawKey de ++ utf8 "." ++ [46].intercalate subs

/-- The decoded message as rules address it. -/
def subject (moov : Moov) (mti : Text) (msg : FluxMsg) : Subject where
  mti := mti
  field := fun de subs => (msg.get (pathKey de subs)).map moov.characters

@[simp]
lemma subject_field (moov : Moov) (mti : Text) (msg : FluxMsg) (de : ℤ) (subs : List Text) :
    (subject moov mti msg).field de subs = (msg.get (pathKey de subs)).map moov.characters := rfl

inductive Direction where
  | auto
  | decode
  | encode
  deriving DecidableEq

structure Gear where
  direction : Direction
  names : FieldMeta
  moov : Moov
  floats : Floats
  validator : Option Validator
  enforcing : Bool

/-- What becomes of a message, before `on_error` decides about a failed one. -/
inductive Processed where
  | failed (err : CodecError)
  | rejected (violations : List Violation)
  | passed (msg : FluxMsg) (violations : List Violation)

namespace Gear

variable (gear : Gear)

def encodes (msg : FluxMsg) : Bool :=
  match gear.direction with
  | .auto => msg.rawPayload = []
  | .decode => false
  | .encode => true

/-- Without validation there is no validator. -/
def violations (facts : Subject) : List Violation :=
  match gear.validator with
  | none => []
  | some validator => validator.validate gear.floats facts

/-- The decision of `applyRules` about the violations found. -/
def judge (violations : List Violation) (msg : FluxMsg) : Processed :=
  if gear.enforcing && rejects violations then .rejected violations else .passed msg violations

/-- `Process`: the rules are applied to what `subject` reads in the message. -/
def process (order : List (Sigma fun _ : ℤ => Text)) (msg : FluxMsg) : Processed :=
  if gear.encodes msg then
    match encode gear.moov order msg with
    | .error err => .failed err
    | .ok encoded =>
        gear.judge (gear.violations (subject gear.moov encoded.mti msg))
          { msg with rawPayload := encoded.payload }
  else
    match Iso8583.decode gear.names gear.moov msg with
    | .error err => .failed err
    | .ok (mti, _, decoded) => gear.judge (gear.violations (subject gear.moov mti decoded)) decoded

end Gear

end Fluxrig.Iso8583
