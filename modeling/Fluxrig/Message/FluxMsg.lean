import Mathlib.Data.List.AList
import Mathlib.Tactic

/-!
# Messages

A `FluxMsg` carries structured data, flat metadata and the raw payload.  Go
strings are byte sequences, so they are modelled as such; a literal of the
source is written `utf8 "…"`.  Messages are values here: the copies the source
takes to avoid sharing are the identity.
-/

namespace Fluxrig.Message

/-- A Go string: any sequence of bytes. -/
abbrev Text := List UInt8

instance : LawfulBEq Text := inferInstance

def utf8 (literal : String) : Text := literal.toUTF8.data.toList

/-- A key of a `map[any]any`: a string, or a value of some other type. -/
inductive MapKey where
  | text (content : Text)
  | other (identity : ℕ)
  deriving DecidableEq

/-- A value of `Data`.  Nested maps come in two shapes: `object` is
`map[string]any`, `table` is the `map[any]any` a decoder may produce.  Values of
further dynamic types are told apart by `other` and never looked into. -/
inductive Value where
  | null
  | bool (flag : Bool)
  | int (number : ℤ)
  | float (bits : UInt64)
  | text (content : Text)
  | bytes (content : Text)
  | list (items : List Value)
  | object (fields : List (Text × Value))
  | table (fields : List (MapKey × Value))
  | other (identity : ℕ)

/-- Assign a key of a map, in place when it is there already. -/
def putField {Key Item : Type*} [DecidableEq Key] (key : Key) (item : Item) :
    List (Key × Item) → List (Key × Item)
  | [] => [(key, item)]
  | (name, old) :: rest =>
      if name = key then (name, item) :: rest
      else (name, old) :: putField key item rest

section

variable {Key Item : Type*} [BEq Key] [LawfulBEq Key] [DecidableEq Key]

lemma lookup_cons_ite (field : Key × Item) (rest : List (Key × Item)) (key : Key) :
    (field :: rest).lookup key = if key = field.1 then some field.2 else rest.lookup key := by
  rw [List.lookup_cons]
  by_cases hkey : key = field.1
  · rw [if_pos hkey, beq_iff_eq.mpr hkey]
  · rw [if_neg hkey, beq_false_of_ne hkey]

lemma lookup_putField (key other : Key) (item : Item) (fields : List (Key × Item)) :
    (putField key item fields).lookup other =
      if other = key then some item else fields.lookup other := by
  induction fields with
  | nil => rw [putField, lookup_cons_ite]
  | cons field _ ih =>
    rw [putField]
    by_cases hname : field.1 = key
    · rw [if_pos hname, lookup_cons_ite, lookup_cons_ite, hname]
      split <;> rfl
    · rw [if_neg hname, lookup_cons_ite, lookup_cons_ite, ih]
      by_cases hother : other = field.1
      · rw [if_pos hother, if_pos hother, if_neg (hother ▸ hname)]
      · rw [if_neg hother, if_neg hother]

/-- What is left of a map after `delete(m, key)`. -/
lemma lookup_filter_ne (key other : Key) (fields : List (Key × Item)) :
    (fields.filter fun field => field.1 ≠ key).lookup other =
      if other = key then none else fields.lookup other := by
  induction fields with
  | nil => simp
  | cons => grind

lemma putField_of_lookup {key : Key} {item : Item} {fields : List (Key × Item)}
    (hlookup : fields.lookup key = some item) : putField key item fields = fields := by
  induction fields with
  | nil => nomatch hlookup
  | cons => grind [putField]

end

namespace Value

def isMap : Value → Bool
  | object _ => true
  | table _ => true
  | _ => false

/-- `v[part]` for either shape of map. -/
def child (tree : Value) (part : Text) : Option Value :=
  match tree with
  | object fields => fields.lookup part
  | table fields => fields.lookup (.text part)
  | _ => none

/-- `v[part] = item` for either shape of map. -/
def put (tree : Value) (part : Text) (item : Value) : Value :=
  match tree with
  | object fields => object (putField part item fields)
  | table fields => table (putField (.text part) item fields)
  | leaf => leaf

/-- The walk of `FluxMsg.Get` from `tree` along the parts of a key. -/
def get (tree : Value) : List Text → Option Value
  | [] => none
  | [part] => tree.child part
  | part :: next :: rest =>
      match tree.child part with
      | none => none
      | some inner => if inner.isMap then inner.get (next :: rest) else none

/-- The walk of `FluxMsg.Set`: the container afterwards and the error. -/
def set (tree : Value) (item : Value) : List Text → Value × Option Text
  | [] => (tree, none)
  | [part] =>
      if tree.isMap then (tree.put part item, none)
      else (tree, some (utf8 "key conflict at leaf: not a map"))
  | part :: next :: rest =>
      let conflict := utf8 "key conflict at '" ++ part ++ utf8 "': not a map"
      if tree.isMap then
        match tree.child part with
        | none =>
            let inner := (object []).set item (next :: rest)
            (tree.put part inner.1, inner.2)
        | some inner =>
            if inner.isMap then
              let changed := inner.set item (next :: rest)
              (tree.put part changed.1, changed.2)
            else (tree, some conflict)
      else (tree, some conflict)

section

variable {tree item : Value} {part : Text} {parts : List Text}

@[grind →]
lemma isMap_of_child (hchild : tree.child part = some item) : tree.isMap = true := by
  cases tree <;> first | rfl | nomatch hchild

@[grind =]
lemma child_of_leaf (hleaf : tree.isMap = false) : tree.child part = none := by
  cases tree <;> first | rfl | nomatch hleaf

@[simp, grind =]
lemma isMap_put : (tree.put part item).isMap = tree.isMap := by
  cases tree <;> rfl

@[grind =]
lemma child_put (other : Text) : (tree.put part item).child other =
      if tree.isMap = true ∧ other = part then some item else tree.child other := by
  cases tree with
  | object | table => simp [put, child, isMap, lookup_putField]
  | _ => simp [put, isMap]

lemma put_of_child (hchild : tree.child part = some item) : tree.put part item = tree := by
  cases tree with
  | object => exact congrArg object (putField_of_lookup hchild)
  | table => exact congrArg table (putField_of_lookup hchild)
  | _ => nomatch hchild

@[simp, grind =]
lemma isMap_set : (tree.set item parts).1.isMap = tree.isMap := by
  fun_cases set tree item parts <;> grind

lemma set_empty_ok : ((object []).set item parts).2 = none := by
  induction parts with
  | nil => rfl
  | cons part rest ih => cases rest <;> simp_all [set, isMap, child]

/-- A write that fails changes nothing. -/
lemma set_of_failed (hfailed : (tree.set item parts).2 ≠ none) :
    (tree.set item parts).1 = tree := by
  fun_induction set tree item parts with
  | case4 => exact absurd set_empty_ok hfailed
  | _ => grind [put_of_child]

end

end Value

/-- `strings.Split(key, ".")`. -/
def splitDots (key : Text) : List Text := key.splitOn 46

/-- Routing flags and protocol headers.  A nil map and an empty one are the same
here: the source allocates before it writes. -/
abbrev Metadata := AList fun _ : Text => Text

structure Hop where
  gearID : BitVec 128
  portID : BitVec 128
  tsNano : ℤ

/-- The message.  `data` is `none` for a nil map, which the source tests for. -/
structure FluxMsg where
  fluxID : BitVec 128
  refFluxID : BitVec 128
  traceID : Text
  srcGearID : BitVec 128
  metadata : Metadata
  data : Option (List (Text × Value))
  flags : UInt32
  rawPayload : Text
  path : List Hop
  tsInit : ℤ

namespace FluxMsg

/-- `Get`; every lookup in a nil map fails. -/
def get (msg : FluxMsg) (key : Text) : Option Value :=
  (Value.object (msg.data.getD [])).get (splitDots key)

/-- `Set` on allocated data, the result kept whether or not it fails. -/
def set (msg : FluxMsg) (key : Text) (item : Value) : FluxMsg × Option Text :=
  match (Value.object (msg.data.getD [])).set item (splitDots key) with
  | (.object fields, failure) => ({ msg with data := some fields }, failure)
  | (_, failure) => (msg, failure)

/-- Assign one metadata key. -/
def annotate (msg : FluxMsg) (key value : Text) : FluxMsg :=
  { msg with metadata := msg.metadata.insert key value }

end FluxMsg

/-- `FieldToKeyPart`, with `fmt.Sprint` as a parameter. -/
def fieldToKeyPart (sprint : Value → Text) : Value → Text
  | .text content => content
  | .bytes content => content
  | value => sprint value

/-- `strconv.Itoa` of a length. -/
def itoa (number : ℕ) : Text :=
  (Nat.toDigits 10 number).map fun digit => UInt8.ofNat digit.toNat

/-- `JoinKeys`: every part behind its length and a colon. -/
def joinKeys (parts : List Text) : Text :=
  parts.flatMap fun part => itoa part.length ++ 58 :: part

lemma joinKeys_ne_nil {parts : List Text} (hparts : parts ≠ []) : joinKeys parts ≠ [] := by
  cases parts with
  | nil => exact absurd rfl hparts
  | cons => simp [joinKeys]

end Fluxrig.Message
