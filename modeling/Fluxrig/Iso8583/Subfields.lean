import Fluxrig.Iso8583.Keys

/-!
# Subfields as rules read them

The decoder writes an element under `iso8583.field.N` before its subfields, which go below
that key.  The element is text or bytes, so the writes of the subfields are lost, and a
rule finds none of them.
-/

namespace Fluxrig.Iso8583

open Fluxrig.Core Message Sdl

/-- The subject has every subfield that the decoder extracted, with its value. -/
def SubfieldsReadable (moov : Moov) (wire : Unpacked) (facts : Subject) : Prop :=
  ∀ i element stored, wire.found i = some (element, stored) →
    ∀ key subField, (key, some subField) ∈ element.subfields →
      ∀ value, subField.extracted = some value →
        facts.field i [key] = some (moov.characters value)

lemma rawKey_mem_writes {names : FieldMeta} {tagMap : List (Text × Text) → ℕ}
    {wire : Unpacked} {i : ℕ} {element : Element} {stored : Value}
    (hfound : wire.found i = some (element, stored)) :
    (rawKey i, stored) ∈ writes names tagMap wire := by
  apply mem_writes_of_element names wire (Unpacked.le_of_found hfound)
  rw [elementWrites, hfound]
  exact List.mem_append_right _ List.mem_cons_self

section

variable {names : FieldMeta} {moov : Moov} {msg decoded : FluxMsg} {mti : Text}
  {fields : List ℕ} {wire : Unpacked}
  (hunpack : moov.unpack msg.rawPayload = some wire)
  (hdecode : decode names moov msg = .ok (mti, fields, decoded))

include hunpack hdecode

/-- Below an element that was decoded there is nothing. -/
lemma get_rawSubKey {i : ℕ} {element : Element} {stored : Value}
    (hfound : wire.found i = some (element, stored)) (key : Text) :
    decoded.get (rawSubKey i key) = none := by
  apply Value.get_of_not_open
  rw [← FluxMsg.root, root_decode hunpack hdecode]
  apply not_open_of_mem rfl (leaves_writes names wire moov.tagMap) (rawKey_mem_writes hfound)
  rw [splitDots_rawKey]
  exact below_rawSubKey i key

/-- Rules read the subfields of a message exactly if it has none. -/
theorem subfields_readable_iff : SubfieldsReadable moov wire (subject moov mti decoded) ↔
      ∀ i element stored, wire.found i = some (element, stored) →
        ∀ entry ∈ element.subfields, entry.2.bind SubField.extracted = none := by
  constructor
  · intro hreadable i element stored hfound entry hentry
    by_contra hextracted
    obtain ⟨value, hvalue⟩ := Option.ne_none_iff_exists'.mp hextracted
    obtain ⟨subField, hsome, hsub⟩ := Option.bind_eq_some_iff.mp hvalue
    have hmem : (entry.1, some subField) ∈ element.subfields := by
      rw [← hsome]
      exact hentry
    have hread := hreadable i element stored hfound entry.1 subField hmem value hsub
    have hkey : pathKey i [entry.1] = rawSubKey i entry.1 := by
      simp [pathKey, rawSubKey, List.intercalate]
    rw [subject_field, hkey, get_rawSubKey hunpack hdecode hfound] at hread
    cases hread
  · intro hnone i element stored hfound key subField hmem value hvalue
    have hbind := hnone i element stored hfound _ hmem
    rw [Option.bind_some, hvalue] at hbind
    cases hbind

end

/-! ## A composite with one subfield -/

def plainShape : FieldShape := ⟨true, 0, false, none⟩

def plainField (content : String) : FieldValue :=
  ⟨some (utf8 content), some (utf8 content), plainShape⟩

/-- Element 48 with the subfield `01`, or without subfields. -/
def compositeWire (subfields : List (Text × Option SubField)) : Unpacked where
  hasBitmap := true
  isSet := fun i => i = 48
  element := fun i =>
    if i = 48 then { plainField "0102AB" with subfields := subfields }
    else { plainField "0100" with subfields := [] }
  unknownTags := []

def compositeMoov (subfields : List (Text × Option SubField)) : Moov where
  unpack := fun _ => some (compositeWire subfields)
  accepts := fun _ _ => true
  shows := fun _ _ => false
  pack := fun _ => some []
  sprint := fun _ => []
  tagMap := fun _ => 0

def oneSubfield : List (Text × Option SubField) :=
  [(utf8 "01", some { plainField "AB" with hasSpec := true })]

/-- One composite field with a named part. -/
def compositeSpec : Spec where
  catalog := ∅
  enums := ∅
  fields := AList.singleton 48
    { aliasName := utf8 "additional"
      sensitivity := []
      logMask := none
      valuesRef := []
      validValues := none
      kind := []
      currencyField := none
      parts := [⟨utf8 "01", utf8 "product", [], none⟩]
      messages := [] }
  checks := []
  dimensions := []
  histograms := []
  defaults := ∅
  templates := ∅
  mix := []

def decodedComposite (subfields : List (Text × Option SubField)) : FluxMsg :=
  (writes (fieldMeta compositeSpec) (fun _ => 0) (compositeWire subfields)).foldl
    (fun msg call => (msg.set call.1 call.2).1) FluxMsg.new

theorem plainComposite_readable : (SubfieldsReadable (compositeMoov []) (compositeWire [])
        (subject (compositeMoov []) (utf8 "0100") (decodedComposite [])) ↔
      ∀ i element stored, (compositeWire []).found i = some (element, stored) →
        ∀ entry ∈ element.subfields, entry.2.bind SubField.extracted = none) ∧
    ¬ SubfieldsReadable (compositeMoov oneSubfield) (compositeWire oneSubfield)
      (subject (compositeMoov oneSubfield) (utf8 "0100") (decodedComposite oneSubfield)) := by
  have hreadable : ∀ subfields, decode (fieldMeta compositeSpec) (compositeMoov subfields)
      FluxMsg.new = .ok (utf8 "0100", [0, 48], decodedComposite subfields) → _ := fun subfields =>
    @subfields_readable_iff (fieldMeta compositeSpec) (compositeMoov subfields) FluxMsg.new _ _
      [0, 48] _ rfl
  refine ⟨hreadable [] rfl, fun hone => ?_⟩
  have hnone := (hreadable oneSubfield rfl).mp hone 48 _ _ rfl _ (List.mem_singleton_self _)
  cases hnone

/-- The document is accepted and the message decodes, but the rules cannot see the
subfield `48.01`, only the name that the document gives it. -/
theorem subfield_unreadable : resolveReferences compositeSpec = .ok () ∧
      decode (fieldMeta compositeSpec) (compositeMoov oneSubfield) FluxMsg.new =
        .ok (utf8 "0100", [0, 48], decodedComposite oneSubfield) ∧
      (∃ element stored, (compositeWire oneSubfield).found 48 = some (element, stored) ∧
        element.subfields = [(utf8 "01", some { plainField "AB" with hasSpec := true })]) ∧
      SubField.extracted { plainField "AB" with hasSpec := true } = some (.text (utf8 "AB")) ∧
      (subject (compositeMoov oneSubfield) (utf8 "0100") (decodedComposite oneSubfield)).field
        48 [utf8 "01"] = none ∧
      (decodedComposite oneSubfield).get (utf8 "product") = some (.text (utf8 "AB")) :=
  ⟨rfl, rfl, ⟨_, _, rfl, rfl⟩, rfl, rfl, rfl⟩

end Fluxrig.Iso8583
