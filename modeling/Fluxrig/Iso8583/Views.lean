import Fluxrig.Iso8583.Keys
import Fluxrig.Iso8583.Setters

/-!
# What is validated and what is sent

Rules see a message through its raw keys, and the encoder takes aliases and raw keys.
Validators tell any two different subjects apart, so the report is about the message that
is packed exactly if both ways of reading agree on every element.
-/

namespace Fluxrig.Sdl

open Message

/-- A validator with a single check. -/
def probe (mti : Text) (node : Node) : Validator where
  rules := []
  checks := [(mti, ⟨[], severityReject, ⟨[], [], node⟩, []⟩)]
  closed := []

section

variable {floats : Floats} {m other : Subject}

lemma validate_probe_of_ne {mti : Text} (node : Node) (hmti : mti ≠ m.mti) :
    (probe mti node).validate floats m = [] := by
  simp [Validator.validate, Validator.under, probe, hmti]

lemma validate_probe_eq_nil_iff (node : Node) :
    (probe m.mti node).validate floats m = [] ↔ (node.eval floats m).truth = true := by
  have hreport : (probe m.mti node).validate floats m =
      Validator.checkAssert floats m ⟨[], severityReject, ⟨[], [], node⟩, []⟩ := by
    simp [Validator.validate, Validator.under, probe]
  rw [hreport, Validator.checkAssert, Core.problemIf_eq_nil, WhenExpr.eval, Bool.not_eq_false]

/-- Subjects with the same violations under every validator are the same. -/
lemma validate_eq_iff :
    (∀ v : Validator, v.validate floats m = v.validate floats other) ↔ m = other := by
  constructor
  · intro hsame
    have hmti : m.mti = other.mti := by
      by_contra hne
      have hprobe := hsame (probe m.mti (.lit (.bool false)))
      rw [validate_probe_of_ne _ hne, validate_probe_eq_nil_iff] at hprobe
      nomatch hprobe
    have hnode : ∀ node : Node,
        (node.eval floats m).truth = true ↔ (node.eval floats other).truth = true := by
      intro node
      rw [← validate_probe_eq_nil_iff, ← validate_probe_eq_nil_iff, ← hmti, hsame]
    have hfield : m.field = other.field := by
      funext de subs
      have hpresent := hnode (.present ⟨de, subs, 0⟩)
      have hvalue := fun content => hnode
        (.cmp (.field ⟨de, subs, 0⟩ false) (utf8 "==") (.lit (strValue content)))
      cases hm : m.field de subs with
      | none =>
        cases hother : other.field de subs with
        | none => rfl
        | some => simp [Node.eval, hm, hother, boolValue, WhenValue.truth] at hpresent
      | some content =>
        cases hother : other.field de subs with
        | none => simp [Node.eval, hm, hother, boolValue, WhenValue.truth] at hpresent
        | some =>
          have hsame := hvalue content
          simp [Node.eval, hm, hother, boolValue, strValue, WhenValue.truth, compareValues,
            sameValue] at hsame
          rw [hsame]
    cases other
    subst hmti hfield
    rfl
  · intro hsame v
    rw [hsame]

end

end Fluxrig.Sdl

namespace Fluxrig.Iso8583

open Fluxrig.Core Message Sdl

def Setting.content : Setting → Text
  | text content => content
  | binary content => content

/-- The packed message as rules would address it.  `parts` reads a subfield in the value
that an element was set to. -/
def packedSubject (parts : ℤ → Setting → List Text → Option Text) (sets : List (ℤ × Setting)) :
    Subject where
  mti := ((lastSetting 0 sets).map Setting.content).getD []
  field := fun de subs =>
    (lastSetting de sets).bind fun setting =>
      if subs = [] then some setting.content else parts de setting subs

lemma content_setting (moov : Moov) (value : Value) :
    (moov.setting value).content = moov.characters value := by
  cases value <;> rfl

section

variable (names : FieldMeta) (moov : Moov) (marks : ℤ → Bool)
  (parts : ℤ → Setting → List Text → Option Text) (msg : FluxMsg)

/-- Rules and encoder read the same in a message.  An alias is backed by its raw key,
with the same characters unless the raw key prevails, a raw key that is not encoded has an
alias, and element 0 is the message type. -/
structure Aligned : Prop where
  mtiAccepted : metadataMti msg ≠ [] → moov.accepts 0 (.text (metadataMti msg)) = true
  mtiElement : (msg.get (rawKey 0)).map moov.characters =
    if metadataMti msg = [] then none else some (metadataMti msg)
  backed : ∀ id ≠ 0, ∀ value, (names.aliasOf id).bind msg.get = some value →
    ∃ raw, msg.get (rawKey id) = some raw ∧
      ((2 ≤ id ∧ id ≤ 128) ∧ marks id = false ∨ moov.characters raw = moov.characters value)
  encoded : ∀ id ≠ 0, ¬ (2 ≤ id ∧ id ≤ 128) → msg.get (rawKey id) ≠ none →
    (names.aliasOf id).bind msg.get ≠ none
  mtiParts : ∀ subs ≠ [], (msg.get (pathKey 0 subs)).map moov.characters =
    if metadataMti msg = [] then none else parts 0 (.text (metadataMti msg)) subs
  elementParts : ∀ id ≠ 0, ∀ subs ≠ [], (msg.get (pathKey id subs)).map moov.characters =
    (carried names marks msg id).bind fun value => parts id (moov.setting value) subs

variable {names moov marks parts msg}

/-- The raw key of an element reads as the value carried for it. -/
lemma raw_eq_carried_iff (id : ℤ) : (msg.get (rawKey id)).map moov.characters =
        (carried names marks msg id).map moov.characters ↔
      (∀ value, (names.aliasOf id).bind msg.get = some value →
        ∃ raw, msg.get (rawKey id) = some raw ∧ ((2 ≤ id ∧ id ≤ 128) ∧ marks id = false ∨
            moov.characters raw = moov.characters value)) ∧
        (¬ (2 ≤ id ∧ id ≤ 128) → msg.get (rawKey id) ≠ none →
          (names.aliasOf id).bind msg.get ≠ none) := by
  rw [carried]
  by_cases hrange : 2 ≤ id ∧ id ≤ 128
  · cases (names.aliasOf id).bind msg.get <;> cases msg.get (rawKey id) <;>
      cases marks id <;> simp [hrange]
  · cases (names.aliasOf id).bind msg.get <;> cases msg.get (rawKey id) <;>
      cases marks id <;> simp [hrange]

variable {order : List (Sigma fun _ : ℤ => Text)} {encoded : Encoded}
  (hmarks : moov.Marks marks) (horder : order.Perm names.aliases.entries)
  (hencode : encode moov order msg = .ok encoded)

include hmarks horder hencode

lemma subject_eq_packed_iff : subject moov encoded.mti msg = packedSubject parts encoded.sets ↔
      Aligned names moov marks parts msg := by
  have hmti : encoded.mti = metadataMti msg := ((encode_eq_ok_iff hmarks).mp hencode).2.1
  have hzero := lastSetting_zero hmarks hencode
  rw [hmti] at hzero
  have hset : (metadataMti msg ≠ [] → moov.accepts 0 (.text (metadataMti msg)) = true) →
      lastSetting 0 encoded.sets =
        if metadataMti msg = [] then none else some (.text (metadataMti msg)) := by
    intro haccepted
    rw [hzero]
    by_cases hempty : metadataMti msg = []
    · simp [hempty]
    · simp [hempty, haccepted hempty]
  have hwhole : ∀ id, pathKey id [] = rawKey id := fun id => rfl
  have hpacked : ∀ id ≠ 0, ∀ subs, (packedSubject parts encoded.sets).field id subs =
      (carried names marks msg id).bind fun value =>
        if subs = [] then some (moov.characters value) else parts id (moov.setting value) subs := by
    intro id hid subs
    rw [packedSubject]
    simp only [lastSetting_encode horder hid hmarks hencode, Option.bind_map, Function.comp_def,
      content_setting]
  constructor
  · intro hsame
    have hfield : ∀ id subs, (msg.get (pathKey id subs)).map moov.characters =
        (packedSubject parts encoded.sets).field id subs := by
      intro id subs
      rw [← hsame, subject_field]
    have haccepted : metadataMti msg ≠ [] → moov.accepts 0 (.text (metadataMti msg)) = true := by
      intro hne
      by_contra hrefused
      have hname : encoded.mti = (packedSubject parts encoded.sets).mti :=
        congrArg Subject.mti hsame
      rw [hmti, packedSubject, hzero, if_neg fun hboth => hrefused hboth.2] at hname
      exact hne hname
    have htype := hset haccepted
    have hzeroField : ∀ subs, (msg.get (pathKey 0 subs)).map moov.characters =
        if metadataMti msg = [] then none
        else if subs = [] then some (metadataMti msg)
        else parts 0 (.text (metadataMti msg)) subs := by
      intro subs
      rw [hfield, packedSubject]
      simp only [htype]
      split <;> rfl
    have hraw : ∀ id ≠ 0, (msg.get (rawKey id)).map moov.characters =
        (carried names marks msg id).map moov.characters := by
      intro id hid
      rw [← hwhole, hfield, hpacked id hid]
      exact Option.map_eq_bind.symm
    exact
      { mtiAccepted := haccepted
        mtiElement := hzeroField []
        backed := fun id hid => ((raw_eq_carried_iff id).mp (hraw id hid)).1
        encoded := fun id hid => ((raw_eq_carried_iff id).mp (hraw id hid)).2
        mtiParts := fun subs hsubs => by rw [hzeroField, if_neg hsubs]
        elementParts := fun id hid subs hsubs => by
          rw [hfield, hpacked id hid]
          simp only [if_neg hsubs] }
  · intro haligned
    have htype := hset haligned.mtiAccepted
    have hname : (packedSubject parts encoded.sets).mti = metadataMti msg := by
      rw [packedSubject, htype]
      by_cases hempty : metadataMti msg = []
      · simp [hempty]
      · simp [hempty, Setting.content]
    have hfield : (fun id subs => (msg.get (pathKey id subs)).map moov.characters) =
        (packedSubject parts encoded.sets).field := by
      funext id subs
      by_cases hid : id = 0
      · subst hid
        rw [packedSubject]
        simp only [htype]
        by_cases hsubs : subs = []
        · rw [hsubs, hwhole, haligned.mtiElement]
          split <;> rfl
        · rw [haligned.mtiParts subs hsubs]
          split <;> rfl
      · rw [hpacked id hid]
        by_cases hsubs : subs = []
        · rw [hsubs, hwhole, (raw_eq_carried_iff id).mpr
            ⟨haligned.backed id hid, haligned.encoded id hid⟩]
          exact Option.map_eq_bind
        · rw [haligned.elementParts id hid subs hsubs]
          simp only [if_neg hsubs]
    rw [subject, hmti, hfield, ← hname]

end

/-- The gear with its rules enforced. -/
def Gear.enforce (gear : Gear) (v : Validator) : Gear :=
  { gear with validator := some v, enforcing := true }

def Processed.report : Processed → List Violation
  | failed _ => []
  | rejected violations => violations
  | passed _ violations => violations

lemma report_judge (gear : Gear) (violations : List Violation) (msg : FluxMsg) :
    (gear.judge violations msg).report = violations := by
  rw [Gear.judge]
  split <;> rfl

/-- Whatever the rules, the gear reports and decides as it would for the message that is
packed, exactly if the message is aligned. -/
theorem report_is_of_packed_iff {gear : Gear} {marks : ℤ → Bool}
    {parts : ℤ → Setting → List Text → Option Text} {msg : FluxMsg}
    {order : List (Sigma fun _ : ℤ => Text)} {encoded : Encoded}
    (hencodes : gear.encodes msg = true) (hmarks : gear.moov.Marks marks)
    (horder : order.Perm gear.names.aliases.entries)
    (hencode : encode gear.moov order msg = .ok encoded) :
    (∀ v, (gear.enforce v).process order msg = (gear.enforce v).judge
          (v.validate gear.floats (packedSubject parts encoded.sets))
          { msg with rawPayload := encoded.payload }) ↔
      Aligned gear.names gear.moov marks parts msg := by
  have hprocess : ∀ v, (gear.enforce v).process order msg =
      (gear.enforce v).judge (v.validate gear.floats (subject gear.moov encoded.mti msg))
        { msg with rawPayload := encoded.payload } := by
    intro v
    have hsame : (gear.enforce v).encodes msg = true := hencodes
    have hcalls : encode (gear.enforce v).moov order msg = .ok encoded := hencode
    rw [Gear.process, if_pos hsame, hcalls]
    rfl
  rw [← subject_eq_packed_iff hmarks horder hencode, ← @validate_eq_iff gear.floats]
  constructor
  · intro hreports v
    have hreport := congrArg Processed.report ((hprocess v).symm.trans (hreports v))
    rwa [report_judge, report_judge] at hreport
  · intro hsame v
    rw [hprocess, hsame]

/-! ## A message with an alias only -/

/-- Element 2 with a name and a rule. -/
def panSpec (usage : String) : Spec where
  catalog := AList.singleton (utf8 "0100") ⟨utf8 "request", [], []⟩
  enums := ∅
  fields := AList.singleton 2
    { aliasName := utf8 "pan"
      sensitivity := []
      logMask := none
      valuesRef := []
      validValues := none
      kind := []
      currencyField := none
      parts := []
      messages := [⟨[utf8 "0100"], utf8 usage, [], [], [], none⟩] }
  checks := []
  dimensions := []
  histograms := []
  defaults := ∅
  templates := ∅
  mix := []

/-- A library that accepts everything and shows nothing before it packs. -/
def plainMoov : Moov where
  unpack := fun _ => none
  accepts := fun _ _ => true
  shows := fun _ _ => false
  pack := fun _ => some (utf8 "packed")
  sprint := fun _ => []
  tagMap := fun _ => 0

def panGear (usage : String) : Gear where
  direction := .encode
  names := fieldMeta (panSpec usage)
  moov := plainMoov
  floats := wholeFloats
  validator := none
  enforcing := false

def panMsg (fields : List (Text × Value)) : FluxMsg :=
  { FluxMsg.new with
    metadata := AList.singleton (utf8 "iso8583.mti") (utf8 "0100")
    data := some fields }

/-- The raw keys of the message type and of element 2. -/
def rawFields : Text × Value :=
  (utf8 "iso8583", .object
    [(utf8 "field", .object [(utf8 "0", .text (utf8 "0100")), (utf8 "2", .text (utf8 "41"))])])

def panSets : List (ℤ × Setting) := [(0, .text (utf8 "0100")), (2, .text (utf8 "41"))]

def noParts : ℤ → Setting → List Text → Option Text := fun _ _ _ => none

lemma plainMoov_marks : plainMoov.Marks fun _ => false := by
  intro sets id
  simp [plainMoov]

lemma encode_panMsg {fields : List (Text × Value)} {sets : List (ℤ × Setting)}
    (hsets : plainMoov.settings (encodeCalls (fun _ => false) [⟨2, utf8 "pan"⟩] (panMsg fields)) =
      sets) :
    encode plainMoov [⟨2, utf8 "pan"⟩] (panMsg fields) =
      .ok ⟨utf8 "0100", (0, .text (utf8 "0100")) :: sets, utf8 "packed"⟩ := by
  rw [encode_eq_ok_iff plainMoov_marks, hsets]
  exact ⟨fun _ _ => rfl, rfl, rfl, rfl⟩

def backedFields : List (Text × Value) := [(utf8 "pan", .text (utf8 "41")), rawFields]

/-- The alias of element 2 and then its raw key set the same value. -/
def backedEncoded : Encoded where
  mti := utf8 "0100"
  sets := panSets ++ [(2, .text (utf8 "41"))]
  payload := utf8 "packed"

lemma get_backed (id : ℤ) : (panMsg backedFields).get (rawKey id) =
      if id = 0 then some (.text (utf8 "0100"))
      else if id = 2 then some (.text (utf8 "41")) else none := by
  have hkeys : (panMsg backedFields).get (rawKey id) = List.lookup (sprintInt id)
        [(sprintInt 0, .text (utf8 "0100")), (sprintInt 2, .text (utf8 "41"))] := by
    rw [FluxMsg.get, splitDots_rawKey]
    rfl
  rw [hkeys, lookup_cons_ite, lookup_cons_ite]
  simp only [sprintInt_injective.eq_iff, List.lookup_nil]

/-- Below its elements the message has nothing. -/
lemma get_backed_parts (id : ℤ) {subs : List Text} (hsubs : subs ≠ []) :
    (panMsg backedFields).get (pathKey id subs) = none := by
  have hparts : splitDots (pathKey id subs) = rawPath id ++ splitDots ([46].intercalate subs) := by
    rw [pathKey, if_neg hsubs, List.append_assoc, ← splitDots_rawKey]
    exact splitDots_append _ _
  have hraw := get_backed id
  rw [FluxMsg.get, splitDots_rawKey] at hraw
  rw [FluxMsg.get, hparts]
  cases hget : (Value.object ((panMsg backedFields).data.getD [])).get (rawPath id) with
  | none =>
    by_contra hfound
    obtain ⟨leaf, hleaf⟩ := Option.ne_none_iff_exists'.mp hfound
    obtain ⟨inner, hinner, -⟩ :=
      Value.get_on_way (List.cons_ne_nil _ _) (splitDots_ne_nil _) hleaf
    cases hget.symm.trans hinner
  | some value =>
    have hleaf : value.isMap = false := by
      rw [hget] at hraw
      split_ifs at hraw
      · rw [Option.some.inj hraw]
        rfl
      · rw [Option.some.inj hraw]
        rfl
    have hpath : rawPath id ≠ [] := List.cons_ne_nil _ _
    rw [Value.get_append hpath hget (splitDots_ne_nil _), Value.get_of_leaf hleaf]

lemma aliasOf_pan (id : ℤ) :
    (panGear "mandatory").names.aliasOf id = if id = 2 then some (utf8 "pan") else none := by
  have haliases : (panGear "mandatory").names.aliases = AList.singleton 2 (utf8 "pan") := rfl
  rw [FieldMeta.aliasOf, haliases]
  split_ifs with hid
  · rw [hid]
    rfl
  · rw [AList.lookup_eq_none, AList.mem_keys, AList.keys_singleton, List.mem_singleton]
    exact hid

lemma backed_aligned :
    Aligned (panGear "mandatory").names (panGear "mandatory").moov (fun _ => false) noParts
      (panMsg backedFields) where
  mtiAccepted := fun _ => rfl
  mtiElement := by rw [get_backed]; rfl
  backed := by
    intro id hid value hvalue
    rw [aliasOf_pan] at hvalue
    split_ifs at hvalue with htwo
    · subst htwo
      exact ⟨_, get_backed 2, .inl ⟨by decide, rfl⟩⟩
    · nomatch hvalue
  encoded := by
    intro id hid hrange hfound
    rw [get_backed, if_neg hid, if_neg (by omega)] at hfound
    exact absurd rfl hfound
  mtiParts := by
    intro subs hsubs
    rw [get_backed_parts 0 hsubs]
    exact (ite_self none).symm
  elementParts := by
    intro id hid subs hsubs
    rw [get_backed_parts id hsubs]
    cases carried (panGear "mandatory").names (fun _ => false) (panMsg backedFields) id <;> rfl

theorem backed_pan_reported :
    encode (panGear "mandatory").moov [⟨2, utf8 "pan"⟩] (panMsg backedFields) =
        .ok backedEncoded ∧
      ∀ v, ((panGear "mandatory").enforce v).process [⟨2, utf8 "pan"⟩] (panMsg backedFields) =
        ((panGear "mandatory").enforce v).judge
          (v.validate (panGear "mandatory").floats (packedSubject noParts backedEncoded.sets))
          { panMsg backedFields with rawPayload := backedEncoded.payload } := by
  have hsets : plainMoov.settings
      (encodeCalls (fun _ => false) [⟨2, utf8 "pan"⟩] (panMsg backedFields)) =
        [(2, .text (utf8 "41")), (2, .text (utf8 "41"))] := by decide +kernel
  have hencode : encode (panGear "mandatory").moov [⟨2, utf8 "pan"⟩] (panMsg backedFields) =
      .ok backedEncoded := encode_panMsg hsets
  have hencodes : (panGear "mandatory").encodes (panMsg backedFields) = true := rfl
  have horder : [⟨2, utf8 "pan"⟩].Perm (panGear "mandatory").names.aliases.entries :=
    List.Perm.refl _
  exact ⟨hencode,
    (report_is_of_packed_iff hencodes plainMoov_marks horder hencode).mpr backed_aligned⟩

def aliasFields : List (Text × Value) := [(utf8 "pan", .text (utf8 "41"))]

/-- An element set by its alias is invisible to the rules.  The message is packed with
element 2 where the rules forbid it, and rejected for lack of element 2 where they demand
it. -/
theorem alias_hidden_from_rules : encode plainMoov [⟨2, utf8 "pan"⟩] (panMsg aliasFields) =
        .ok ⟨utf8 "0100", panSets, utf8 "packed"⟩ ∧
      (resolveReferences (panSpec "forbidden") = .ok () ∧
        ∃ v, newValidator (panSpec "forbidden") = .ok v ∧
          ((panGear "forbidden").enforce v).process [⟨2, utf8 "pan"⟩] (panMsg aliasFields) =
            .passed { panMsg aliasFields with rawPayload := utf8 "packed" } [] ∧
          rejects (v.validate wholeFloats (packedSubject noParts panSets)) = true) ∧
      (resolveReferences (panSpec "mandatory") = .ok () ∧
        ∃ v, newValidator (panSpec "mandatory") = .ok v ∧ (∃ violations,
            ((panGear "mandatory").enforce v).process [⟨2, utf8 "pan"⟩] (panMsg aliasFields) =
              .rejected violations) ∧
          v.validate wholeFloats (packedSubject noParts panSets) = []) := by
  have hsets : plainMoov.settings
      (encodeCalls (fun _ => false) [⟨2, utf8 "pan"⟩] (panMsg aliasFields)) =
        [(2, .text (utf8 "41"))] := by decide +kernel
  have hencode := encode_panMsg hsets
  have hprocess : ∀ usage v, ((panGear usage).enforce v).process [⟨2, utf8 "pan"⟩]
        (panMsg aliasFields) =
      ((panGear usage).enforce v).judge
        (v.validate wholeFloats (subject plainMoov (utf8 "0100") (panMsg aliasFields)))
        { panMsg aliasFields with rawPayload := utf8 "packed" } := by
    intro usage v
    have hencodes : ((panGear usage).enforce v).encodes (panMsg aliasFields) = true := rfl
    have hmoov : encode ((panGear usage).enforce v).moov [⟨2, utf8 "pan"⟩]
        (panMsg aliasFields) = _ := hencode
    rw [Gear.process, hmoov]
    rfl
  refine ⟨hencode, ⟨rfl, _, rfl, ?_, rfl⟩, rfl, _, rfl, ?_, rfl⟩
  · rw [hprocess]
    rfl
  · rw [hprocess]
    exact ⟨_, rfl⟩

end Fluxrig.Iso8583
