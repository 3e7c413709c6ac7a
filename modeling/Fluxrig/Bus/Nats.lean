import Fluxrig.Iso8583.Codec
import Fluxrig.Message.Identity
import Mathlib.Data.List.Dedup

/-!
# Messages on the bus

`Publish` validates a message, adds the trace context to its metadata and sends it as
CBOR; a subscriber decodes it and validates it again.  `Validate` looks at the metadata
and at the top level of the data, while decoding fails on any text that is not UTF-8.

`validate_eq_none_iff` says what validation accepts and `received_iff` which published
messages a subscriber accepts.
-/

namespace Fluxrig.Bus

open Message
open Iso8583 (validString)
open Sdl (sprintInt)

section

variable (inside : ℕ → List Text)

def keyTexts : MapKey → List Text
  | .text content => [content]
  | .other identity => inside identity

mutual

/-- Every text string in a value, at any depth.  `inside` lists the texts in a value of a
type that is not looked into. -/
def texts : Value → List Text
  | .text content => [content]
  | .list items => itemTexts items
  | .object fields => fieldTexts fields
  | .table fields => entryTexts fields
  | .other identity => inside identity
  | .null => []
  | .bool _ => []
  | .int _ => []
  | .float _ => []
  | .bytes _ => []

def itemTexts : List Value → List Text
  | [] => []
  | item :: rest => texts item ++ itemTexts rest

def fieldTexts : List (Text × Value) → List Text
  | [] => []
  | (name, item) :: rest => name :: (texts item ++ fieldTexts rest)

def entryTexts : List (MapKey × Value) → List Text
  | [] => []
  | (key, item) :: rest => keyTexts inside key ++ (texts item ++ entryTexts rest)

end

/-- Every text string that is encoded for a message. -/
def messageTexts (msg : FluxMsg) : List Text :=
  msg.traceID :: (msg.metadata.entries.flatMap (fun entry => [entry.1, entry.2]) ++
    fieldTexts inside (msg.data.getD []))

lemma mem_fieldTexts_iff {fields : List (Text × Value)} {content : Text} :
    content ∈ fieldTexts inside fields ↔
      ∃ field ∈ fields, content = field.1 ∨ content ∈ texts inside field.2 := by
  induction fields with
  | nil => simp [fieldTexts]
  | cons field _ ih =>
    rw [fieldTexts, List.mem_cons, List.mem_append, ih, List.exists_mem_cons_iff, or_assoc]

end

structure Limits where
  maxHops : ℤ
  maxPayloadSize : ℤ

/-- What a value at the top level of the data counts for. -/
def plainLength : Option Value → ℕ
  | some (.text content) => content.length
  | some (.bytes content) => content.length
  | _ => 0

/-- The keys of the data, each of them once. -/
def dataKeys (msg : FluxMsg) : List Text := ((msg.data.getD []).map Prod.fst).dedup

def currentSize (msg : FluxMsg) : ℕ :=
  msg.rawPayload.length +
    (msg.metadata.entries.map fun entry => entry.1.length + entry.2.length).sum +
    ((dataKeys msg).map fun key =>
      key.length + plainLength ((msg.data.getD []).lookup key)).sum

section

variable (quote : Text → Text) (limits : Limits)

def metadataProblem (entry : (_ : Text) × Text) : Option Text :=
  if validString entry.1 = false then
    some (utf8 "invalid UTF-8 in metadata key: " ++ quote entry.1)
  else if validString entry.2 = false then
    some (utf8 "invalid UTF-8 in metadata value for key " ++ quote entry.1)
  else none

def dataKeyProblem (key : Text) : Option Text :=
  if validString key = false then some (utf8 "invalid UTF-8 in data key: " ++ quote key)
  else none

/-- `Validate`: the error, if there is one.  `quote` is the verb `%q`. -/
def validate (msg : FluxMsg) : Option Text :=
  if limits.maxHops < msg.path.length then
    some (utf8 "message exceeded maximum hops: " ++ sprintInt msg.path.length ++ utf8 " > " ++
      sprintInt limits.maxHops)
  else if limits.maxPayloadSize < currentSize msg then
    some (utf8 "message exceeded maximum payload size: " ++ sprintInt (currentSize msg) ++
      utf8 " > " ++ sprintInt limits.maxPayloadSize)
  else
    match msg.metadata.entries.findSome? (metadataProblem quote) with
    | some problem => some problem
    | none => (dataKeys msg).findSome? (dataKeyProblem quote)

variable {quote limits}

lemma metadataProblem_eq_none_iff {entry : (_ : Text) × Text} :
    metadataProblem quote entry = none ↔
      validString entry.1 = true ∧ validString entry.2 = true := by
  rw [metadataProblem]
  split_ifs with hkey hvalue
  · simp [hkey]
  · simp [hvalue]
  · simp [hkey, hvalue]

lemma dataKeyProblem_eq_none_iff {key : Text} :
    dataKeyProblem quote key = none ↔ validString key = true := by
  rw [dataKeyProblem]
  split_ifs with hkey
  · simp [hkey]
  · simpa using hkey

/-- What validation accepts. -/
lemma validate_eq_none_iff {msg : FluxMsg} : validate quote limits msg = none ↔
      msg.path.length ≤ limits.maxHops ∧ currentSize msg ≤ limits.maxPayloadSize ∧
      (∀ entry ∈ msg.metadata.entries, validString entry.1 = true ∧ validString entry.2 = true) ∧
      ∀ field ∈ msg.data.getD [], validString field.1 = true := by
  have hkeys : (dataKeys msg).findSome? (dataKeyProblem quote) = none ↔
      ∀ field ∈ msg.data.getD [], validString field.1 = true := by
    rw [List.findSome?_eq_none_iff]
    simp only [dataKeys, List.mem_dedup, List.forall_mem_map, dataKeyProblem_eq_none_iff]
  have hentries : msg.metadata.entries.findSome? (metadataProblem quote) = none ↔
      ∀ entry ∈ msg.metadata.entries,
        validString entry.1 = true ∧ validString entry.2 = true := by
    rw [List.findSome?_eq_none_iff]
    simp only [metadataProblem_eq_none_iff]
  rw [validate]
  split_ifs with hhops hsize
  · simp [not_le.mpr hhops]
  · simp [not_le.mpr hsize]
  · rw [← hkeys, ← hentries]
    cases hproblem : msg.metadata.entries.findSome? (metadataProblem quote) with
    | some => simp
    | none => simp [not_lt.mp hhops, not_lt.mp hsize]

end

/-- A message as it was sent and as it was decoded: the same up to the shape of maps. -/
structure SameMessage (sent decoded : FluxMsg) : Prop where
  fluxID : decoded.fluxID = sent.fluxID
  refFluxID : decoded.refFluxID = sent.refFluxID
  traceID : decoded.traceID = sent.traceID
  srcGearID : decoded.srcGearID = sent.srcGearID
  metadata : ∀ key, decoded.metadata.lookup key = sent.metadata.lookup key
  data : sent.root.Same decoded.root
  flags : decoded.flags = sent.flags
  rawPayload : decoded.rawPayload = sent.rawPayload
  path : decoded.path = sent.path
  tsInit : decoded.tsInit = sent.tsInit

/-- CBOR: a message whose texts are all UTF-8 is decoded as it was up to the shape of
maps, and any other is not decoded. -/
structure Cbor (Wire : Type) where
  inside : ℕ → List Text
  marshal : FluxMsg → Option Wire
  unmarshal : Wire → Option FluxMsg
  decodes : ∀ msg wire, marshal msg = some wire →
    (∀ content ∈ messageTexts inside msg, validString content = true) →
    ∃ decoded, unmarshal wire = some decoded ∧ SameMessage msg decoded
  fails : ∀ msg wire, marshal msg = some wire →
    ¬ (∀ content ∈ messageTexts inside msg, validString content = true) →
    unmarshal wire = none

/-- What JetStream makes of a publish. -/
inductive ServerReply where
  | stored
  | maxPayload (problem : Text)
  | failed (problem : Text)

/-- A message on the stream, under the id that the duplicate window goes by. -/
structure Publication (Wire : Type) where
  subject : Text
  msgID : Text
  data : Wire

/-- The trace context is set in the metadata. -/
def inject (injected : Metadata) (msg : FluxMsg) : FluxMsg :=
  { msg with metadata := injected ∪ msg.metadata }

def messageID (msg : FluxMsg) (subject : Text) : Text :=
  uuidString msg.fluxID ++ (utf8 "-" ++ (sprintInt msg.path.length ++ (utf8 "-" ++ subject)))

def invalidMessage (problem : Text) : Text := utf8 "bus: invalid message: " ++ problem

section

variable {Wire : Type} (quote : Text → Text) (limits : Limits) (cbor : Cbor Wire)

/-- `Publish`.  The context has no trace to inject if `injected` is empty. -/
def publish (connected : Bool) (injected : Metadata) (reply : ServerReply) (subject : Text)
    (msg : FluxMsg) : Except Text (Publication Wire) :=
  if connected then
    match validate quote limits msg with
    | some problem =>
        .error (invalidMessage (utf8 "fluxmsg validation failed: " ++ problem))
    | none =>
        let traced := inject injected msg
        match cbor.marshal traced with
        | none => .error (invalidMessage (utf8 "encode"))
        | some data =>
            match reply with
            | .stored => .ok ⟨subject, messageID traced subject, data⟩
            | .maxPayload problem => .error (invalidMessage problem)
            | .failed problem => .error problem
  else .error (utf8 "nats bus not connected")

/-- What a subscriber does with a message of the stream. -/
inductive Delivery where
  | undecodable
  | invalid (problem : Text)
  | handled (msg : FluxMsg)

/-- The callback of `Subscribe` up to the handler. -/
def receive (data : Wire) : Delivery :=
  match cbor.unmarshal data with
  | none => .undecodable
  | some msg =>
      match validate quote limits msg with
      | some problem => .invalid problem
      | none => .handled msg

variable {quote limits cbor}

lemma publish_eq_ok {connected : Bool} {injected : Metadata} {reply : ServerReply}
    {subject : Text} {msg : FluxMsg} {publication : Publication Wire}
    (hok : publish quote limits cbor connected injected reply subject msg = .ok publication) :
    validate quote limits msg = none ∧
      cbor.marshal (inject injected msg) = some publication.data := by
  rw [publish] at hok
  split_ifs at hok
  cases hvalid : validate quote limits msg with
  | some =>
    rw [hvalid] at hok
    cases hok
  | none =>
    rw [hvalid] at hok
    cases hdata : cbor.marshal (inject injected msg) with
    | none =>
      simp only [hdata] at hok
      cases hok
    | some =>
      simp only [hdata] at hok
      cases reply with
      | stored =>
        cases hok
        exact ⟨rfl, rfl⟩
      | maxPayload | failed => cases hok

end

section

variable {sent decoded : FluxMsg}

lemma plainLength_map {value : Value} (hmap : value.isMap = true) :
    plainLength (some value) = 0 := by
  cases value with
  | text | bytes => nomatch hmap
  | _ => rfl

lemma plainLength_same {value other : Value} (hsame : value.Same other) :
    plainLength (some other) = plainLength (some value) := by
  cases hsame with
  | leaf | list => rfl
  | map hvalue hother => rw [plainLength_map hvalue, plainLength_map hother]

lemma mem_dataKeys_iff {msg : FluxMsg} {key : Text} :
    key ∈ dataKeys msg ↔ msg.root.entry (.text key) ≠ none := by
  rw [dataKeys, List.mem_dedup, List.mem_map]
  change _ ↔ (msg.data.getD []).lookup key ≠ none
  rw [ne_eq, List.lookup_eq_none_iff]
  push Not
  constructor
  · intro hfield
    obtain ⟨field, hmem, rfl⟩ := hfield
    exact ⟨field, hmem, by simp⟩
  · intro hfield
    obtain ⟨field, hmem, hkey⟩ := hfield
    have hname : key = field.1 := by simpa using hkey
    exact ⟨field, hmem, hname.symm⟩

section

variable (hsame : SameMessage sent decoded)

include hsame

/-- What a map holds under a key counts the same after decoding. -/
lemma plainLength_lookup (key : Text) : plainLength ((decoded.data.getD []).lookup key) =
      plainLength ((sent.data.getD []).lookup key) := by
  change plainLength (decoded.root.entry (.text key)) = plainLength (sent.root.entry (.text key))
  cases hentry : sent.root.entry (.text key) with
  | none => rw [(hsame.data.entry_eq_none rfl _).mp hentry]
  | some =>
    obtain ⟨other, hother, hitems⟩ := hsame.data.entry hentry rfl
    rw [hother]
    exact plainLength_same hitems

lemma dataKeys_perm : (dataKeys decoded).Perm (dataKeys sent) := by
  apply (List.perm_ext_iff_of_nodup (List.nodup_dedup _) (List.nodup_dedup _)).mpr
  intro key
  change key ∈ dataKeys decoded ↔ key ∈ dataKeys sent
  rw [mem_dataKeys_iff, mem_dataKeys_iff, ne_eq, ne_eq, hsame.data.entry_eq_none rfl]

lemma metadata_perm : decoded.metadata.entries.Perm sent.metadata.entries := by
  apply List.lookup_ext decoded.metadata.nodupKeys sent.metadata.nodupKeys
  intro key value
  have hlookup := hsame.metadata key
  rw [AList.lookup, AList.lookup] at hlookup
  rw [hlookup]

lemma currentSize_same : currentSize decoded = currentSize sent := by
  have hentries := (metadata_perm hsame).map fun entry => entry.1.length + entry.2.length
  have hkeys := (dataKeys_perm hsame).map fun key =>
    key.length + plainLength ((sent.data.getD []).lookup key)
  simp only [currentSize, plainLength_lookup hsame]
  rw [hsame.rawPayload, hentries.sum_eq, hkeys.sum_eq]

/-- A message and its decoded form are accepted alike, under the same limits. -/
lemma validate_same {quote : Text → Text} {limits : Limits} :
    validate quote limits decoded = none ↔ validate quote limits sent = none := by
  have hkeys : (∀ field ∈ decoded.data.getD [], validString field.1 = true) ↔
      ∀ field ∈ sent.data.getD [], validString field.1 = true := by
    have hmem : ∀ msg : FluxMsg, (∀ field ∈ msg.data.getD [], validString field.1 = true) ↔
        ∀ key ∈ dataKeys msg, validString key = true := by
      intro msg
      simp only [dataKeys, List.mem_dedup, List.forall_mem_map]
    rw [hmem, hmem]
    exact forall_congr' fun key => imp_congr_left (dataKeys_perm hsame).mem_iff
  have hentries : (∀ entry ∈ decoded.metadata.entries,
        validString entry.1 = true ∧ validString entry.2 = true) ↔
      ∀ entry ∈ sent.metadata.entries, validString entry.1 = true ∧ validString entry.2 = true :=
    forall_congr' fun entry => imp_congr_left (metadata_perm hsame).mem_iff
  rw [validate_eq_none_iff, validate_eq_none_iff, hsame.path, currentSize_same hsame, hkeys,
    hentries]

end

end

section

variable {Wire : Type}

/-- A property of all metadata, once the trace context is in it. -/
lemma forall_inject_iff {holds : (_ : Text) × Text → Prop} {injected : Metadata}
    {msg : FluxMsg} (hmetadata : ∀ entry ∈ msg.metadata.entries, holds entry) :
    (∀ entry ∈ (inject injected msg).metadata.entries, holds entry) ↔
      ∀ entry ∈ injected.entries, holds entry := by
  have hmem : ∀ entry, entry ∈ (inject injected msg).metadata.entries ↔
      entry ∈ injected.entries ∨ entry.1 ∉ injected ∧ entry ∈ msg.metadata.entries := by
    intro entry
    have hunion := @AList.mem_lookup_union _ _ _ entry.1 entry.2 injected msg.metadata
    rw [AList.mem_lookup_iff, AList.mem_lookup_iff, AList.mem_lookup_iff] at hunion
    exact hunion
  constructor
  · intro hall entry hentry
    exact hall entry ((hmem entry).mpr (.inl hentry))
  · intro hall entry hentry
    rcases (hmem entry).mp hentry with hnew | hold
    · exact hall entry hnew
    · exact hmetadata entry hold.2

/-- The texts that validation does not look at: the trace id, what lies below the top
level of the data, and what is injected afterwards. -/
def HiddenTextsValid (inside : ℕ → List Text) (injected : Metadata) (msg : FluxMsg) : Prop :=
  validString msg.traceID = true ∧
    (∀ field ∈ msg.data.getD [], ∀ content ∈ texts inside field.2, validString content = true) ∧
    ∀ entry ∈ injected.entries, validString entry.1 = true ∧ validString entry.2 = true

lemma messageTexts_valid_iff {inside : ℕ → List Text} {injected : Metadata} {msg : FluxMsg}
    (hmetadata : ∀ entry ∈ msg.metadata.entries,
      validString entry.1 = true ∧ validString entry.2 = true)
    (hkeys : ∀ field ∈ msg.data.getD [], validString field.1 = true) :
    (∀ content ∈ messageTexts inside (inject injected msg), validString content = true) ↔
      HiddenTextsValid inside injected msg := by
  have hdata : (∀ content ∈ fieldTexts inside (msg.data.getD []), validString content = true) ↔
      ∀ field ∈ msg.data.getD [], ∀ content ∈ texts inside field.2,
        validString content = true := by
    constructor
    · intro hall field hfield content hcontent
      exact hall content ((mem_fieldTexts_iff inside).mpr ⟨field, hfield, .inr hcontent⟩)
    · intro hall content hcontent
      obtain ⟨field, hfield, hwhere⟩ := (mem_fieldTexts_iff inside).mp hcontent
      rcases hwhere with hname | hbelow
      · rw [hname]
        exact hkeys field hfield
      · exact hall field hfield content hbelow
  rw [HiddenTextsValid, messageTexts, List.forall_mem_cons, List.forall_mem_append,
    ← hdata, ← forall_inject_iff hmetadata]
  simp only [List.forall_mem_flatMap, List.forall_mem_cons, List.not_mem_nil, false_implies,
    implies_true, and_true]
  rw [and_comm (a := ∀ entry ∈ (inject injected msg).metadata.entries, _)]
  rfl

/-- A published message is received exactly if the texts that validation does not look at
are UTF-8 and the injected metadata does not make it larger than allowed. -/
theorem received_iff (quote : Text → Text) (limits : Limits) (cbor : Cbor Wire)
    (connected : Bool) (injected : Metadata) (reply : ServerReply) (subject : Text)
    (msg : FluxMsg) (publication : Publication Wire)
    (hok : publish quote limits cbor connected injected reply subject msg = .ok publication) :
    (∃ decoded, receive quote limits cbor publication.data = .handled decoded) ↔
      HiddenTextsValid cbor.inside injected msg ∧
        currentSize (inject injected msg) ≤ limits.maxPayloadSize := by
  obtain ⟨hvalid, hmarshal⟩ := publish_eq_ok hok
  obtain ⟨hhops, _, hmetadata, hkeys⟩ := validate_eq_none_iff.mp hvalid
  have hreceive : (∃ decoded, receive quote limits cbor publication.data = .handled decoded) ↔
      ∃ decoded, cbor.unmarshal publication.data = some decoded ∧
        validate quote limits decoded = none := by
    rw [receive]
    cases cbor.unmarshal publication.data with
    | none => simp
    | some decoded => cases hproblem : validate quote limits decoded <;> simp [hproblem]
  rw [hreceive]
  by_cases htexts : HiddenTextsValid cbor.inside injected msg
  · obtain ⟨decoded, hdecoded, hsame⟩ :=
      cbor.decodes _ _ hmarshal ((messageTexts_valid_iff hmetadata hkeys).mpr htexts)
    have htraced : validate quote limits (inject injected msg) = none ↔
        currentSize (inject injected msg) ≤ limits.maxPayloadSize := by
      have hall := (forall_inject_iff hmetadata).mpr htexts.2.2
      rw [validate_eq_none_iff]
      constructor
      · intro haccepted
        exact haccepted.2.1
      · intro hsize
        exact ⟨hhops, hsize, hall, hkeys⟩
    rw [← htraced, ← validate_same hsame, hdecoded]
    simp [htexts]
  · have hundecoded := cbor.fails _ _ hmarshal
      (fun hall => htexts ((messageTexts_valid_iff hmetadata hkeys).mp hall))
    rw [hundecoded]
    simp [htexts]

end

/-- A wire format that carries messages as they are. -/
def plainCbor : Cbor FluxMsg where
  inside _ := []
  marshal := some
  unmarshal msg := if (messageTexts (fun _ => []) msg).all validString then some msg else none
  decodes msg wire hmarshal hvalid := by
    cases hmarshal
    refine ⟨msg, if_pos (List.all_eq_true.mpr hvalid), ?_⟩
    exact ⟨rfl, rfl, rfl, rfl, fun _ => rfl, Value.Same.refl _, rfl, rfl, rfl, rfl⟩
  fails msg wire hmarshal hinvalid := by
    cases hmarshal
    exact if_neg fun hall => hinvalid (List.all_eq_true.mp hall)

def smallLimits : Limits := ⟨64, 32⟩

def traceContext : Metadata := (∅ : Metadata).insert (utf8 "traceparent") (utf8 "00-0a-0b-01")

/-- A message with room for the trace context. -/
def modest : FluxMsg :=
  { FluxMsg.new with data := some [(utf8 "pan", .text (utf8 "4111"))] }

/-- A message as large as allowed. -/
def full : FluxMsg :=
  { FluxMsg.new with rawPayload := List.replicate 32 0 }

/-- A message with a text that is no UTF-8. -/
def garbled : FluxMsg :=
  { FluxMsg.new with data := some [(utf8 "note", .text [0xff])] }

def sentAs (msg : FluxMsg) : Publication FluxMsg :=
  ⟨utf8 "flux.msg.rack1.in", messageID (inject traceContext msg) (utf8 "flux.msg.rack1.in"),
    inject traceContext msg⟩

theorem modest_received :
    ∃ decoded, receive id smallLimits plainCbor (sentAs modest).data = .handled decoded := by
  have hok : publish id smallLimits plainCbor true traceContext .stored
      (utf8 "flux.msg.rack1.in") modest = .ok (sentAs modest) := by
    rfl
  have htexts : HiddenTextsValid plainCbor.inside traceContext modest := by
    unfold HiddenTextsValid
    decide +kernel
  exact (received_iff id smallLimits plainCbor true traceContext .stored
    (utf8 "flux.msg.rack1.in") modest (sentAs modest) hok).mpr ⟨htexts, by decide +kernel⟩

/-- Both messages are accepted by `Publish`; the subscriber cannot decode the one and finds
the other too large. -/
theorem published_then_discarded :
    (publish id smallLimits plainCbor true traceContext .stored (utf8 "flux.msg.rack1.in")
        garbled = .ok (sentAs garbled) ∧
      receive id smallLimits plainCbor (sentAs garbled).data = .undecodable) ∧
    publish id smallLimits plainCbor true traceContext .stored (utf8 "flux.msg.rack1.in")
        full = .ok (sentAs full) ∧
      receive id smallLimits plainCbor (sentAs full).data =
        .invalid (utf8 "message exceeded maximum payload size: 54 > 32") := by
  refine ⟨⟨?_, ?_⟩, ?_, ?_⟩
  · rfl
  · rfl
  · rfl
  · rfl

end Fluxrig.Bus
