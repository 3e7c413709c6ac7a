import Fluxrig.Wasm.Section

/-!
# The Wasm catalog

`Import` signs a module with the cluster key and appends the signature as a custom
section; a Rack cuts the first section of that name out again, verifies the signature
over the rest and compiles the rest.  The two agree on a module that does not carry
such a section already.

A module is a list of `Section`s, each with the spelling of its lengths, and
`extractCustomSection_encode` says what `ExtractCustomSection` does with it.
-/

namespace Fluxrig.Wasm

open Fluxrig.Core
open Message (Text utf8)

/-- What a section holds, after its size. -/
inductive Content where
  | standard (id : UInt8) (hid : id ≠ 0) (body : Bytes)
  | custom (nameLenBytes : Bytes) (name : Text) (payload : Bytes)
      (hname : Spells nameLenBytes name.length)

def Content.id : Content → UInt8
  | .standard id _ _ => id
  | .custom _ _ _ _ => 0

def Content.bytes : Content → Bytes
  | .standard _ _ body => body
  | .custom nameLenBytes name payload _ => nameLenBytes ++ (name ++ payload)

/-- A well-formed section: its size is that of its content. -/
structure Section where
  content : Content
  sizeBytes : Bytes
  spells : Spells sizeBytes content.bytes.length

def Section.bytes (part : Section) : Bytes :=
  part.content.id :: (part.sizeBytes ++ part.content.bytes)

def encodeSections (sections : List Section) : Bytes := sections.flatMap Section.bytes

/-- A Wasm module. -/
def encode (sections : List Section) : Bytes := wasmMagic ++ encodeSections sections

/-- The payload of the section, if it is a custom section of that name. -/
def Section.payload? (target : Text) (part : Section) : Option Bytes :=
  match part.content with
  | .standard _ _ _ => none
  | .custom _ name payload _ => if name = target then some payload else none

/-- The payload of the first custom section of that name, and the other sections. -/
def cutOut (target : Text) : List Section → Option (Bytes × List Section)
  | [] => none
  | part :: rest =>
      match part.payload? target with
      | some payload => some (payload, rest)
      | none => (cutOut target rest).map fun found => (found.1, part :: found.2)

@[simp]
lemma encodeSections_cons (part : Section) (rest : List Section) :
    encodeSections (part :: rest) = part.bytes ++ encodeSections rest := List.flatMap_cons

variable {target : Text} {sections : List Section}

lemma cutOut_append (hnone : cutOut target sections = none) (more : List Section) :
    cutOut target (sections ++ more) =
      (cutOut target more).map fun found => (found.1, sections ++ found.2) := by
  induction sections with
  | nil =>
    cases hmore : cutOut target more with
    | none | some => exact hmore
  | cons part _ ih =>
    rw [cutOut] at hnone
    cases hpayload : part.payload? target with
    | some =>
      rw [hpayload] at hnone
      cases hnone
    | none =>
      rw [hpayload] at hnone
      rw [List.cons_append, cutOut, hpayload]
      rw [ih (Option.map_eq_none_iff.mp hnone), Option.map_map]
      rfl

lemma cutOut_append_of_some {others : List Section}
    {payload : Bytes} (hsome : cutOut target sections = some (payload, others))
    (more : List Section) :
    cutOut target (sections ++ more) = some (payload, others ++ more) := by
  induction sections generalizing others with
  | nil => cases hsome
  | cons part _ ih =>
    rw [List.cons_append, cutOut]
    rw [cutOut] at hsome
    cases hpayload : part.payload? target with
    | some =>
      rw [hpayload] at hsome
      cases hsome
      rfl
    | none =>
      rw [hpayload] at hsome
      obtain ⟨⟨inner, kept⟩, hrest, heq⟩ := Option.map_eq_some_iff.mp hsome
      cases heq
      simp only [ih hrest, Option.map_some]
      rfl

section

variable {target : Text} {before after : Bytes} {part : Section}

lemma getElem?_section :
    (before ++ (part.bytes ++ after))[before.length]? = some part.content.id := by
  rw [List.getElem?_append_right le_rfl, Nat.sub_self]
  rfl

lemma number_section : number (before ++ (part.bytes ++ after)) (before.length + 1) =
      some (part.content.bytes.length, before.length + 1 + part.sizeBytes.length) := by
  have hdrop : (before ++ (part.bytes ++ after)).drop (before.length + 1) =
      part.sizeBytes ++ (part.content.bytes ++ after) := by
    rw [← List.drop_drop, List.drop_left, Section.bytes, List.cons_append, List.drop_one,
      List.tail_cons, List.append_assoc]
  exact number_of_spells part.spells hdrop

lemma finish_section : before.length + 1 + part.sizeBytes.length + part.content.bytes.length =
      (before ++ part.bytes).length := by
  rw [List.length_append, Section.bytes, List.length_cons, List.length_append]
  omega

/-- A run of bytes in the middle, cut out by its bounds. -/
lemma drop_take_middle (first middle last : Bytes) :
    ((first ++ (middle ++ last)).take (first.length + middle.length)).drop first.length =
      middle := by
  rw [← List.append_assoc, ← List.length_append, List.take_left, List.drop_left]

/-- What the loop does with the name and the payload of a custom section. -/
lemma readCustom_section {wasmBytes head nameLenBytes payload : Bytes} {name : Text}
    (hwasm : wasmBytes = head ++ (nameLenBytes ++ (name ++ (payload ++ after))))
    (hhead : wasmBytes = before ++ (wasmBytes.drop before.length))
    (hname : Spells nameLenBytes name.length) (hfits : wasmBytes.length < 2 ^ 63) :
    readCustom wasmBytes target before.length head.length
        (head.length + nameLenBytes.length + name.length + payload.length : ℕ) =
      some (if name = target then .inr (.found payload (before ++ after))
        else .inl (head.length + nameLenBytes.length + name.length + payload.length : ℕ)) := by
  have hlength : wasmBytes.length = head.length + nameLenBytes.length + name.length +
      payload.length + after.length := by
    rw [hwasm]
    simp only [List.length_append]
    omega
  have hbefore : before.length ≤ wasmBytes.length := by
    have hsum := congrArg List.length hhead
    rw [List.length_append] at hsum
    omega
  have hnumber : number wasmBytes head.length =
      some (name.length, head.length + nameLenBytes.length) := by
    apply number_of_spells hname
    rw [hwasm, List.drop_left]
  have hslice : (wasmBytes.take (head.length + nameLenBytes.length + name.length)).drop
      (head.length + nameLenBytes.length) = name := by
    rw [hwasm, ← List.append_assoc, ← List.length_append]
    exact drop_take_middle _ _ _
  by_cases htarget : name = target
  · have hpayload : (wasmBytes.take (head.length + nameLenBytes.length + name.length +
        payload.length)).drop (head.length + nameLenBytes.length + name.length) = payload := by
      rw [hwasm, ← List.append_assoc, ← List.append_assoc, ← List.length_append,
        ← List.length_append]
      exact drop_take_middle _ _ _
    have hrest : wasmBytes.drop (head.length + nameLenBytes.length + name.length +
        payload.length) = after := by
      rw [hwasm, ← List.append_assoc, ← List.append_assoc, ← List.append_assoc,
        ← List.length_append, ← List.length_append, ← List.length_append, List.drop_left]
    have htake : wasmBytes.take before.length = before := by
      rw [hhead, List.take_left]
    rw [readCustom_finds (by omega) hfits hbefore (by omega) hnumber (by omega)
      (hslice.trans htarget), hpayload, hrest, htake, if_pos htarget]
  · have hnames : ∀ length nameStart, number wasmBytes head.length = some (length, nameStart) →
          nameStart + length < 2 ^ 63 ∨ 2 ^ 64 + (head.length + nameLenBytes.length +
            name.length + payload.length) < nameStart + length := by
      intro length nameStart hother
      rw [hnumber] at hother
      cases hother
      left
      omega
    have hnamed : ¬ Named wasmBytes target head.length (head.length + nameLenBytes.length +
        name.length + payload.length) := by
      intro hfound
      obtain ⟨length, nameStart, hother, _, hcalled⟩ := hfound
      rw [hnumber] at hother
      cases hother
      exact htarget (hslice.symm.trans hcalled)
    rw [readCustom_passes (by omega) hfits (by omega) hnames hnamed, if_neg htarget]

/-- One turn of the loop at a well-formed section. -/
lemma turn_section (hfits : (before ++ (part.bytes ++ after)).length < 2 ^ 63) :
    turn (before ++ (part.bytes ++ after)) target before.length = match part.payload? target with
      | some payload => .inr (.found payload (before ++ after))
      | none => .inl ((before ++ part.bytes).length : ℤ) := by
  have hend : (before ++ part.bytes).length ≤ (before ++ (part.bytes ++ after)).length := by
    simp only [List.length_append]
    omega
  rw [turn_of_getElem? getElem?_section, readSection_eq getElem?_section, number_section]
  simp only [finish_section]
  rw [int_of_lt (hend.trans_lt hfits), if_neg (by exact_mod_cast not_lt.mpr hend)]
  cases hcontent : part.content with
  | standard id hid body =>
    have hpayload : part.payload? target = none := by rw [Section.payload?, hcontent]
    have hother : (Content.standard id hid body).id ≠ 0 := hid
    rw [if_neg hother, hpayload]
    rfl
  | custom nameLenBytes name payload hname =>
    have hbytes : part.bytes = 0 :: (part.sizeBytes ++ (nameLenBytes ++ (name ++ payload))) := by
      rw [Section.bytes, hcontent]
      rfl
    have hhead : before.length + 1 + part.sizeBytes.length =
        (before ++ 0 :: part.sizeBytes).length := by
      rw [List.length_append, List.length_cons]
      omega
    have htotal : (before ++ part.bytes).length = (before ++ 0 :: part.sizeBytes).length +
        nameLenBytes.length + name.length + payload.length := by
      simp only [hbytes, List.length_append, List.length_cons]
      omega
    have hwasm : before ++ (part.bytes ++ after) =
        (before ++ 0 :: part.sizeBytes) ++ (nameLenBytes ++ (name ++ (payload ++ after))) := by
      simp only [hbytes, List.append_assoc, List.cons_append]
    have hzero : (Content.custom nameLenBytes name payload hname).id = 0 := rfl
    rw [hhead, htotal, readCustom_section hwasm (by rw [List.drop_left]) hname hfits,
      Section.payload?, hcontent]
    by_cases htarget : name = target
    · simp only [if_pos htarget]
      rfl
    · simp only [if_neg htarget]
      rfl

/-- The loop over the sections that are left: it cuts out the first one of that name. -/
lemma loop_sections (sections : List Section)
    (hfits : (before ++ encodeSections sections).length < 2 ^ 63) :
    ∃ fuel, loop (turn (before ++ encodeSections sections) target) fuel before.length =
      some (match cutOut target sections with
        | some (payload, others) => .found payload (before ++ encodeSections others)
        | none => .sectionNotFound) := by
  induction sections generalizing before with
  | nil =>
    refine ⟨1, loop_of_leaves ?_⟩
    rw [turn, if_neg (by simp [encodeSections])]
    rfl
  | cons part rest ih =>
    rw [encodeSections_cons] at hfits ⊢
    rw [cutOut]
    have hturn := @turn_section target before (encodeSections rest) part hfits
    cases hpayload : part.payload? target with
    | some =>
      rw [hpayload] at hturn
      exact ⟨1, loop_of_leaves hturn⟩
    | none =>
      rw [hpayload] at hturn
      rw [← List.append_assoc] at hfits
      obtain ⟨fuel, hloop⟩ := ih hfits
      rw [List.append_assoc] at hloop
      refine ⟨fuel + 1, (loop_of_continues hturn).trans ?_⟩
      rw [hloop]
      cases hrest : cutOut target rest with
      | none => rfl
      | some found =>
        simp only [Option.map_some, encodeSections_cons, List.append_assoc]

end

/-- `ExtractCustomSection` cuts the first section of that name out of a module. -/
lemma extractCustomSection_encode {wasmBytes : ByteSlice}
    (hbytes : wasmBytes.bytes = encode sections) :
    extractCustomSection wasmBytes target = some (match cutOut target sections with
        | some (payload, others) => .found payload (encode others)
        | none => .sectionNotFound) := by
  rw [extractCustomSection_eq_some_iff]
  have hfits : (wasmMagic ++ encodeSections sections).length < 2 ^ 63 := by
    have := wasmBytes.fits
    rwa [hbytes] at this
  obtain ⟨fuel, hloop⟩ := @loop_sections target wasmMagic sections hfits
  have hmagic : wasmBytes.bytes.take 8 = wasmMagic := by
    rw [hbytes]
    rfl
  refine ⟨fuel, ?_⟩
  rw [extractWithin_of_magic hmagic, hbytes]
  exact hloop

/-- SHA-256 and Ed25519, as far as the catalog relies on them: a signature verifies
exactly if the key has made it for that digest. -/
structure Crypto (Key : Type) where
  sum256 : Bytes → Bytes
  publicKey : Key → Bytes
  sign : Key → Bytes → Bytes
  verify : Bytes → Bytes → Bytes → Bool
  publicKey_ne_nil : ∀ key, publicKey key ≠ []
  verify_iff : ∀ key digest signature,
    verify (publicKey key) digest signature = true ↔ signature = sign key digest

def vendorSection : Text := utf8 "fluxrig.signature"

def clusterSection : Text := utf8 "fluxrig.cluster.signature"

/-- The section that `AppendCustomSection` builds. -/
def customBytes (name : Text) (payload : Bytes) : Bytes :=
  let nameLen := putUvarint (UInt64.ofNat name.length)
  let sectionPayload := nameLen ++ (name ++ payload)
  0 :: (putUvarint (UInt64.ofNat sectionPayload.length) ++ sectionPayload)

/-- `AppendCustomSection`.  `none` is a panic: a length that its five-byte buffer does
not hold, or an output that is too long for a slice. -/
def appendCustomSection (wasmBytes : ByteSlice) (name : Text) (payload : Bytes) :
    Option (Except Text ByteSlice) :=
  if wasmBytes.bytes.length < 8 ∨ wasmBytes.bytes.take 8 ≠ wasmMagic then
    some (.error (utf8 "invalid wasm binary"))
  else
    let nameLen := putUvarint (UInt64.ofNat name.length)
    let size := putUvarint (UInt64.ofNat (nameLen ++ (name ++ payload)).length)
    if nameLen.length ≤ 5 ∧ size.length ≤ 5 then
      if hfits : (wasmBytes.bytes ++ customBytes name payload).length < 2 ^ 63 then
        some (.ok ⟨wasmBytes.bytes ++ customBytes name payload, hfits⟩)
      else none
    else none

/-- The fields of `CatalogManager` that `Import` reads: the vendors' keys, in the order
in which the map is iterated, and the cluster key. -/
structure CatalogManager (Key : Type) where
  keyring : List (Text × Bytes)
  clusterKey : Option Key

/-- What `Import` does not decide itself: the error of the sandbox check on a module and
the error of writing the file, if there is one. -/
structure Surroundings where
  validateSandbox : Bytes → Option Text
  writeFile : Option Text

/-- An accepted import: the metadata that is returned, and the file that was written. -/
structure Imported where
  hash : Text
  status : Text
  stored : ByteSlice

def hexDigit (n : ℕ) : UInt8 := if n < 10 then UInt8.ofNat (48 + n) else UInt8.ofNat (87 + n)

def hexEncodeToString (digest : Bytes) : Text :=
  digest.flatMap fun b => [hexDigit (b.toNat / 16), hexDigit (b.toNat % 16)]

section

variable {Key : Type} (crypto : Crypto Key) (manager : CatalogManager Key) (around : Surroundings)

/-- `Import` from the sandbox check on. -/
def sealModule (payload : ByteSlice) (strippedPayload : Bytes) (status : Text) :
    Option (Except Text Imported) :=
  match around.validateSandbox strippedPayload with
  | some problem => some (.error (utf8 "sandbox validation failed: " ++ problem))
  | none =>
      match manager.clusterKey with
      | none =>
          some (.error (utf8 "mixer cluster key is required to sign imported wasm payloads"))
      | some key =>
          let digest := crypto.sum256 payload.bytes
          match appendCustomSection payload clusterSection (crypto.sign key digest) with
          | none => none
          | some (.error problem) =>
              some (.error (utf8 "failed to append cluster signature: " ++ problem))
          | some (.ok signedPayload) =>
              match around.writeFile with
              | some problem => some (.error (utf8 "failed to write wasm file: " ++ problem))
              | none => some (.ok ⟨hexEncodeToString digest, status, signedPayload⟩)

/-- `Import`.  `none` is a call that panics or does not return. -/
def importModule (payload : ByteSlice) (allowUnsigned : Bool) : Option (Except Text Imported) :=
  match extractCustomSection payload vendorSection with
  | none => none
  | some .panicked => none
  | some (.found vendorSig strippedPayload) =>
      match manager.keyring.find? fun entry =>
          crypto.verify entry.2 (crypto.sum256 strippedPayload) vendorSig with
      | some entry =>
          sealModule crypto manager around payload strippedPayload (utf8 "Trusted: " ++ entry.1)
      | none =>
          if allowUnsigned then
            sealModule crypto manager around payload strippedPayload (utf8 "Untrusted")
          else some (.error (utf8 "vendor signature found but does not match any trusted keys"))
  | some _ =>
      if allowUnsigned then
        sealModule crypto manager around payload payload.bytes (utf8 "Untrusted")
      else some (.error (utf8 "missing vendor signature (use allow_unsigned to bypass)"))

/-- `verifyPayload` of the Wasm gear.  `none` is a call that panics or does not return. -/
def verifyPayload (source : Text) (clusterPub : Bytes) (payload : ByteSlice) :
    Option (Except Text Bytes) :=
  let fromCatalog := (utf8 "snake://").isPrefixOf source
  if clusterPub.length = 0 then
    if fromCatalog then
      some (.error (utf8
        "wasm supply chain security violation: no cluster public key to verify " ++ source))
    else some (.ok payload.bytes)
  else
    match extractCustomSection payload clusterSection with
    | none => none
    | some .panicked => none
    | some (.found sig stripped) =>
        if crypto.verify clusterPub (crypto.sum256 stripped) sig then some (.ok stripped)
        else some (.error
          (utf8 "wasm supply chain security violation: invalid cluster signature"))
    | some _ =>
        if fromCatalog then
          some (.error (utf8 "wasm supply chain security violation: " ++ source ++
            utf8 " has no cluster signature"))
        else some (.ok payload.bytes)

variable {crypto manager around}

variable {payload : ByteSlice} {imported : Imported}

lemma sealModule_eq_ok {strippedPayload : Bytes} {status : Text}
    {key : Key} (hkey : manager.clusterKey = some key)
    (hok : sealModule crypto manager around payload strippedPayload status =
      some (.ok imported)) :
    appendCustomSection payload clusterSection
      (crypto.sign key (crypto.sum256 payload.bytes)) = some (.ok imported.stored) := by
  rw [sealModule, hkey] at hok
  cases hsandbox : around.validateSandbox strippedPayload with
  | some =>
    rw [hsandbox] at hok
    cases hok
  | none =>
    rw [hsandbox] at hok
    simp only at hok
    split at hok
    · cases hok
    · cases hok
    · next happend =>
        split at hok
        · cases hok
        · cases hok
          exact happend

/-- An accepted import has stored the module with the signature appended. -/
lemma importModule_eq_ok {allowUnsigned : Bool} {key : Key} (hkey : manager.clusterKey = some key)
    (hok : importModule crypto manager around payload allowUnsigned = some (.ok imported)) :
    appendCustomSection payload clusterSection
      (crypto.sign key (crypto.sum256 payload.bytes)) = some (.ok imported.stored) := by
  rw [importModule] at hok
  split at hok
  · cases hok
  · cases hok
  · split at hok
    · exact sealModule_eq_ok hkey hok
    · split_ifs at hok
      · exact sealModule_eq_ok hkey hok
      · cases hok
  · split_ifs at hok
    · exact sealModule_eq_ok hkey hok
    · cases hok

end

lemma spells_putUvarint_of_lt {length : ℕ} (hlt : length < 2 ^ 64) :
    Spells (putUvarint (UInt64.ofNat length)) length := by
  have hspells := spells_putUvarint (UInt64.ofNat length)
  rwa [UInt64.toNat_ofNat_of_lt' hlt] at hspells

/-- The section that is appended, as a well-formed section. -/
def customSection (name : Text) (payload : Bytes) (hname : name.length < 2 ^ 64)
    (hsize : (putUvarint (UInt64.ofNat name.length) ++ (name ++ payload)).length < 2 ^ 64) :
    Section where
  content := .custom (putUvarint (UInt64.ofNat name.length)) name payload
    (spells_putUvarint_of_lt hname)
  sizeBytes := putUvarint (UInt64.ofNat
    (putUvarint (UInt64.ofNat name.length) ++ (name ++ payload)).length)
  spells := spells_putUvarint_of_lt hsize

lemma encode_concat (sections : List Section) (part : Section) :
    encode (sections ++ [part]) = encode sections ++ part.bytes := by
  have hone : encodeSections [part] = part.bytes := by
    exact List.append_nil _
  rw [encode, encode, encodeSections, List.flatMap_append, ← encodeSections, ← encodeSections, hone,
    List.append_assoc]

lemma appendCustomSection_eq_ok {payload stored : ByteSlice} {name : Text} {content : Bytes}
    (hbytes : payload.bytes = encode sections)
    (hok : appendCustomSection payload name content = some (.ok stored)) :
    ∃ part : Section, part.payload? name = some content ∧
      part.bytes = customBytes name content ∧ stored.bytes = encode (sections ++ [part]) := by
  simp only [appendCustomSection] at hok
  split_ifs at hok with hmagic hsize hfits
  · cases hok
  · have hstored : stored.bytes = payload.bytes ++ customBytes name content := by
      cases hok
      rfl
    have hlengths : (putUvarint (UInt64.ofNat name.length) ++ (name ++ content)).length <
        2 ^ 64 := by
      rw [customBytes, List.length_append, List.length_cons, List.length_append] at hfits
      omega
    have hname : name.length < 2 ^ 64 := by
      simp only [List.length_append] at hlengths
      omega
    refine ⟨customSection name content hname hlengths, if_pos rfl, rfl, ?_⟩
    rw [encode_concat, ← hbytes]
    exact hstored

section

variable {Key : Type} {crypto : Crypto Key} {source : Text} {key : Key}

/-- A Rack takes a module from the catalog only for the signature in it, and compiles
what was signed. -/
lemma verifyPayload_eq_ok_iff (hsource : (utf8 "snake://").isPrefixOf source = true)
    (payload : ByteSlice) (result : Bytes) :
    verifyPayload crypto source (crypto.publicKey key) payload = some (.ok result) ↔
      ∃ signature, extractCustomSection payload clusterSection = some (.found signature result) ∧
        signature = crypto.sign key (crypto.sum256 result) := by
  have hkey : ¬ (crypto.publicKey key).length = 0 :=
    fun hzero => crypto.publicKey_ne_nil key (List.length_eq_zero_iff.mp hzero)
  simp only [verifyPayload, if_neg hkey, hsource, if_true]
  cases hextract : extractCustomSection payload clusterSection with
  | none => simp
  | some extraction =>
    cases extraction with
    | found signature stripped =>
      by_cases hverify :
          crypto.verify (crypto.publicKey key) (crypto.sum256 stripped) signature = true
      · have hsigned := (crypto.verify_iff key _ _).mp hverify
        simp only [if_pos hverify, Option.some.injEq, Except.ok.injEq, Extraction.found.injEq]
        constructor
        · intro heq
          rw [← heq]
          exact ⟨signature, ⟨rfl, rfl⟩, hsigned⟩
        · intro hfound
          obtain ⟨_, ⟨_, heq⟩, _⟩ := hfound
          exact heq
      · simp only [if_neg hverify, Option.some.injEq, reduceCtorEq, Extraction.found.injEq,
          false_iff]
        intro hfound
        obtain ⟨_, ⟨hsame, heq⟩, hsigned⟩ := hfound
        rw [← hsame, ← heq] at hsigned
        exact hverify ((crypto.verify_iff key _ _).mpr hsigned)
    | invalidWasm | sectionNotFound | panicked => simp

/-- The module carries no cluster signature, unless its first one is the one that an
appended signature would be and may as well stand at the end of the module. -/
def Signable (crypto : Crypto Key) (key : Key) (sections : List Section) : Prop :=
  ∀ signature others, cutOut clusterSection sections = some (signature, others) →
    signature = crypto.sign key (crypto.sum256 (encode sections)) ∧
      encode others ++ customBytes clusterSection signature = encode sections

/-- An imported module is accepted by a Rack with the same cluster key and compiled as it
was imported exactly if it is `Signable`.  No bytes from the catalog are accepted whose
stripped form that key has not signed. -/
theorem imported_module_runs_iff (crypto : Crypto Key) (manager : CatalogManager Key)
    (around : Surroundings) (allowUnsigned : Bool) (sections : List Section)
    (payload : ByteSlice) (hbytes : payload.bytes = encode sections)
    (key : Key) (hkey : manager.clusterKey = some key) (imported : Imported)
    (himport : importModule crypto manager around payload allowUnsigned = some (.ok imported))
    (source : Text) (hsource : (utf8 "snake://").isPrefixOf source = true) :
    (verifyPayload crypto source (crypto.publicKey key) imported.stored =
      some (.ok payload.bytes) ↔ Signable crypto key sections) ∧
    ∀ bytes result, verifyPayload crypto source (crypto.publicKey key) bytes = some (.ok result) →
        ∃ signature, extractCustomSection bytes clusterSection = some (.found signature result) ∧
          signature = crypto.sign key (crypto.sum256 result) := by
  refine ⟨?_, fun bytes result => (verifyPayload_eq_ok_iff hsource bytes result).mp⟩
  obtain ⟨part, hpart, hcustom, hstored⟩ :=
    appendCustomSection_eq_ok hbytes (importModule_eq_ok hkey himport)
  rw [verifyPayload_eq_ok_iff hsource, extractCustomSection_encode hstored, hbytes]
  cases hcut : cutOut clusterSection sections with
  | none =>
    -- The section found is the one appended.
    have hlast : cutOut clusterSection (sections ++ [part]) =
        some (crypto.sign key (crypto.sum256 payload.bytes), sections) := by
      rw [cutOut_append hcut, cutOut, hpart, Option.map_some, List.append_nil]
    rw [hlast]
    constructor
    · intro _ signature others hother
      rw [hcut] at hother
      cases hother
    · intro _
      exact ⟨_, rfl, by rw [hbytes]⟩
  | some found =>
    obtain ⟨first, others⟩ := found
    -- The section found is one that the module had already.
    have hrest : encode (others ++ [part]) = encode others ++ customBytes clusterSection
          (crypto.sign key (crypto.sum256 payload.bytes)) := by
      rw [encode_concat, hcustom]
    rw [cutOut_append_of_some hcut]
    simp only [hrest, hbytes, Option.some.injEq, Extraction.found.injEq]
    constructor
    · intro haccepted signature kept hother
      obtain ⟨accepted, ⟨hfirst, hresult⟩, hsigned⟩ := haccepted
      rw [hcut] at hother
      cases hother
      have hown := hfirst.trans hsigned
      exact ⟨hown, by rw [hown]; exact hresult⟩
    · intro hsignable
      obtain ⟨hown, hresult⟩ := hsignable first others hcut
      exact ⟨first, ⟨rfl, by rw [← hown]; exact hresult⟩, hown⟩

end

/-- A scheme in which the signature spells out key and digest. -/
def plainCrypto : Crypto Unit where
  sum256 bytes := [UInt8.ofNat bytes.length]
  publicKey _ := [1]
  sign _ digest := 1 :: digest
  verify _ digest signature := decide (signature = 1 :: digest)
  publicKey_ne_nil _ := List.cons_ne_nil 1 []
  verify_iff _ _ _ := decide_eq_true_iff

def plainManager : CatalogManager Unit := ⟨[], some ()⟩

def calm : Surroundings := ⟨fun _ => none, none⟩

/-- A module with a vendor's signature. -/
def vendorSections : List Section :=
  [customSection vendorSection [7] (by decide +kernel) (by decide +kernel)]

def vendorModule : ByteSlice := ⟨encode vendorSections, by decide +kernel⟩

/-- A module that went through an import already. -/
def signedSections : List Section :=
  [customSection clusterSection [7] (by decide +kernel) (by decide +kernel)]

def signedModule : ByteSlice := ⟨encode signedSections, by decide +kernel⟩

/-- The file that an import of the module writes. -/
def storedFor (payload : ByteSlice)
    (hfits : (payload.bytes ++ customBytes clusterSection
      (1 :: plainCrypto.sum256 payload.bytes)).length < 2 ^ 63) : ByteSlice :=
  ⟨payload.bytes ++ customBytes clusterSection (1 :: plainCrypto.sum256 payload.bytes), hfits⟩

def vendorImported : Imported :=
  ⟨hexEncodeToString (plainCrypto.sum256 vendorModule.bytes), utf8 "Untrusted",
    storedFor vendorModule (by decide +kernel)⟩

theorem vendor_module_runs :
    verifyPayload plainCrypto (utf8 "snake://wasm_catalog/1b.wasm") [1] vendorImported.stored =
      some (.ok vendorModule.bytes) := by
  have himport : importModule plainCrypto plainManager calm vendorModule true =
      some (.ok vendorImported) := by
    rfl
  have hsignable : Signable plainCrypto () vendorSections := by
    intro signature others hcut
    have hnone : cutOut clusterSection vendorSections = none := by rfl
    cases hcut
  exact (imported_module_runs_iff plainCrypto plainManager calm true vendorSections
    vendorModule rfl () rfl vendorImported himport (utf8 "snake://wasm_catalog/1b.wasm")
    (by decide +kernel)).1.mpr hsignable

/-- A module that carries a cluster signature is imported and then refused. -/
theorem signed_module_refused :
    ∃ imported, importModule plainCrypto plainManager calm signedModule true =
        some (.ok imported) ∧
      verifyPayload plainCrypto (utf8 "snake://wasm_catalog/24.wasm") (plainCrypto.publicKey ())
        imported.stored = some (.error
          (utf8 "wasm supply chain security violation: invalid cluster signature")) := by
  refine ⟨⟨hexEncodeToString (plainCrypto.sum256 signedModule.bytes), utf8 "Untrusted",
    storedFor signedModule (by decide +kernel)⟩, ?_, ?_⟩
  · rfl
  · rfl

end Fluxrig.Wasm
