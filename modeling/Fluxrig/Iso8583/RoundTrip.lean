import Fluxrig.Iso8583.Clashes

/-!
# Decoding and encoding again

A message decoded into fresh data and encoded again gets the elements it had, for every
behaviour of the message library, exactly if the names of the specification are
unambiguous.  For the one direction every key keeps what was decoded; for the other, names
that clash are met by a message that uses them.
-/

namespace Fluxrig.Iso8583

open Fluxrig.Core Message Sdl

/-- What the message is meant to be set to, with the message type of its metadata. -/
def expected (moov : Moov) (wire : Unpacked) (mti : Text) (id : ℤ) : Option Setting :=
  if id = 0 then lastSetting 0 (moov.setMti mti)
  else if 2 ≤ id ∧ id ≤ 128 then (wire.decoded id.toNat).map moov.setting
  else none

/-- The setters take the values that were unpacked, and the message they make up packs. -/
structure Moov.Inverts (moov : Moov) (wire : Unpacked) (mti : Text) : Prop where
  accepts : ∀ e value, wire.Holds e value → moov.accepts e (moov.setting value) = true
  packs : ∀ sets, (∀ id, lastSetting id sets = expected moov wire mti id) → moov.pack sets ≠ none

/-- Every element from 2 to 128 is set to what was decoded for it, and nothing else is
set but the message type. -/
structure Restores (moov : Moov) (wire : Unpacked) (sets : List (ℤ × Setting)) : Prop where
  every : ∀ i : ℕ, 2 ≤ i → i ≤ 128 → ∀ value, wire.decoded i = some value →
    lastSetting i sets = some (moov.setting value)
  only : ∀ set ∈ sets, set.1 ≠ 0 → ∃ value, wire.Holds set.1 value

/-- Whatever the library, the payload and the order of the aliases, a message that was
decoded into fresh data is encoded as it was.  `sent` may have got metadata in between. -/
def RoundTrips (names : FieldMeta) : Prop :=
  ∀ (moov : Moov) (marks : ℤ → Bool) (order : List (Sigma fun _ : ℤ => Text))
    (msg sent : FluxMsg) (wire : Unpacked) (mti : Text) (fields : List ℕ) (decoded : FluxMsg),
    moov.Marks marks → order.Perm names.aliases.entries → msg.data = some [] →
    moov.unpack msg.rawPayload = some wire →
    decode names moov msg = .ok (mti, fields, decoded) → sent.data = decoded.data →
    moov.Inverts wire (metadataMti sent) →
    ∃ encoded, encode moov order sent = .ok encoded ∧ Restores moov wire encoded.sets

variable {wire : Unpacked} {moov : Moov} {names : FieldMeta} {j : ℕ}

lemma Unpacked.holds_iff {e : ℤ} {value : Value} :
    wire.Holds e value ↔ (2 ≤ e ∧ e ≤ 128) ∧ wire.decoded e.toNat = some value := by
  constructor
  · rintro ⟨i, rfl, hlow, hhigh, hdecoded⟩
    exact ⟨by omega, hdecoded⟩
  · rintro ⟨hrange, hdecoded⟩
    exact ⟨e.toNat, by omega, by omega, by omega, hdecoded⟩

lemma expected_eq_some_iff {mti : Text} {id : ℤ} (hid : id ≠ 0) {setting : Setting} :
    expected moov wire mti id = some setting ↔
      ∃ value, wire.Holds id value ∧ moov.setting value = setting := by
  rw [expected, if_neg hid]
  simp only [Unpacked.holds_iff]
  split
  · rename_i hrange
    simp only [hrange, and_self, true_and, Option.map_eq_some_iff]
  · rename_i hrange
    simp [hrange]

section

variable {names : FieldMeta} {marks : ℤ → Bool} {msg : FluxMsg} {e : ℤ} {value : Value}

lemma get_eq_root (key : Text) : msg.get key = msg.root.get (splitDots key) := rfl

/-- What is carried for an element is found under a key that is read for it. -/
lemma reads_of_carried (hcarried : carried names marks msg e = some value) :
    ∃ path, Reads names e path ∧ msg.root.get path = some value := by
  have hcases : (names.aliasOf e).bind msg.get = some value ∨
      (2 ≤ e ∧ e ≤ 128) ∧ msg.get (rawKey e) = some value := by
    rw [carried] at hcarried
    split at hcarried
    · rcases Option.or_eq_some_iff.mp hcarried with haliased | ⟨-, hraw⟩
      · exact .inl haliased
      · exact .inr (by simpa using hraw)
    · rcases Option.or_eq_some_iff.mp hcarried with hraw | ⟨-, haliased⟩
      · exact .inr (by simpa using hraw)
      · exact .inl haliased
  rcases hcases with haliased | ⟨hrange, hraw⟩
  · obtain ⟨name, hname, hget⟩ := Option.bind_eq_some_iff.mp haliased
    exact ⟨splitDots name, .inl ⟨name, hname, rfl⟩, hget⟩
  · refine ⟨rawPath e, .inr ⟨hrange, rfl⟩, ?_⟩
    rw [← splitDots_rawKey]
    exact hraw

/-- A library can be such that what is found under a given key is what is carried. -/
lemma exists_marks_carried {path : List Text} (hreads : Reads names e path)
    (hget : msg.root.get path = some value) :
    ∃ marked : Bool, carried names (fun _ => marked) msg e = some value := by
  rcases hreads with ⟨name, hname, rfl⟩ | ⟨hrange, rfl⟩
  · refine ⟨true, ?_⟩
    have haliased : (names.aliasOf e).bind msg.get = some value := by
      rw [hname]
      exact hget
    rw [carried, haliased]
    rfl
  · refine ⟨false, ?_⟩
    have hraw : msg.get (rawKey e) = some value := by
      rw [get_eq_root, splitDots_rawKey]
      exact hget
    rw [carried, if_pos hrange, hraw]
    rfl

lemma carried_ne_none {path : List Text} (hreads : Reads names e path)
    (hget : msg.root.get path ≠ none) : carried names marks msg e ≠ none := by
  intro hnone
  have hboth : (names.aliasOf e).bind msg.get = none ∧
      (if 2 ≤ e ∧ e ≤ 128 then msg.get (rawKey e) else none) = none := by
    rw [carried] at hnone
    split at hnone
    · exact Option.or_eq_none_iff.mp hnone
    · exact (Option.or_eq_none_iff.mp hnone).symm
  rcases hreads with ⟨name, hname, rfl⟩ | ⟨hrange, rfl⟩
  · rw [hname] at hboth
    exact hget hboth.1
  · rw [if_pos hrange, get_eq_root, splitDots_rawKey] at hboth
    exact hget hboth.2

end

section

variable {names : FieldMeta} {moov : Moov} {marks : ℤ → Bool}
  {order : List (Sigma fun _ : ℤ => Text)} {wire : Unpacked} {sent : FluxMsg}
  (horder : order.Perm names.aliases.entries)
  (hroot : sent.root = applyCalls (.object []) (writes names moov.tagMap wire))

include hroot

lemma carried_sound (hnames : Unambiguous names) {e : ℤ} (he : e ≠ 0) {value : Value}
    (hcarried : carried names marks sent e = some value) : wire.Holds e value := by
  obtain ⟨path, hreads, hget⟩ := reads_of_carried hcarried
  rw [hroot] at hget
  exact sound_writes hnames he hreads moov.tagMap value hget

/-- Only what was decoded is carried, and all of it. -/
lemma carried_iff (hnames : Unambiguous names) {e : ℤ} (he : e ≠ 0) (value : Value) :
    carried names marks sent e = some value ↔ wire.Holds e value := by
  constructor
  · exact carried_sound hroot hnames he
  · intro hholds
    obtain ⟨path, hreads, hget⟩ := found_writes hnames hholds moov.tagMap
    rw [← hroot] at hget
    have hfound : carried names marks sent e ≠ none := carried_ne_none hreads hget
    obtain ⟨other, hother⟩ := Option.ne_none_iff_exists'.mp hfound
    have hsame := (Unpacked.holds_iff.mp (carried_sound hroot hnames he hother)).2
    rw [(Unpacked.holds_iff.mp hholds).2] at hsame
    rw [hother, hsame]

include horder

lemma lastSetting_eq_expected (hnames : Unambiguous names) (id : ℤ) :
    lastSetting id (moov.setMti (metadataMti sent) ++
        moov.settings (encodeCalls marks order sent)) =
      expected moov wire (metadataMti sent) id := by
  by_cases hid : id = 0
  · subst hid
    rw [lastSetting_append, lastSetting_zero_encodeCalls, Option.none_or, expected, if_pos rfl]
  · rw [lastSetting_append, lastSetting_setMti hid, Option.or_none,
      lastSetting_encodeCalls horder hid]
    apply Option.ext
    intro setting
    rw [expected_eq_some_iff hid, Option.map_eq_some_iff]
    simp only [carried_iff hroot hnames hid]

end

/-- Whatever the encoder sets was decoded. -/
lemma holds_of_mem_encodeCalls {marks : ℤ → Bool} {order : List (Sigma fun _ : ℤ => Text)}
    {sent : FluxMsg} (horder : order.Perm names.aliases.entries)
    (hroot : sent.root = applyCalls (.object []) (writes names moov.tagMap wire))
    (hnames : Unambiguous names) {call : ℤ × Value}
    (hcall : call ∈ encodeCalls marks order sent) : wire.Holds call.1 call.2 := by
  have hid : call.1 ≠ 0 := ne_zero_of_mem_encodeCalls hcall
  have hfound : ∃ path, Reads names call.1 path ∧ sent.root.get path = some call.2 := by
    rcases List.mem_append.mp hcall with haliased | hraw
    · have hget := (mem_aliasCalls_of_perm horder hid).mp haliased
      obtain ⟨name, hname, hvalue⟩ := Option.bind_eq_some_iff.mp hget
      exact ⟨splitDots name, .inl ⟨name, hname, rfl⟩, hvalue⟩
    · obtain ⟨hrange, -, hvalue⟩ := mem_rawCalls_iff.mp hraw
      refine ⟨rawPath call.1, .inr ⟨hrange, rfl⟩, ?_⟩
      rw [← splitDots_rawKey]
      exact hvalue
  obtain ⟨path, hreads, hget⟩ := hfound
  rw [hroot] at hget
  exact sound_writes hnames hid hreads moov.tagMap call.2 hget

lemma root_sent {msg sent decoded : FluxMsg} {mti : Text} {fields : List ℕ}
    (hfresh : msg.data = some []) (hunpack : moov.unpack msg.rawPayload = some wire)
    (hdecode : decode names moov msg = .ok (mti, fields, decoded))
    (hsent : sent.data = decoded.data) :
    sent.root = applyCalls (.object []) (writes names moov.tagMap wire) := by
  calc
    sent.root = decoded.root := by rw [FluxMsg.root, hsent, FluxMsg.root]
    _ = applyCalls msg.root (writes names moov.tagMap wire) := root_decode hunpack hdecode
    _ = applyCalls (.object []) (writes names moov.tagMap wire) := by
      rw [FluxMsg.root, hfresh, Option.getD_some]

lemma roundTrips_of_unambiguous (hnames : Unambiguous names) : RoundTrips names := by
  intro moov marks order msg sent wire mti fields decoded hmarks horder hfresh hunpack
    hdecode hsent hinverts
  have hroot := root_sent hfresh hunpack hdecode hsent
  have hlast := @lastSetting_eq_expected _ _ marks _ _ _ horder hroot hnames
  have haccepts : moov.AcceptsAll (encodeCalls marks order sent) := by
    intro call hcall
    exact hinverts.accepts _ _ (holds_of_mem_encodeCalls horder hroot hnames hcall)
  obtain ⟨payload, hpayload⟩ := Option.ne_none_iff_exists'.mp (hinverts.packs _ hlast)
  refine ⟨⟨_, _, payload⟩, (encode_eq_ok_iff hmarks).mpr ⟨haccepts, rfl, rfl, hpayload⟩, ?_, ?_⟩
  · intro i hlow hhigh value hdecoded
    have hid : (i : ℤ) ≠ 0 := by omega
    rw [hlast, expected_eq_some_iff hid]
    exact ⟨value, ⟨i, rfl, hlow, hhigh, hdecoded⟩, rfl⟩
  · intro set hset hid
    rcases List.mem_append.mp hset with hmti | hcalled
    · exact absurd (lastSetting_setMti hid _) (lastSetting_ne_none hmti)
    · obtain ⟨value, hcall, -⟩ := mem_settings_iff.mp hcalled
      exact ⟨value, holds_of_mem_encodeCalls horder hroot hnames hcall⟩

/-! ## Messages that meet a clash -/

/-- Some elements, each with the same value, subfields with another one, and perhaps an
unknown tag. -/
def sampleWire (present : ℕ → Bool) (subKeys : ℕ → List Text) (unknown : Bool) : Unpacked where
  hasBitmap := true
  isSet := present
  element := fun i =>
    { string := if present i then some (utf8 "A") else none
      bytes := some (utf8 "A")
      shape := plainShape
      subfields :=
        (subKeys i).map fun key => (key, some { plainField "B" with hasSpec := true }) }
  unknownTags := if unknown then [([], some [])] else []

/-- A library that takes everything and prints any other value as `C`. -/
def sampleMoov (marked : Bool) (wire : Unpacked) : Moov where
  unpack := fun _ => some wire
  accepts := fun _ _ => true
  shows := fun sets id => marked && decide (id ∈ sets.map Prod.fst)
  pack := fun _ => some []
  sprint := fun _ => utf8 "C"
  tagMap := fun _ => 0

lemma sampleMoov_marks (marked : Bool) (wire : Unpacked) :
    (sampleMoov marked wire).Marks fun _ => marked := by
  intro sets id
  simp [sampleMoov]

/-- How the library is handed a value. -/
def sampleSetting : Value → Setting
  | .bytes content => .binary content
  | .text content => .text content
  | _ => .text (utf8 "C")

/-- A message decoded into fresh data. -/
def sampleSent (names : FieldMeta) (wire : Unpacked) : FluxMsg :=
  (writes names (fun _ => 0) wire).foldl (fun msg call => (msg.set call.1 call.2).1) FluxMsg.new

lemma root_sampleSent (names : FieldMeta) (wire : Unpacked) : (sampleSent names wire).root =
      applyCalls (.object []) (writes names (fun _ => 0) wire) :=
  root_foldl_set _ _

section

variable {names : FieldMeta} (hround : RoundTrips names) (wire : Unpacked)

include hround

lemma sample_restored (marked : Bool) :
    ∃ encoded, encode (sampleMoov marked wire) names.aliases.entries
        (sampleSent names wire) = .ok encoded ∧
      Restores (sampleMoov marked wire) wire encoded.sets := by
  have hinverts : (sampleMoov marked wire).Inverts wire
      (metadataMti (sampleSent names wire)) := ⟨fun _ _ _ => rfl, fun _ _ => nofun⟩
  have hdecode : decode names (sampleMoov marked wire) FluxMsg.new =
      .ok (decodedMti wire, (List.range 129).filter fun i => (wire.decoded i).isSome,
        sampleSent names wire) := by
    rw [decode]
    change (if _ then _ else _) = _
    rfl
  exact hround _ _ _ _ _ _ _ _ _ (sampleMoov_marks marked wire) (List.Perm.refl _) rfl rfl
    hdecode rfl hinverts

variable {wire} {e : ℤ} (he : e ≠ 0)

include he

/-- What is found for an element was decoded for it. -/
lemma holds_of_found {path : List Text} {value : Value} (hreads : Reads names e path)
    (hget : (sampleSent names wire).root.get path = some value) :
    ∃ decoded, wire.Holds e decoded ∧ sampleSetting value = sampleSetting decoded := by
  obtain ⟨marked, hcarried⟩ := exists_marks_carried hreads hget
  obtain ⟨encoded, hencode, hrestores⟩ := sample_restored hround wire marked
  have hlast := lastSetting_encode (List.Perm.refl _) he (sampleMoov_marks marked _) hencode
  rw [hcarried] at hlast
  obtain ⟨decoded, hholds⟩ := hrestores.only _ (mem_of_lastSetting hlast) he
  refine ⟨decoded, hholds, ?_⟩
  obtain ⟨i, rfl, hlow, hhigh, hdecoded⟩ := hholds
  rw [hrestores.every i hlow hhigh decoded hdecoded] at hlast
  exact (Option.some.inj hlast).symm

/-- What was decoded is found under some key. -/
lemma found_of_holds {value : Value} (hholds : wire.Holds e value) :
    ∃ path, Reads names e path ∧ (sampleSent names wire).root.get path ≠ none := by
  obtain ⟨encoded, hencode, hrestores⟩ := sample_restored hround wire false
  have hlast := lastSetting_encode (List.Perm.refl _) he (sampleMoov_marks false _) hencode
  obtain ⟨i, rfl, hlow, hhigh, hdecoded⟩ := hholds
  rw [hrestores.every i hlow hhigh value hdecoded] at hlast
  obtain ⟨found, hcarried, -⟩ := Option.map_eq_some_iff.mp hlast.symm
  obtain ⟨path, hreads, hget⟩ := reads_of_carried hcarried
  refine ⟨path, hreads, ?_⟩
  rw [hget]
  exact nofun

end

section

variable {present : ℕ → Bool} {subKeys : ℕ → List Text} {unknown : Bool}

lemma found_sampleWire {i : ℕ} (hi : i ≤ 128) (hpresent : present i = true) :
    (sampleWire present subKeys unknown).found i =
      some ((sampleWire present subKeys unknown).element i, .text (utf8 "A")) := by
  have hstored : ((sampleWire present subKeys unknown).element i).stored =
      some (.text (utf8 "A")) := by
    simp only [Element.stored, sampleWire, hpresent, if_true]
    rfl
  have hset : (sampleWire present subKeys unknown).isSet i = true := hpresent
  rw [Unpacked.found, hstored, hset]
  simp [sampleWire, hi]

lemma found_sampleWire_of_absent {i : ℕ} (habsent : present i = false) :
    (sampleWire present subKeys unknown).found i = none := by
  have hstored : ((sampleWire present subKeys unknown).element i).stored = none := by
    simp [Element.stored, sampleWire, habsent]
  rw [Unpacked.found, hstored]
  simp

lemma holds_sampleWire {e : ℤ} {value : Value}
    (hholds : (sampleWire present subKeys unknown).Holds e value) :
    ∃ i : ℕ, e = i ∧ 2 ≤ i ∧ i ≤ 128 ∧ present i = true ∧ value = .text (utf8 "A") := by
  obtain ⟨i, rfl, hlow, hhigh, hdecoded⟩ := hholds
  refine ⟨i, rfl, hlow, hhigh, ?_⟩
  rw [Unpacked.decoded] at hdecoded
  cases hpresent : present i with
  | false =>
    rw [found_sampleWire_of_absent hpresent] at hdecoded
    cases hdecoded
  | true =>
    rw [found_sampleWire hhigh hpresent] at hdecoded
    exact ⟨rfl, (Option.some.inj hdecoded).symm⟩

end

lemma flatMap_range_single {Item : Type*} {f : ℕ → List Item}
    (hother : ∀ i, i ≠ j → f i = []) (bound : ℕ) :
    (List.range bound).flatMap f = if j < bound then f j else [] := by
  induction bound with
  | zero => rfl
  | succ n ih =>
    rw [List.range_succ, List.flatMap_append, ih, List.flatMap_singleton]
    by_cases hj : n = j
    · subst hj
      simp
    · rw [hother n hj, List.append_nil]
      by_cases hlt : j < n
      · rw [if_pos hlt, if_pos (by omega)]
      · rw [if_neg hlt, if_neg (by omega)]

/-- The calls for a message with one element. -/
lemma writes_single (names : FieldMeta) (hj : j ≤ 128) (subKeys : List Text) :
    writes names (fun _ => 0) (sampleWire (fun i => i = j) (fun _ => subKeys) false) =
      headWrites names j (.text (utf8 "A")) ++ (subKeys.map fun key =>
          (key, some { plainField "B" with hasSpec := true })).flatMap (subWrites names j) := by
  have hother : ∀ i, i ≠ j → elementWrites names
      (sampleWire (fun i => i = j) (fun _ => subKeys) false) i = [] := by
    intro i hi
    rw [elementWrites, found_sampleWire_of_absent (by simpa using hi)]
  rw [writes, flatMap_range_single hother, if_pos (by omega),
    elementWrites_of_found (found_sampleWire hj (by simp))]
  exact List.append_nil _

lemma writes_tags (names : FieldMeta) :
    writes names (fun _ => 0) (sampleWire (fun _ => false) (fun _ => []) true) =
      [(unknownTagsKey, .other 0)] := by
  have hnone : (List.range 129).flatMap
      (elementWrites names (sampleWire (fun _ => false) (fun _ => []) true)) = [] := by
    rw [List.flatMap_eq_nil_iff]
    intro i _
    rw [elementWrites, found_sampleWire_of_absent rfl]
  rw [writes, hnone]
  rfl

lemma subWrites_named {tag name : Text} (hname : names.subAlias j tag = some name) :
    subWrites names j (tag, some { plainField "B" with hasSpec := true }) =
      [(rawSubKey j tag, .text (utf8 "B")), (name, .text (utf8 "B"))] := by
  have hvalue : (some { plainField "B" with hasSpec := true }).bind SubField.extracted =
      some (.text (utf8 "B")) := rfl
  rw [subWrites, hvalue]
  simp [hname]

/-! ## Names without a clash -/

section

variable {names : FieldMeta} (hround : RoundTrips names)

include hround

variable {e : ℤ}

/-- The message with the one element whose key is met. -/
lemma apart_of_roundTrips (he : e ≠ 0) {path : List Text} (hreads : Reads names e path)
    {j : ℕ} (hj : j ≤ 128) {key : List Text} (hover : ¬ Over names j key)
    (hkey : OwnKey names j key ∧ ¬ ((j : ℤ) = e ∧ 2 ≤ e ∧ e ≤ 128) ∨ SubKey names j key) :
    ¬ path <+: key := by
  intro hstart
  have hnotOwn : ∀ {call : Text × Value}, call ∈ headWrites names j (.text (utf8 "A")) →
      ¬ Value.Below (splitDots call.1) key := by
    intro call hcall hbelow
    exact hover ⟨_, (mem_headWrites_iff.mp hcall).1, hbelow⟩
  have hleaves : Leaves (headWrites names j (.text (utf8 "A"))) := by
    intro call hcall
    rw [(mem_headWrites_iff.mp hcall).2]
    rfl
  rcases hkey with ⟨hown, hforeign⟩ | ⟨tag, name, hname, rfl⟩
  · have hroot := root_sampleSent names (sampleWire (fun i => i = j) (fun _ => []) false)
    rw [writes_single names hj, List.map_nil, List.flatMap_nil, List.append_nil] at hroot
    obtain ⟨call, hcall, hsame⟩ : ∃ call ∈ headWrites names j (.text (utf8 "A")),
        splitDots call.1 = key := exists_headWrites hown
    have hfound := get_of_mem rfl hleaves (Value.open_empty key) (fun _ => hnotOwn) hcall hsame
    obtain ⟨leaf, hleaf⟩ := Option.ne_none_iff_exists'.mp hfound
    rw [← hroot] at hleaf
    obtain ⟨inner, hinner, -⟩ := Value.get_of_start hleaf hstart hreads.ne_nil
    obtain ⟨decoded, hholds, -⟩ := holds_of_found hround he hreads hinner
    obtain ⟨i, rfl, hlow, hhigh, hpresent, -⟩ := holds_sampleWire hholds
    have hi : i = j := by simpa using hpresent
    exact hforeign ⟨by rw [hi], by omega, by omega⟩
  · have hroot := root_sampleSent names (sampleWire (fun i => i = j) (fun _ => [tag]) false)
    rw [writes_single names hj, List.map_singleton, List.flatMap_singleton,
      subWrites_named hname] at hroot
    have hleaf : (sampleSent names
        (sampleWire (fun i => i = j) (fun _ => [tag]) false)).root.get (splitDots name) =
          some (.text (utf8 "B")) := by
      rw [hroot, applyCalls_append, applyCalls_cons]
      have hmap : (applyCalls (.object []) (headWrites names j (.text (utf8 "A")))).isMap = true :=
        isMap_applyCalls
      apply Value.get_write_self (Value.isMap_write.trans hmap) (splitDots_ne_nil _)
      apply Value.open_write hmap (splitDots_ne_nil _) rfl
      · exact open_applyCalls rfl hleaves (fun _ => hnotOwn) (Value.open_empty _)
      · intro hbelow
        exact hover ⟨_, .inl rfl, hbelow.of_start (below_rawSubKey j tag).1⟩
    obtain ⟨inner, hinner, hshape⟩ := Value.get_of_start hleaf hstart hreads.ne_nil
    obtain ⟨decoded, hholds, hsetting⟩ := holds_of_found hround he hreads hinner
    obtain ⟨i, -, -, -, -, rfl⟩ := holds_sampleWire hholds
    rcases hshape with hmap | rfl
    · have hprinted : Setting.text (utf8 "C") ≠ .text (utf8 "A") := by decide
      cases inner with
      | object | table => exact hprinted hsetting
      | _ => nomatch hmap
    · exact absurd hsetting (by decide)

lemma tags_of_roundTrips (he : e ≠ 0) {path : List Text} (hreads : Reads names e path) :
    ¬ path <+: tagsPath := by
  intro hstart
  have hleaf : (sampleSent names (sampleWire (fun _ => false) (fun _ => []) true)).root.get
      tagsPath = some (.other 0) := by
    rw [root_sampleSent, writes_tags]
    exact Value.get_write_self rfl (splitDots_ne_nil _) (Value.open_empty _)
  obtain ⟨inner, hinner, -⟩ := Value.get_of_start hleaf hstart hreads.ne_nil
  obtain ⟨decoded, hholds, -⟩ := holds_of_found hround he hreads hinner
  obtain ⟨i, -, -, -, hpresent, -⟩ := holds_sampleWire hholds
  nomatch hpresent

/-- The message with everything that the names are for. -/
lemma safe_of_roundTrips (hlow : 2 ≤ e) (hhigh : e ≤ 128) :
    ∃ path, Reads names e path ∧ ∀ key, Written names key → ¬ Value.Below key path := by
  let subKeys := fun i : ℕ => ((names.subAliases.lookup (i : ℤ)).map AList.keys).getD []
  have hholds : (sampleWire (fun _ => true) subKeys true).Holds e (.text (utf8 "A")) := by
    refine ⟨e.toNat, by omega, by omega, by omega, ?_⟩
    rw [Unpacked.decoded, found_sampleWire (by omega) rfl]
    rfl
  obtain ⟨path, hreads, hfound⟩ := found_of_holds hround (by omega) hholds
  refine ⟨path, hreads, ?_⟩
  intro key hwritten hbelow
  rw [root_sampleSent] at hfound
  have hcalled : ∃ call ∈ writes names (fun _ => 0) (sampleWire (fun _ => true) subKeys true),
      splitDots call.1 = key := by
    rcases hwritten with ⟨j, hj, hown | ⟨tag, name, hname, rfl⟩⟩ | rfl
    · obtain ⟨call, hcall, hsame⟩ := @exists_headWrites names j (.text (utf8 "A")) key hown
      refine ⟨call, mem_writes_of_element names _ hj ?_, hsame⟩
      rw [elementWrites_of_found (found_sampleWire hj rfl)]
      exact List.mem_append_left _ hcall
    · refine ⟨(name, .text (utf8 "B")), mem_writes_of_element names _ hj ?_, rfl⟩
      rw [elementWrites_of_found (found_sampleWire hj rfl)]
      apply List.mem_append_right
      obtain ⟨subs, hsubs, hlookup⟩ := Option.bind_eq_some_iff.mp hname
      have htag : tag ∈ subKeys j := by
        change tag ∈ ((names.subAliases.lookup (j : ℤ)).map AList.keys).getD []
        rw [hsubs, Option.map_some, Option.getD_some, ← AList.mem_keys, ← AList.lookup_isSome,
          hlookup]
        rfl
      refine List.mem_flatMap.mpr ⟨_, List.mem_map.mpr ⟨tag, htag, rfl⟩, ?_⟩
      rw [subWrites_named hname]
      exact List.mem_cons_of_mem _ List.mem_cons_self
    · exact ⟨(unknownTagsKey, .other 0), List.mem_append_right _ List.mem_cons_self, rfl⟩
  obtain ⟨call, hcall, rfl⟩ := hcalled
  exact hfound (Value.get_of_not_open
    (not_open_of_mem rfl (leaves_writes names _ _) hcall hbelow))

end

/-- Messages survive decoding and encoding exactly if the names of the document are
unambiguous. -/
theorem roundTrips_iff (spec : Spec) :
    RoundTrips (fieldMeta spec) ↔ Unambiguous (fieldMeta spec) := by
  constructor
  · intro hround
    exact
      { apart := fun e he path hreads j hj key hover hkey =>
          apart_of_roundTrips hround he hreads hj hover hkey
        tags := fun e he path hreads => tags_of_roundTrips hround he hreads
        safe := fun e hlow hhigh => safe_of_roundTrips hround hlow hhigh }
  · exact roundTrips_of_unambiguous

/-! ## One name for two elements -/

def namedField (name : String) : Field where
  aliasName := utf8 name
  sensitivity := []
  logMask := none
  valuesRef := []
  validValues := none
  kind := []
  currencyField := none
  parts := []
  messages := []

/-- Elements 2 and 3 have the same name. -/
def twinSpec : Spec where
  catalog := ∅
  enums := ∅
  fields := (AList.singleton 3 (namedField "x")).insert 2 (namedField "x")
  checks := []
  dimensions := []
  histograms := []
  defaults := ∅
  templates := ∅
  mix := []

/-- A message 0100 with element 3 only. -/
def thirdWire : Unpacked where
  hasBitmap := true
  isSet := fun i => i = 3
  element := fun i =>
    if i = 3 then { plainField "000000" with subfields := [] }
    else { plainField "0100" with subfields := [] }
  unknownTags := []

def thirdSets : List (ℤ × Setting) :=
  [(3, .text (utf8 "000000")), (2, .text (utf8 "000000")), (3, .text (utf8 "000000"))]

/-- The document is accepted.  Encoding a message that was decoded with element 3 also
sets element 2. -/
theorem twin_sets_both : resolveReferences twinSpec = .ok () ∧
      decode (fieldMeta twinSpec) (sampleMoov false thirdWire) FluxMsg.new =
        .ok (utf8 "0100", [0, 3], sampleSent (fieldMeta twinSpec) thirdWire) ∧
      encode (sampleMoov false thirdWire) (fieldMeta twinSpec).aliases.entries
          (sampleSent (fieldMeta twinSpec) thirdWire) = .ok ⟨[], thirdSets, []⟩ ∧
      thirdWire.decoded 2 = none ∧ ¬ RoundTrips (fieldMeta twinSpec) := by
  have hsets : (sampleMoov false thirdWire).settings
      (encodeCalls (fun _ => false) (fieldMeta twinSpec).aliases.entries
        (sampleSent (fieldMeta twinSpec) thirdWire)) = thirdSets := by decide +kernel
  have hencode : encode (sampleMoov false thirdWire) (fieldMeta twinSpec).aliases.entries
      (sampleSent (fieldMeta twinSpec) thirdWire) = .ok ⟨[], thirdSets, []⟩ := by
    rw [encode_eq_ok_iff (sampleMoov_marks false thirdWire), hsets]
    exact ⟨fun _ _ => rfl, by decide +kernel, by decide +kernel, rfl⟩
  refine ⟨rfl, rfl, hencode, rfl, ?_⟩
  intro hround
  obtain ⟨encoded, hother, hrestores⟩ := sample_restored hround thirdWire false
  obtain rfl := Except.ok.inj (hencode.symm.trans hother)
  have hmem : (2, .text (utf8 "000000")) ∈ thirdSets := List.mem_cons_of_mem _ List.mem_cons_self
  obtain ⟨value, hholds⟩ := hrestores.only _ hmem (by decide)
  obtain ⟨-, hdecoded⟩ := Unpacked.holds_iff.mp hholds
  nomatch hdecoded

end Fluxrig.Iso8583
