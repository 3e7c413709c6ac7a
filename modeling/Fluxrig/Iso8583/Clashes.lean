import Fluxrig.Iso8583.Setters
import Fluxrig.Iso8583.Subfields

/-!
# Keys that clash

The elements of a message share one nested map with the names that the specification gives
them and their subfields.  `Unambiguous` says of these names alone that whatever is decoded,
the encoder finds under the keys of an element that element and nothing else.
-/

namespace Fluxrig.Iso8583

open Fluxrig.Core Message Sdl

section

variable (names : FieldMeta)

/-- The keys that an element is written under. -/
def OwnKey (j : ℤ) (key : List Text) : Prop :=
  key = rawPath j ∨ ∃ name, names.aliasOf j = some name ∧ key = splitDots name

/-- The names of the subfields of an element. -/
def SubKey (j : ℤ) (key : List Text) : Prop :=
  ∃ tag name, names.subAlias j tag = some name ∧ key = splitDots name

/-- A key of the element itself is above the path, so that nothing can be there once the
element is written. -/
def Over (j : ℤ) (path : List Text) : Prop :=
  ∃ own, OwnKey names j own ∧ Value.Below own path

def tagsPath : List Text := splitDots unknownTagsKey

/-- The keys that a message may be decoded to. -/
def Written (key : List Text) : Prop :=
  (∃ j : ℕ, j ≤ 128 ∧ (OwnKey names j key ∨ SubKey names j key)) ∨ key = tagsPath

/-- The keys that the encoder looks up for an element. -/
def Reads (e : ℤ) (path : List Text) : Prop :=
  (∃ name, names.aliasOf e = some name ∧ path = splitDots name) ∨
    (2 ≤ e ∧ e ≤ 128) ∧ path = rawPath e

/-- No key that the encoder looks up leads to what is left of another element, of one that
is not encoded, of a subfield or of the unknown tags.  Each element that is encoded has a
key with no other above it. -/
structure Unambiguous : Prop where
  apart : ∀ e ≠ 0, ∀ path, Reads names e path →
    ∀ j : ℕ, j ≤ 128 → ∀ key, ¬ Over names j key →
      OwnKey names j key ∧ ¬ ((j : ℤ) = e ∧ 2 ≤ e ∧ e ≤ 128) ∨ SubKey names j key → ¬ path <+: key
  tags : ∀ e ≠ 0, ∀ path, Reads names e path → ¬ path <+: tagsPath
  safe : ∀ e, 2 ≤ e → e ≤ 128 →
    ∃ path, Reads names e path ∧ ∀ key, Written names key → ¬ Value.Below key path

end

lemma Reads.ne_nil {names : FieldMeta} {e : ℤ} {path : List Text} (hreads : Reads names e path) :
    path ≠ [] := by
  rcases hreads with ⟨name, -, rfl⟩ | ⟨-, rfl⟩
  · exact splitDots_ne_nil name
  · exact List.cons_ne_nil _ _

section

variable {names : FieldMeta} {wire : Unpacked} {call : Text × Value}

lemma mem_subWrites {i : ℕ} {entry : Text × Option SubField}
    (hcall : call ∈ subWrites names i entry) :
    call.1 = rawSubKey i entry.1 ∨ SubKey names i (splitDots call.1) := by
  rw [subWrites] at hcall
  split at hcall
  · cases hcall
  · rcases List.mem_cons.mp hcall with rfl | hnamed
    · exact .inl rfl
    · obtain ⟨name, hname, rfl⟩ := List.mem_map.mp hnamed
      exact .inr ⟨entry.1, name, Option.mem_toList.mp hname, rfl⟩

/-- The calls for an element itself. -/
def headWrites (names : FieldMeta) (i : ℕ) (stored : Value) : List (Text × Value) :=
  (names.aliasOf i).toList.map (fun aliasName => (aliasName, stored)) ++ [(rawKey i, stored)]

lemma elementWrites_of_found {i : ℕ} {element : Element} {stored : Value}
    (hfound : wire.found i = some (element, stored)) :
    elementWrites names wire i =
      headWrites names i stored ++ element.subfields.flatMap (subWrites names i) := by
  rw [elementWrites, hfound, headWrites, List.append_assoc]
  rfl

lemma mem_headWrites_iff {i : ℕ} {stored : Value} : call ∈ headWrites names i stored ↔
      OwnKey names i (splitDots call.1) ∧ call.2 = stored := by
  rw [headWrites, List.mem_append, List.mem_map, List.mem_singleton, OwnKey, ← splitDots_rawKey]
  constructor
  · rintro (⟨name, hname, rfl⟩ | rfl)
    · exact ⟨.inr ⟨name, Option.mem_toList.mp hname, rfl⟩, rfl⟩
    · exact ⟨.inl rfl, rfl⟩
  · rintro ⟨hraw | ⟨name, hname, hsame⟩, rfl⟩
    · exact .inr (Prod.ext (splitDots_injective hraw) rfl)
    · exact .inl ⟨name, Option.mem_toList.mpr hname, Prod.ext (splitDots_injective hsame).symm rfl⟩

lemma exists_headWrites {i : ℕ} {stored : Value} {key : List Text} (hown : OwnKey names i key) :
    ∃ call ∈ headWrites names i stored, splitDots call.1 = key := by
  have hname : ∃ name, splitDots name = key := by
    rcases hown with rfl | ⟨name, -, rfl⟩
    · exact ⟨rawKey i, splitDots_rawKey i⟩
    · exact ⟨name, rfl⟩
  obtain ⟨name, rfl⟩ := hname
  exact ⟨(name, stored), mem_headWrites_iff.mpr ⟨hown, rfl⟩, rfl⟩

lemma mem_elementWrites {i : ℕ} (hcall : call ∈ elementWrites names wire i) :
    OwnKey names i (splitDots call.1) ∨ (∃ tag, call.1 = rawSubKey i tag) ∨
      SubKey names i (splitDots call.1) := by
  cases hfound : wire.found i with
  | none =>
    rw [elementWrites, hfound] at hcall
    cases hcall
  | some =>
    rw [elementWrites_of_found hfound, List.mem_append] at hcall
    rcases hcall with hhead | hsub
    · exact .inl (mem_headWrites_iff.mp hhead).1
    · obtain ⟨entry, -, hentry⟩ := List.mem_flatMap.mp hsub
      rcases mem_subWrites hentry with hraw | hnamed
      · exact .inr (.inl ⟨entry.1, hraw⟩)
      · exact .inr (.inr hnamed)

/-- Every call is for a key of `Written` or below one. -/
lemma written_of_mem_writes {tagMap : List (Text × Text) → ℕ}
    (hcall : call ∈ writes names tagMap wire) :
    ∃ key, Written names key ∧ key <+: splitDots call.1 := by
  rcases List.mem_append.mp hcall with helement | htags
  · obtain ⟨i, hi, hcalled⟩ := List.mem_flatMap.mp helement
    have hle : i ≤ 128 := by
      have hlt := List.mem_range.mp hi
      omega
    rcases mem_elementWrites hcalled with hown | ⟨tag, hraw⟩ | hsub
    · exact ⟨_, .inl ⟨i, hle, .inl hown⟩, List.prefix_rfl⟩
    · refine ⟨rawPath i, .inl ⟨i, hle, .inl (.inl rfl)⟩, ?_⟩
      rw [hraw]
      exact (below_rawSubKey i tag).1
    · exact ⟨_, .inl ⟨i, hle, .inr hsub⟩, List.prefix_rfl⟩
  · rw [tagWrites] at htags
    split at htags
    · rw [List.mem_singleton.mp htags]
      exact ⟨tagsPath, .inr rfl, List.prefix_rfl⟩
    · cases htags

end

/-- The value was decoded for an element that is encoded. -/
def Unpacked.Holds (wire : Unpacked) (e : ℤ) (value : Value) : Prop :=
  ∃ i : ℕ, e = i ∧ 2 ≤ i ∧ i ≤ 128 ∧ wire.decoded i = some value

/-- What is found for an element was decoded for it. -/
def Sound (wire : Unpacked) (e : ℤ) (path : List Text) (root : Value) : Prop :=
  ∀ value, root.get path = some value → wire.Holds e value

section

variable {wire : Unpacked} {e : ℤ} {path key : List Text} {root item : Value}

lemma Sound.of_not_open (hshut : ¬ root.Open path) : Sound wire e path root := by
  intro value hvalue
  rw [Value.get_of_not_open hshut] at hvalue
  nomatch hvalue

lemma Sound.write (hsound : Sound wire e path root) (hmap : root.isMap = true)
    (hkey : key ≠ []) (hitem : item.isMap = false) (hnot : ¬ path <+: key) :
    Sound wire e path (root.write key item) := by
  intro value hvalue
  rcases Value.get_write_other hmap hkey hitem hnot with hsame | hnone
  · exact hsound value (hsame ▸ hvalue)
  · rw [hnone] at hvalue
    nomatch hvalue

end

section

variable {names : FieldMeta} {wire : Unpacked} {e : ℤ} {path : List Text} {root : Value}
  {j : ℕ} {element : Element} {stored : Value}

lemma not_over_alias {name : Text} (hname : names.aliasOf j = some name)
    (hraw : ¬ Value.Below (rawPath j) (splitDots name)) : ¬ Over names j (splitDots name) := by
  rintro ⟨own, rfl | ⟨other, hother, rfl⟩, hbelow⟩
  · exact hraw hbelow
  · cases hname.symm.trans hother
    exact hbelow.2 rfl

lemma not_over_raw
    (hnamed : ∀ name, names.aliasOf j = some name → ¬ Value.Below (splitDots name) (rawPath j)) :
    ¬ Over names j (rawPath j) := by
  rintro ⟨own, rfl | ⟨name, hname, rfl⟩, hbelow⟩
  · exact hbelow.2 rfl
  · exact hnamed name hname hbelow

section

variable (hmap : root.isMap = true) (hleaf : stored.isMap = false)
  (hleft : ∀ key, ¬ Over names j key → OwnKey names j key → ¬ path <+: key)

include hmap hleaf hleft

/-- An element leaves what is found for others.  Between its two writes something may
appear on the way to its alias, which the raw key then replaces. -/
lemma Sound.headWrites_of_apart (hsound : Sound wire e path root) :
    Sound wire e path (applyCalls root (headWrites names j stored)) := by
  have hraw : rawPath j ≠ [] := List.cons_ne_nil _ _
  rw [headWrites]
  cases hname : names.aliasOf j with
  | none =>
    have hnot : ¬ path <+: rawPath j := hleft _ (not_over_raw (by simp [hname])) (.inl rfl)
    have hafter := hsound.write hmap hraw hleaf hnot
    rw [← splitDots_rawKey] at hafter
    exact hafter
  | some name =>
    have hpath : splitDots name ≠ [] := splitDots_ne_nil name
    have hmap' : (root.write (splitDots name) stored).isMap = true := Value.isMap_write.trans hmap
    have hcalls : applyCalls root
        ((some name).toList.map (fun aliasName => (aliasName, stored)) ++ [(rawKey j, stored)]) =
          (root.write (splitDots name) stored).write (rawPath j) stored := by
      rw [← splitDots_rawKey]
      rfl
    rw [hcalls]
    by_cases habove : Value.Below (splitDots name) (rawPath j)
    · have hnot : ¬ path <+: splitDots name := by
        apply hleft _ (not_over_alias hname _) (.inr ⟨name, hname, rfl⟩)
        exact fun hbelow => habove.not_start hbelow.1
      rw [Value.write_of_not_open hraw (Value.not_open_write_below hmap hpath hleaf habove)]
      exact hsound.write hmap hpath hleaf hnot
    · have hnotRaw : ¬ path <+: rawPath j := by
        apply hleft _ (not_over_raw _) (.inl rfl)
        intro other hother
        cases hname.symm.trans hother
        exact habove
      by_cases hstart : path <+: splitDots name
      · have hbelow : Value.Below (rawPath j) (splitDots name) := by
          by_contra hnone
          exact hleft _ (not_over_alias hname hnone) (.inr ⟨name, hname, rfl⟩) hstart
        rcases Value.start_or_below hstart hbelow.1 with hup | hdown
        · exact absurd hup hnotRaw
        · exact Sound.of_not_open (Value.not_open_write_below hmap' hraw hleaf hdown)
      · exact (hsound.write hmap hpath hleaf hstart).write hmap' hraw hleaf hnotRaw

end

/-- Under a key of its own an element is found as it was decoded, or not at all. -/
lemma get_headWrites (hmap : root.isMap = true) (hleaf : stored.isMap = false)
    (hown : OwnKey names j path) :
    (applyCalls root (headWrites names j stored)).get path = some stored ∨
      (applyCalls root (headWrites names j stored)).get path = none := by
  have hraw : rawPath j ≠ [] := List.cons_ne_nil _ _
  have hlast : ∀ {before : Value} {key : List Text}, before.isMap = true → key ≠ [] →
      (before.write key stored).get key = some stored ∨
        (before.write key stored).get key = none := by
    intro before key hbefore hkey
    exact (Value.get_write_or hbefore hkey stored).imp_right Value.get_of_not_open
  have hcalls : applyCalls root (headWrites names j stored) =
      (applyCalls root ((names.aliasOf j).toList.map fun aliasName => (aliasName, stored))).write
        (rawPath j) stored := by
    rw [headWrites, applyCalls_append, ← splitDots_rawKey]
    rfl
  rw [hcalls]
  rcases hown with rfl | ⟨name, hname, rfl⟩
  · exact hlast (isMap_applyCalls.trans hmap) hraw
  · have hpath : splitDots name ≠ [] := splitDots_ne_nil name
    have hmap' : (root.write (splitDots name) stored).isMap = true := Value.isMap_write.trans hmap
    rw [hname]
    change ((root.write (splitDots name) stored).write (rawPath j) stored).get _ = _ ∨
      ((root.write (splitDots name) stored).write (rawPath j) stored).get _ = _
    by_cases hsame : splitDots name = rawPath j
    · rw [← hsame]
      exact hlast hmap' hpath
    · by_cases hstart : splitDots name <+: rawPath j
      · rw [Value.write_of_not_open hraw
          (Value.not_open_write_below hmap hpath hleaf ⟨hstart, hsame⟩)]
        exact hlast hmap hpath
      · rcases Value.get_write_other hmap' hraw hleaf hstart with hkept | hnone
        · rw [hkept]
          exact hlast hmap hpath
        · exact .inr hnone

end

section

variable {names : FieldMeta} {wire : Unpacked} {e : ℤ} {path : List Text} {root : Value}

lemma Reads.ownKey (hreads : Reads names e path) : OwnKey names e path := by
  rcases hreads with hnamed | ⟨-, hraw⟩
  · exact .inr hnamed
  · exact .inl hraw

/-- Calls that are lost or lead elsewhere. -/
lemma Sound.applyCalls {calls : List (Text × Value)} (hmap : root.isMap = true)
    (hleaves : Leaves calls)
    (hcalls : ∀ call ∈ calls, ¬ root.Open (splitDots call.1) ∨ ¬ path <+: splitDots call.1)
    (hsound : Sound wire e path root) :
    Sound wire e path (applyCalls root calls) := by
  induction calls generalizing root with
  | nil => exact hsound
  | cons call _ ih =>
    obtain ⟨hcall, hrest⟩ := List.forall_mem_cons.mp hcalls
    obtain ⟨hleaf, hlater⟩ := List.forall_mem_cons.mp hleaves
    have hkey : splitDots call.1 ≠ [] := splitDots_ne_nil _
    apply ih (Value.isMap_write.trans hmap) hlater
    · intro later hmem
      exact (hrest later hmem).imp_left (Value.not_open_write hmap hkey hleaf)
    · rcases hcall with hshut | hnot
      · rw [Value.write_of_not_open hkey hshut]
        exact hsound
      · exact hsound.write hmap hkey hleaf hnot

variable (hnames : Unambiguous names) (he : e ≠ 0) (hreads : Reads names e path)

include hnames he hreads

/-- One element of a message: its own key holds what was decoded, and those of the others
are left alone. -/
lemma Sound.elementWrites {j : ℕ} (hj : j ≤ 128) (hmap : root.isMap = true)
    (hsound : Sound wire e path root) :
    Sound wire e path (Iso8583.applyCalls root (elementWrites names wire j)) := by
  cases hfound : wire.found j with
  | none =>
    rw [Iso8583.elementWrites, hfound]
    exact hsound
  | some pair =>
    have hleaf : pair.2.isMap = false := Unpacked.isMap_found hfound
    have hhead : Sound wire e path (Iso8583.applyCalls root (headWrites names j pair.2)) := by
      by_cases hself : (j : ℤ) = e ∧ 2 ≤ e ∧ e ≤ 128
      · obtain ⟨rfl, hlow, -⟩ := hself
        have hholds : wire.Holds j pair.2 := by
          refine ⟨j, rfl, by omega, hj, ?_⟩
          rw [Unpacked.decoded, hfound]
          rfl
        intro value hvalue
        rcases get_headWrites hmap hleaf hreads.ownKey with hget | hget
        · rw [hget] at hvalue
          exact Option.some.inj hvalue ▸ hholds
        · rw [hget] at hvalue
          cases hvalue
      · apply Sound.headWrites_of_apart hmap hleaf _ hsound
        intro key hover hown
        exact hnames.apart e he path hreads j hj key hover (.inl ⟨hown, hself⟩)
    have hleaves := leaves_elementWrites names wire j
    rw [elementWrites_of_found hfound] at hleaves ⊢
    obtain ⟨hleavesHead, hleavesSub⟩ := List.forall_mem_append.mp hleaves
    rw [applyCalls_append]
    apply Sound.applyCalls (isMap_applyCalls.trans hmap) hleavesSub _ hhead
    -- An own key that was tried shuts what is below it, the raw subfields in particular.
    have hshut : ∀ {key}, Over names j key →
        ¬ (Iso8583.applyCalls root (headWrites names j pair.2)).Open key := by
      rintro key ⟨own, hown, hbelow⟩
      obtain ⟨call, hcall, rfl⟩ := exists_headWrites hown
      exact not_open_of_mem hmap hleavesHead hcall hbelow
    intro call hcall
    obtain ⟨entry, -, hentry⟩ := List.mem_flatMap.mp hcall
    rcases mem_subWrites hentry with hraw | hnamed
    · left
      rw [hraw]
      exact hshut ⟨rawPath j, .inl rfl, below_rawSubKey j entry.1⟩
    · by_cases hover : Over names j (splitDots call.1)
      · exact .inl (hshut hover)
      · exact .inr (hnames.apart e he path hreads j hj _ hover (.inr hnamed))

lemma Sound.elements {visited : List ℕ} (hvisited : ∀ j ∈ visited, j ≤ 128)
    (hmap : root.isMap = true) (hsound : Sound wire e path root) :
    Sound wire e path
      (Iso8583.applyCalls root (visited.flatMap (Iso8583.elementWrites names wire))) := by
  induction visited generalizing root with
  | nil => exact hsound
  | cons _ _ ih =>
    obtain ⟨hj, hrest⟩ := List.forall_mem_cons.mp hvisited
    rw [List.flatMap_cons, applyCalls_append]
    exact ih hrest (isMap_applyCalls.trans hmap) (hsound.elementWrites hnames he hreads hj hmap)

/-- Whatever is decoded into an empty message, what the encoder finds for an element was
decoded for it. -/
lemma sound_writes (tagMap : List (Text × Text) → ℕ) : Sound wire e path
      (Iso8583.applyCalls (.object []) (writes names tagMap wire)) := by
  have hstart : Sound wire e path (.object []) := by
    intro value hvalue
    rw [Value.get_empty] at hvalue
    cases hvalue
  have hrange : ∀ j ∈ List.range 129, j ≤ 128 := by
    intro j hj
    have hlt := List.mem_range.mp hj
    omega
  rw [writes, applyCalls_append]
  apply Sound.applyCalls (isMap_applyCalls.trans rfl) (leaves_tagWrites wire tagMap)
  · intro call hcall
    right
    rw [tagWrites] at hcall
    split at hcall
    · rw [List.mem_singleton.mp hcall]
      exact hnames.tags e he path hreads
    · cases hcall
  · exact hstart.elements hnames he hreads hrange rfl

end

/-- An element that is encoded is found under some key of its own. -/
lemma found_writes {names : FieldMeta} {wire : Unpacked} (hnames : Unambiguous names)
    {e : ℤ} {value : Value} (hholds : wire.Holds e value) (tagMap : List (Text × Text) → ℕ) :
    ∃ path, Reads names e path ∧
      (applyCalls (.object []) (writes names tagMap wire)).get path ≠ none := by
  obtain ⟨i, rfl, hlow, hhigh, hdecoded⟩ := hholds
  obtain ⟨path, hreads, hsafe⟩ := hnames.safe i (by omega) (by omega)
  obtain ⟨pair, hfound, rfl⟩ := Option.map_eq_some_iff.mp hdecoded
  obtain ⟨call, hhead, hkey⟩ := @exists_headWrites names i pair.2 path hreads.ownKey
  have hcall : call ∈ writes names tagMap wire := by
    apply mem_writes_of_element names wire hhigh
    rw [elementWrites_of_found hfound]
    exact List.mem_append_left _ hhead
  refine ⟨path, hreads, ?_⟩
  apply get_of_mem rfl (leaves_writes names wire tagMap) (Value.open_empty path) _ hcall hkey
  intro call hmem hbelow
  obtain ⟨upper, hwritten, hstart⟩ := written_of_mem_writes hmem
  exact hsafe upper hwritten (hbelow.of_start hstart)

end Fluxrig.Iso8583
