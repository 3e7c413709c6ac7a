import Fluxrig.Core.Maps
import Fluxrig.Iso8583.Codec
import Fluxrig.Message.Runes

/-!
# The version index

A manager files artefacts by kind, name and tag.  The index is kept in memory and in a
JSON file that several managers share: an update merges the two, with the file winning,
and writes the result back.  JSON has no place for bytes that are not UTF-8; a name that
holds such bytes comes back from the file with replacement runes in their place, and two
names may come back as one.
-/

namespace Fluxrig.Manager

open Fluxrig.Core Message
open Iso8583 (validString)

/-- The hashes under the tags of one name. -/
abbrev Tags := AList fun _ : Text => Text

abbrev Artifacts := AList fun _ : Text => Tags

inductive Kind where
  | spec
  | scenario
  deriving DecidableEq

structure Index where
  specs : Artifacts
  scenarios : Artifacts

namespace Index

def empty : Index := ⟨∅, ∅⟩

def artifacts (index : Index) : Kind → Artifacts
  | .spec => index.specs
  | .scenario => index.scenarios

/-- Assign the tags of one name. -/
def assign (index : Index) (kind : Kind) (name : Text) (tags : Tags) : Index :=
  match kind with
  | .spec => { index with specs := index.specs.insert name tags }
  | .scenario => { index with scenarios := index.scenarios.insert name tags }

/-- The hash under a kind, a name and a tag. -/
def recorded (index : Index) (kind : Kind) (name tag : Text) : Option Text :=
  ((index.artifacts kind).lookup name).bind (·.lookup tag)

end Index

section

variable {index mine theirs : Index} {kind other : Kind} {name another tag hash : Text}

lemma recorded_eq_some_iff : index.recorded kind name tag = some hash ↔
      ∃ tags, (index.artifacts kind).lookup name = some tags ∧ tags.lookup tag = some hash :=
  Option.bind_eq_some_iff

lemma lookup_assign_self (tags : Tags) :
    ((index.assign kind name tags).artifacts kind).lookup name = some tags := by
  cases kind with
  | spec => exact AList.lookup_insert index.specs
  | scenario => exact AList.lookup_insert index.scenarios

lemma lookup_assign_of_ne (tags : Tags) (hne : ¬ (other = kind ∧ another = name)) :
    ((index.assign kind name tags).artifacts other).lookup another =
      (index.artifacts other).lookup another := by
  cases kind with
  | spec =>
    cases other with
    | spec => exact AList.lookup_insert_ne fun hname => hne ⟨rfl, hname⟩
    | scenario => rfl
  | scenario =>
    cases other with
    | spec => rfl
    | scenario => exact AList.lookup_insert_ne fun hname => hne ⟨rfl, hname⟩

def mergeTags (dst src : Tags) : Tags := assignAll (fun _ hash => hash) src.entries dst

def mergeArtifacts (dst src : Artifacts) : Artifacts :=
  assignAll (fun old tags => mergeTags (old.getD ∅) tags) src.entries dst

/-- Entries of the second index win. -/
def mergeIndex (mine theirs : Index) : Index where
  specs := mergeArtifacts (mergeArtifacts ∅ mine.specs) theirs.specs
  scenarios := mergeArtifacts (mergeArtifacts ∅ mine.scenarios) theirs.scenarios

lemma lookup_mergeTags (dst src : Tags) (tag : Text) :
    (mergeTags dst src).lookup tag = (src.lookup tag).or (dst.lookup tag) := by
  rw [mergeTags, lookup_assignAll_entries]
  cases src.lookup tag with
  | none | some => rfl

lemma lookup_mergeArtifacts (dst src : Artifacts) (name tag : Text) :
    ((mergeArtifacts dst src).lookup name).bind (·.lookup tag) =
      ((src.lookup name).bind (·.lookup tag)).or ((dst.lookup name).bind (·.lookup tag)) := by
  rw [mergeArtifacts, lookup_assignAll_entries]
  cases src.lookup name with
  | none => rfl
  | some tags =>
    change (mergeTags ((dst.lookup name).getD ∅) tags).lookup tag = _
    rw [lookup_mergeTags]
    cases dst.lookup name with
    | none | some => rfl

/-- What a merge records is what the second index records, else what the first does. -/
lemma recorded_mergeIndex : (mergeIndex mine theirs).recorded kind name tag =
      (theirs.recorded kind name tag).or (mine.recorded kind name tag) := by
  have hempty : ((mergeArtifacts ∅ (mine.artifacts kind)).lookup name).bind (·.lookup tag) =
      mine.recorded kind name tag := by
    rw [lookup_mergeArtifacts]
    exact Option.or_none
  cases kind with
  | spec | scenario =>
    rw [Index.recorded, Index.artifacts, mergeIndex, lookup_mergeArtifacts]
    exact congrArg (Option.or _) hempty

lemma mem_mergeArtifacts_iff {dst src : Artifacts} :
    name ∈ mergeArtifacts dst src ↔ name ∈ src ∨ name ∈ dst := by
  rw [← AList.lookup_isSome, mergeArtifacts, lookup_assignAll_entries, ← AList.lookup_isSome,
    ← AList.lookup_isSome]
  cases src.lookup name with
  | none | some => simp

/-- A merge knows the names of both indexes. -/
lemma mem_mergeIndex_iff : name ∈ (mergeIndex mine theirs).artifacts kind ↔
      name ∈ theirs.artifacts kind ∨ name ∈ mine.artifacts kind := by
  cases kind with
  | spec | scenario => simp [mergeIndex, Index.artifacts, mem_mergeArtifacts_iff]

/-- A string after a trip through JSON. -/
def jsonText (text : Text) : Text := if validString text then text else replaceInvalid text

/-- The byte order in which `json.Marshal` writes the keys of a map. -/
def textLess : Text → Text → Bool
  | _, [] => false
  | [], _ :: _ => true
  | left :: lefts, right :: rights =>
      left < right || (left = right && textLess lefts rights)

/-- A map after a trip through JSON, given the trip of its values.  Of two keys that come
out alike the one that is written later counts. -/
def reread {Item Read : Type} (readItem : Item → Read) (map : AList fun _ : Text => Item) :
    AList fun _ : Text => Read :=
  let sorted := map.entries.insertionSort fun left right => textLess right.1 left.1 = false
  assignAll (fun _ item => item) (sorted.map fun entry => ⟨jsonText entry.1, readItem entry.2⟩) ∅

/-- The index that is read from the file after this one was written. -/
def Index.reread (index : Index) : Index where
  specs := Manager.reread (Manager.reread jsonText) index.specs
  scenarios := Manager.reread (Manager.reread jsonText) index.scenarios

/-- All names, tags and hashes are UTF-8. -/
structure Index.Clean (index : Index) : Prop where
  names : ∀ kind name, name ∈ index.artifacts kind → validString name = true
  entries : ∀ kind name tag hash, index.recorded kind name tag = some hash →
    validString tag = true ∧ validString hash = true

lemma jsonText_of_valid {text : Text} (hvalid : validString text = true) : jsonText text = text :=
  if_pos hvalid

/-- A map whose keys are UTF-8 keeps them. -/
lemma lookup_reread {Item Read : Type} {readItem : Item → Read}
    {map : AList fun _ : Text => Item} (hkeys : ∀ key ∈ map, validString key = true)
    (key : Text) : (reread readItem map).lookup key = (map.lookup key).map readItem := by
  let sorted := map.entries.insertionSort fun left right => textLess right.1 left.1 = false
  have hperm : sorted.Perm map.entries := List.perm_insertionSort _ _
  have hnodup : sorted.NodupKeys := (List.perm_nodupKeys hperm).mpr map.nodupKeys
  have hwritten : sorted.map (fun entry => (⟨jsonText entry.1, readItem entry.2⟩ : Σ _, Read)) =
      sorted.map (Sigma.map id fun _ => readItem) := by
    apply List.map_congr_left
    intro entry hentry
    have hmem : entry.1 ∈ map := List.mem_keys_of_mem (hperm.subset hentry)
    rw [jsonText_of_valid (hkeys entry.1 hmem)]
    rfl
  change (assignAll _ (sorted.map _) ∅).lookup key = _
  rw [hwritten, lookup_assignAll (hnodup.map₂ _), List.dlookup_map₂,
    List.perm_dlookup key hnodup hperm]
  change Option.elim ((map.lookup key).map readItem) _ _ = _
  cases map.lookup key with
  | none | some => rfl

lemma lookup_artifacts_reread (hclean : index.Clean) : (index.reread.artifacts kind).lookup name =
      ((index.artifacts kind).lookup name).map (Manager.reread jsonText) := by
  have hkeys := hclean.names kind
  cases kind with
  | spec | scenario => exact lookup_reread hkeys name

/-- A clean index comes back from the file as it was. -/
lemma recorded_reread (hclean : index.Clean) :
    index.reread.recorded kind name tag = index.recorded kind name tag := by
  rw [Index.recorded, Index.recorded, lookup_artifacts_reread hclean]
  cases hlookup : (index.artifacts kind).lookup name with
  | none => rfl
  | some tags =>
    have htags : ∀ tag hash, tags.lookup tag = some hash →
        validString tag = true ∧ validString hash = true := by
      intro tag hash hhash
      exact hclean.entries kind name tag hash (recorded_eq_some_iff.mpr ⟨tags, hlookup, hhash⟩)
    have hkeys : ∀ key ∈ tags, validString key = true := by
      intro key hkey
      obtain ⟨hash, hhash⟩ := Option.isSome_iff_exists.mp (AList.lookup_isSome.mpr hkey)
      exact (htags key hash hhash).1
    change (Manager.reread jsonText tags).lookup tag = tags.lookup tag
    rw [lookup_reread hkeys]
    cases hhash : tags.lookup tag with
    | none => rfl
    | some hash =>
      rw [Option.map_some, jsonText_of_valid (htags tag hash hhash).2]

lemma mem_reread_iff (hclean : index.Clean) :
    name ∈ index.reread.artifacts kind ↔ name ∈ index.artifacts kind := by
  rw [← AList.lookup_isSome, lookup_artifacts_reread hclean, Option.isSome_map,
    AList.lookup_isSome]

end

end Fluxrig.Manager
