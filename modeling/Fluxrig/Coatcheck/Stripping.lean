import Fluxrig.Coatcheck.Parking

/-!
# What is stripped

`deleteDotted` and `GetValue` read a field's name by different rules, and a deletion may
convert a map that another field's path passes through.  What a deletion leaves along its
own path is `Gone`: no later deletion, and no conversion, brings the field back.
-/

namespace Fluxrig.Coatcheck

open Fluxrig.Core Message

/-- Nothing is at the path, and every map on the way has string keys. -/
def Gone (fields : List (Text × Value)) : List Text → Prop
  | [] => True
  | [part] => fields.lookup part = none
  | part :: next :: rest =>
      ∀ inner, fields.lookup part = some inner → inner.isMap = true →
        ∃ left, inner = .object left ∧ Gone left (next :: rest)

section

variable {sprint : ℕ → Text} {fields : List (Text × Value)} {parts other : List Text}

lemma Gone.get (hgone : Gone fields parts) : (Value.object fields).get parts = none := by
  fun_induction Gone fields parts with
  | case1 => rfl
  | case2 => exact hgone
  | case3 fields part next rest ih =>
    cases hchild : (Value.object fields).child part with
    | none => exact Value.get_no_child hchild
    | some inner =>
      rw [Value.get_child hchild (List.cons_ne_nil _ _)]
      by_cases hmap : inner.isMap = true
      · obtain ⟨left, rfl, hleft⟩ := hgone inner hchild hmap
        exact ih left hleft
      · exact Value.get_of_leaf (Bool.eq_false_iff.mpr hmap) _

lemma deleteNested_empty : (deleteNested sprint [] parts).1 = [] := by
  rcases parts with _ | ⟨part, _ | ⟨next, rest⟩⟩ <;> rfl

/-- A deletion leaves nothing at its path. -/
lemma gone_deleteNested : Gone (deleteNested sprint fields parts).1 parts := by
  fun_induction deleteNested sprint fields parts with
  | case1 => trivial
  | case2 => exact (lookup_dropField ..).trans (if_pos rfl)
  | case3 _ _ habsent => exact Option.not_isSome_iff_eq_none.mp habsent
  | case4 fields part _ _ hnone =>
    intro inner hinner hmap
    rw [hinner, Option.bind_some, Value.asDataMap_eq_none_iff, hmap] at hnone
    nomatch hnone
  | case5 =>
    intro inner hinner
    rw [lookup_dropField, if_pos rfl] at hinner
    nomatch hinner
  | case6 =>
    rename_i left _ _ ih _
    intro inner hinner _
    rw [lookup_putField, if_pos rfl, Option.some.injEq] at hinner
    exact ⟨left, hinner.symm, by grind⟩

lemma Gone.dropField (hgone : Gone fields parts) (key : Text) :
    Gone (dropField key fields) parts := by
  fun_cases Gone fields parts with
  | case1 => trivial
  | case2 part => grind [Gone, lookup_dropField]
  | case3 part next rest =>
    intro inner hinner
    rw [lookup_dropField] at hinner
    split at hinner
    · nomatch hinner
    · exact hgone inner hinner

/-- What is gone stays away. -/
lemma Gone.deleteNested (hgone : Gone fields other) :
    Gone (deleteNested sprint fields parts).1 other := by
  fun_induction Coatcheck.deleteNested sprint fields parts generalizing other with
  | case1 => exact hgone
  | case2 => exact hgone.dropField _
  | case3 => exact hgone
  | case4 => exact hgone
  | case5 => exact hgone.dropField _
  | case6 fields part next rest inner hinner =>
    rename_i left _ hleft _ ih
    rcases other with _ | ⟨head, _ | ⟨first, low⟩⟩
    · trivial
    · grind [Gone, lookup_putField]
    · intro found hfound hmap
      rw [lookup_putField] at hfound
      split at hfound
      · rename_i hhead
        obtain ⟨old, hold, hshape⟩ := Option.bind_eq_some_iff.mp hinner
        rw [hhead] at hgone
        have hmap : old.isMap = true := by
          by_contra hleaf
          rw [Value.asDataMap_eq_none_iff.mpr (Bool.eq_false_iff.mpr hleaf)] at hshape
          nomatch hshape
        obtain ⟨plain, rfl, hplain⟩ := hgone old hold hmap
        have hbelow := ih (Option.some.inj hshape ▸ hplain)
        rw [hleft] at hbelow
        exact ⟨left, (Option.some.inj hfound).symm, hbelow⟩
      · exact hgone found hfound hmap

end

section

variable {sprint : ℕ → Text} {cfg : Config} {msg : FluxMsg} {field other : Text}

/-- The parts that `deleteDotted` follows are those that `GetValue` follows. -/
lemma splitDots_dataKey (field : Text) : (match splitDots field with
      | first :: next :: rest =>
          if first = utf8 "data" then next :: rest else first :: next :: rest
      | parts => parts) = splitDots (dataKey field) := by
  have hdot : utf8 "data." = utf8 "data" ++ [46] := by decide
  have hword : splitDots (utf8 "data") = [utf8 "data"] := by decide
  by_cases hdata : utf8 "data." <+: field
  · rw [dataKey, cutStart, if_pos hdata]
    obtain ⟨rest, rfl⟩ := hdata
    rw [Option.getD_some, List.drop_left, hdot, List.append_assoc, List.singleton_append,
      splitDots_append]
    cases hrest : splitDots rest with
    | nil => exact absurd hrest (splitDots_ne_nil rest)
    | cons => exact if_pos rfl
  · rw [dataKey, cutStart, if_neg hdata, Option.getD_none]
    split
    · rename_i first next rest hparts
      rw [hparts]
      apply if_neg
      rintro rfl
      apply hdata
      rw [← intercalate_splitDots field, hparts, hdot]
      simp [List.intercalate]
    · rfl

lemma data_deleteDotted (hmeta : ¬ isMetaField field = true) :
    (deleteDotted sprint msg field).data.getD [] =
      (deleteNested sprint (msg.data.getD []) (splitDots (dataKey field))).1 := by
  rw [deleteDotted, if_neg hmeta, ← splitDots_dataKey]
  cases msg.data with
  | some => rfl
  | none => exact deleteNested_empty.symm

lemma metadata_deleteDotted (hmeta : ¬ isMetaField field = true) :
    (deleteDotted sprint msg field).metadata = msg.metadata := by
  rw [deleteDotted, if_neg hmeta]

/-- The field is not found, and no deletion brings it back. -/
def Stripped (msg : FluxMsg) (field : Text) : Prop :=
  match metaName field with
  | some name => msg.metadata.lookup name = none
  | none => Gone (msg.data.getD []) (splitDots (dataKey field))

lemma Stripped.getValue_eq_none (hfree : field ∉ reserved) (hstripped : Stripped msg field) :
    getValue msg field = none := by
  rw [Stripped] at hstripped
  rw [getValue_of_not_reserved msg hfree]
  cases hname : metaName field with
  | some =>
    rw [hname] at hstripped
    exact Option.map_eq_none_iff.mpr hstripped
  | none =>
    rw [hname] at hstripped
    exact hstripped.get

lemma stripped_deleteDotted (hregular : Regular field) :
    Stripped (deleteDotted sprint msg field) field := by
  rw [Stripped]
  cases hname : metaName field with
  | some name =>
    have hmeta : isMetaField field = true :=
      isMetaField_iff.mpr ⟨name, hname, name_ne_nil hregular hname⟩
    rw [deleteDotted, if_pos hmeta, drop_of_metaName hname]
    exact AList.lookup_erase name msg.metadata
  | none =>
    rw [data_deleteDotted (not_isMetaField hname)]
    exact gone_deleteNested

lemma Stripped.deleteDotted (hstripped : Stripped msg other) :
    Stripped (deleteDotted sprint msg field) other := by
  rw [Stripped] at hstripped ⊢
  by_cases hmeta : isMetaField field = true
  · rw [Coatcheck.deleteDotted, if_pos hmeta]
    cases hname : metaName other with
    | some name =>
      rw [hname] at hstripped
      by_cases hsame : name = field.drop 5
      · rw [hsame]
        exact AList.lookup_erase _ msg.metadata
      · exact (AList.lookup_erase_ne hsame).trans hstripped
    | none =>
      rw [hname] at hstripped
      exact hstripped
  · rw [data_deleteDotted hmeta, metadata_deleteDotted hmeta]
    cases hname : metaName other with
    | some =>
      rw [hname] at hstripped
      exact hstripped
    | none =>
      rw [hname] at hstripped
      exact hstripped.deleteNested

/-- Once its own deletion is through, a field is away whatever else is deleted. -/
lemma stripped_strip (hfield : field ∈ cfg.valueFields) (hregular : Regular field) :
    Stripped (strip sprint cfg msg) field := by
  obtain ⟨before, after, hfields⟩ := List.append_of_mem hfield
  rw [strip, hfields, List.foldl_append, List.foldl_cons]
  apply List.foldlRecOn (motive := fun msg : FluxMsg => Stripped msg field)
  · exact stripped_deleteDotted hregular
  · exact fun _ hstripped _ _ => hstripped.deleteDotted

end

/-- The message that leaves `store` has none of the value fields, blocking or not. -/
theorem stored_fields_stripped {Blob : Type} (lib : Library Blob) (cfg : Config)
    (answers : Bool) (kv after : Text → Option Blob) (msg out : FluxMsg)
    (hstored : store lib cfg answers kv msg = .ok (after, out)) :
    ∀ field ∈ cfg.valueFields, field ∉ reserved → field ≠ utf8 "meta." →
      getValue out field = none := by
  intro field hfield hfree hnamed
  have hout : out = strip lib.sprintKey cfg msg := by
    rw [store, bind_eq_ok] at hstored
    repeat' split at hstored
    all_goals grind
  rw [hout]
  exact (stripped_strip hfield ⟨hfree, hnamed⟩).getValue_eq_none hfree

/-- A card number below a decoded map, its map, and a copy in the metadata. -/
theorem card_stripped :
    let lib : Library Unit := ⟨fun _ => [], fun _ => [], fun _ => some (), fun _ => none⟩
    let cfg : Config := ⟨[utf8 "stan"], utf8 "none", true,
      [utf8 "data.card.pan", utf8 "card", utf8 "meta.pan"], [], []⟩
    let msg : FluxMsg := { FluxMsg.new with
      metadata := AList.singleton (utf8 "pan") (utf8 "4")
      data := some [(utf8 "stan", .text (utf8 "1")),
        (utf8 "card", .table [(.text (utf8 "pan"), .text (utf8 "4"))])] }
    ∀ field ∈ cfg.valueFields, getValue (strip lib.sprintKey cfg msg) field = none := by
  intro lib cfg msg field hfield
  have hregular : ∀ field ∈ cfg.valueFields, field ∉ reserved ∧ field ≠ utf8 "meta." := by
    decide
  exact stored_fields_stripped lib cfg true (fun _ => none) _ msg _ rfl field hfield
    (hregular field hfield).1 (hregular field hfield).2

end Fluxrig.Coatcheck
