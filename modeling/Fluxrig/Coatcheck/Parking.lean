import Fluxrig.Coatcheck.Merge

/-!
# What is parked

The loop over the value fields makes a part of the message in which every field found
reads as in the message, whatever fields lead to each other.  The field `meta.` is an
exception: it is read as a metadata entry and parked as data.
-/

namespace Fluxrig.Coatcheck

open Message

/-- The paths that name an attribute of the message. -/
def reserved : List Text := [utf8 "payload", utf8 "flux_id", utf8 "trace_id", utf8 "src_id"]

def metaName (field : Text) : Option Text := cutStart (utf8 "meta.") field

def dataKey (field : Text) : Text := (cutStart (utf8 "data.") field).getD field

lemma getValue_of_not_reserved (msg : FluxMsg) {field : Text} (hfree : field ∉ reserved) :
    getValue msg field = match metaName field with
      | some name => (msg.metadata.lookup name).map .text
      | none => msg.get (dataKey field) := by
  simp only [reserved, List.mem_cons, List.not_mem_nil, or_false, not_or] at hfree
  obtain ⟨hpayload, hflux, htrace, hsrc⟩ := hfree
  rw [getValue, if_neg hpayload, if_neg hflux, if_neg htrace, if_neg hsrc, metaName, dataKey]
  cases cutStart (utf8 "meta.") field with
  | some => rfl
  | none =>
    cases cutStart (utf8 "data.") field <;> rfl

section

variable {msg partialMsg : FluxMsg} {field name : Text}

lemma getValue_meta (hfree : field ∉ reserved) (hname : metaName field = some name)
    (msg : FluxMsg) : getValue msg field = (msg.metadata.lookup name).map .text := by
  rw [getValue_of_not_reserved msg hfree, hname]

lemma getValue_data (hfree : field ∉ reserved) (hname : metaName field = none)
    (msg : FluxMsg) : getValue msg field = msg.get (dataKey field) := by
  rw [getValue_of_not_reserved msg hfree, hname]

lemma metaName_eq_some_iff : metaName field = some name ↔ field = utf8 "meta." ++ name := by
  rw [metaName, cutStart]
  constructor
  · intro hname
    split at hname
    · rename_i hstart
      obtain ⟨rest, rfl⟩ := hstart
      rw [← Option.some.inj hname, List.drop_left]
    · nomatch hname
  · rintro rfl
    rw [if_pos (List.prefix_append _ _), List.drop_left]

/-- `store` takes a field for metadata where `GetValue` does, if a name follows. -/
lemma isMetaField_iff :
    isMetaField field = true ↔ ∃ name, metaName field = some name ∧ name ≠ [] := by
  simp only [metaName_eq_some_iff]
  constructor
  · intro hmeta
    rw [isMetaField, Bool.and_eq_true, decide_eq_true_eq, decide_eq_true_eq] at hmeta
    refine ⟨field.drop 5, ?_, ?_⟩
    · rw [← hmeta.2, List.take_append_drop]
    · intro hdrop
      have hlength := congrArg List.length hdrop
      rw [List.length_drop, List.length_nil] at hlength
      omega
  · rintro ⟨name, rfl, hname⟩
    have hpos := List.length_pos_iff.mpr hname
    have hfive : (utf8 "meta.").length = 5 := rfl
    rw [isMetaField, Bool.and_eq_true, decide_eq_true_eq, decide_eq_true_eq, List.length_append]
    exact ⟨by omega, List.take_left' hfive⟩

lemma drop_of_metaName (hname : metaName field = some name) : field.drop 5 = name := by
  rw [metaName_eq_some_iff.mp hname]
  exact List.drop_left' rfl

lemma not_isMetaField (hname : metaName field = none) : ¬ isMetaField field = true := by
  rw [isMetaField_iff]
  rintro ⟨name, hsome, -⟩
  nomatch hname.symm.trans hsome

lemma park_meta (hfree : field ∉ reserved) (hname : metaName field = some name)
    (hmore : name ≠ []) (msg partialMsg : FluxMsg) :
    park msg partialMsg field = match msg.metadata.lookup name with
      | none => partialMsg
      | some value => partialMsg.annotate name value := by
  have hmeta : isMetaField field = true := isMetaField_iff.mpr ⟨name, hname, hmore⟩
  rw [park, getValue_meta hfree hname]
  cases msg.metadata.lookup name with
  | none => rfl
  | some =>
    rw [Option.map_some]
    simp only [hmeta, if_true, drop_of_metaName hname]

lemma park_data (hfree : field ∉ reserved) (hname : metaName field = none)
    (msg partialMsg : FluxMsg) :
    park msg partialMsg field = match msg.get (dataKey field) with
      | none => partialMsg
      | some item => (partialMsg.set (dataKey field) item).1 := by
  rw [park, getValue_data hfree hname]
  cases msg.get (dataKey field) with
  | none => rfl
  | some =>
    dsimp only
    rw [if_neg (not_isMetaField hname), dataKey, cutStart]
    split <;> rfl

lemma lookup_annotate (msg : FluxMsg) (name value other : Text) :
    (msg.annotate name value).metadata.lookup other =
      if other = name then some value else msg.metadata.lookup other := by
  rw [FluxMsg.annotate]
  grind [AList.lookup_insert, AList.lookup_insert_ne]

lemma metadata_set (msg : FluxMsg) (key : Text) (item : Value) :
    (msg.set key item).1.metadata = msg.metadata := by
  rw [FluxMsg.set]
  split <;> rfl

end

/-- A coat holds nothing that is not in the message. -/
structure CoatOf (msg coat : FluxMsg) : Prop where
  data : coat.root.PartOf msg.root
  metadata : ∀ {name value : Text}, coat.metadata.lookup name = some value →
    msg.metadata.lookup name = some value

/-- A field that the message has reads the same in the coat. -/
def Holds (msg coat : FluxMsg) (field : Text) : Prop :=
  ∀ value, getValue msg field = some value → getValue coat field = some value

/-- What the fields are that are parked as they are read. -/
def Regular (field : Text) : Prop := field ∉ reserved ∧ field ≠ utf8 "meta."

section

variable {msg coat : FluxMsg} {field : Text}

lemma root_emptyCoat : (emptyCoat msg).root = .object [] := by
  rw [emptyCoat]
  cases msg.metadata.lookup metaCoatCheckTTL <;> rfl

lemma coatOf_emptyCoat : CoatOf msg (emptyCoat msg) := by
  constructor
  · rw [root_emptyCoat]
    exact Value.PartOf.empty
  · intro name value hlookup
    rw [emptyCoat] at hlookup
    cases httl : msg.metadata.lookup metaCoatCheckTTL with
    | none =>
      rw [httl] at hlookup
      nomatch hlookup
    | some =>
      simp only [httl, lookup_annotate] at hlookup
      split at hlookup
      · rename_i hname
        rw [hname, httl, hlookup]
      · nomatch hlookup

lemma name_ne_nil (hregular : Regular field) {name : Text} (hname : metaName field = some name) :
    name ≠ [] := by
  rintro rfl
  apply hregular.2
  rw [metaName_eq_some_iff.mp hname, List.append_nil]

/-- The coat stays part of the message, gets the field, and keeps the fields it holds. -/
structure Parks (msg coat : FluxMsg) (field : Text) (after : FluxMsg) : Prop where
  part : CoatOf msg after
  own : Holds msg after field
  others : ∀ other, Regular other → Holds msg coat other → Holds msg after other

section

variable (hcoat : CoatOf msg coat)

include hcoat

lemma Parks.of_missing (hmissing : getValue msg field = none) : Parks msg coat field coat where
  part := hcoat
  own := by
    intro value hvalue
    rw [hmissing] at hvalue
    nomatch hvalue
  others := fun _ _ => id

/-- A metadata entry of the message is added. -/
lemma Parks.annotate (hregular : Regular field) {name value : Text}
    (hname : metaName field = some name) (hvalue : msg.metadata.lookup name = some value) :
    Parks msg coat field (coat.annotate name value) := by
  constructor
  · constructor
    · exact hcoat.data
    · intro other found hfound
      have hkept := @hcoat.metadata other found
      grind [lookup_annotate]
  · intro found hfound
    rw [getValue_meta hregular.1 hname] at hfound ⊢
    rw [lookup_annotate, if_pos rfl, ← hvalue, hfound]
  · intro other hother hholds found hfound
    have hsame := hholds found hfound
    cases hotherName : metaName other with
    | none =>
      rw [getValue_data hother.1 hotherName] at hsame ⊢
      exact hsame
    | some otherName =>
      rw [getValue_meta hother.1 hotherName] at hfound hsame ⊢
      grind [lookup_annotate]

/-- An entry of the message's data is added. -/
lemma Parks.set (hregular : Regular field) {item : Value}
    (hname : metaName field = none) (hitem : msg.get (dataKey field) = some item) :
    Parks msg coat field (coat.set (dataKey field) item).1 := by
  have hparts := splitDots_ne_nil (dataKey field)
  have hread : ∀ (msg : FluxMsg) (key : Text), msg.get key = msg.root.get (splitDots key) :=
    fun _ _ => rfl
  rw [hread] at hitem
  constructor
  · constructor
    · rw [FluxMsg.root_set]
      exact hcoat.data.set rfl hparts hitem
    · intro name value hvalue
      rw [metadata_set] at hvalue
      exact hcoat.metadata hvalue
  · intro found hfound
    rw [getValue_data hregular.1 hname, hread] at hfound ⊢
    rw [FluxMsg.root_set, Value.get_set_self hparts (hcoat.data.set_ok rfl hparts hitem), ← hitem,
      hfound]
  · intro other hother hholds found hfound
    have hsame := hholds found hfound
    cases hotherName : metaName other with
    | none =>
      rw [getValue_data hother.1 hotherName, hread] at hfound hsame ⊢
      rw [FluxMsg.root_set]
      exact hcoat.data.get_set_of_get rfl hparts hitem hsame hfound
    | some =>
      rw [getValue_meta hother.1 hotherName] at hsame ⊢
      rw [metadata_set, hsame]

/-- One turn of the loop. -/
lemma CoatOf.parks (hregular : Regular field) : Parks msg coat field (park msg coat field) := by
  cases hname : metaName field with
  | some name =>
    rw [park_meta hregular.1 hname (name_ne_nil hregular hname)]
    cases hvalue : msg.metadata.lookup name with
    | none =>
      apply Parks.of_missing hcoat
      rw [getValue_meta hregular.1 hname, hvalue, Option.map_none]
    | some => exact Parks.annotate hcoat hregular hname hvalue
  | none =>
    rw [park_data hregular.1 hname]
    cases hitem : msg.get (dataKey field) with
    | none =>
      apply Parks.of_missing hcoat
      rw [getValue_data hregular.1 hname, hitem]
    | some => exact Parks.set hcoat hregular hname hitem

/-- The whole loop. -/
lemma CoatOf.foldl_park {fields : List Text} (hfields : ∀ field ∈ fields, Regular field) :
    CoatOf msg (fields.foldl (park msg) coat) ∧
      ∀ field, Regular field → field ∈ fields ∨ Holds msg coat field →
        Holds msg (fields.foldl (park msg) coat) field := by
  induction fields generalizing coat with
  | nil =>
    refine ⟨hcoat, ?_⟩
    rintro field - (hnone | hholds)
    · nomatch hnone
    · exact hholds
  | cons first _ ih =>
    have hparks := hcoat.parks (hfields first List.mem_cons_self)
    obtain ⟨hpart, hholds⟩ :=
      ih hparks.part fun field hfield => hfields field (List.mem_cons_of_mem _ hfield)
    refine ⟨hpart, ?_⟩
    rintro field hregular (hmem | hheld)
    · rcases List.mem_cons.mp hmem with rfl | hlater
      · exact hholds field hregular (.inr hparks.own)
      · exact hholds field hregular (.inl hlater)
    · exact hholds field hregular (.inr (hparks.others field hregular hheld))

end

end

section

variable {cfg : Config} {msg : FluxMsg} {field : Text}

/-- A field that is stored: one that is configured, or any if none is. -/
def Stored (fields : List Text) (field : Text) : Prop :=
  field ∈ fields ∨ fields = [] ∧ field ∉ reserved

lemma coat_of_fields (hfields : ∀ field ∈ cfg.valueFields, Regular field) :
    CoatOf msg (coat cfg msg) ∧
      ∀ field, Stored cfg.valueFields field → Holds msg (coat cfg msg) field := by
  rw [coat]
  by_cases hnone : cfg.valueFields = []
  · rw [if_pos hnone]
    exact ⟨⟨fun path item hget => ⟨item, hget, .inl rfl⟩, id⟩, fun field _ value => id⟩
  · rw [if_neg hnone]
    obtain ⟨hpart, hholds⟩ := coatOf_emptyCoat.foldl_park hfields
    refine ⟨hpart, ?_⟩
    rintro field (hmem | ⟨hempty, -⟩)
    · exact hholds field (hfields field hmem) (.inl hmem)
    · exact absurd hempty hnone

/-- The metadata entry without a name is never parked. -/
lemma lookup_nil_coat (hfields : cfg.valueFields ≠ []) :
    (coat cfg msg).metadata.lookup [] = none := by
  rw [coat, if_neg hfields]
  apply List.foldlRecOn (motive := fun coat : FluxMsg => coat.metadata.lookup [] = none)
  · rw [emptyCoat]
    cases msg.metadata.lookup metaCoatCheckTTL with
    | none => rfl
    | some => exact (lookup_annotate ..).trans (if_neg (by decide))
  · intro partialMsg hnone field _
    rw [park]
    cases getValue msg field with
    | none => exact hnone
    | some extracted =>
      dsimp only
      split
      · rename_i hmeta
        have hmore : field.drop 5 ≠ [] := by
          rw [isMetaField, Bool.and_eq_true, decide_eq_true_eq] at hmeta
          rw [ne_eq, List.drop_eq_nil_iff]
          omega
        cases extracted with
        | text => exact (lookup_annotate ..).trans ((if_neg hmore.symm).trans hnone)
        | _ => exact hnone
      · split <;> rw [metadata_set, hnone]

/-- Metadata fields leave the data of the coat empty. -/
lemma root_coat_of_metadata (hfields : cfg.valueFields ≠ [])
    (hregular : ∀ field ∈ cfg.valueFields, Regular field)
    (hmeta : ∀ field ∈ cfg.valueFields, metaName field ≠ none) :
    (coat cfg msg).root = .object [] := by
  rw [coat, if_neg hfields]
  apply List.foldlRecOn (motive := fun coat : FluxMsg => coat.root = .object [])
  · exact root_emptyCoat
  · intro partialMsg hempty field hfield
    obtain ⟨name, hname⟩ := Option.ne_none_iff_exists'.mp (hmeta field hfield)
    have hfield := hregular field hfield
    rw [park_meta hfield.1 hname (name_ne_nil hfield hname)]
    cases msg.metadata.lookup name <;> exact hempty

lemma keysIn_getValue {allowed : ℕ → Prop} (hkeys : msg.root.KeysIn allowed) {value : Value}
    (hvalue : getValue msg field = some value) : value.KeysIn allowed := by
  by_cases hreserved : field ∈ reserved
  · apply Value.KeysIn.leaf
    simp only [reserved, List.mem_cons, List.not_mem_nil, or_false] at hreserved
    rcases hreserved with rfl | rfl | rfl | rfl <;> (rw [← Option.some.inj hvalue]; rfl)
  · rw [getValue_of_not_reserved msg hreserved] at hvalue
    cases hname : metaName field with
    | some =>
      rw [hname] at hvalue
      obtain ⟨text, -, rfl⟩ := Option.map_eq_some_iff.mp hvalue
      exact .leaf rfl
    | none =>
      rw [hname] at hvalue
      exact hkeys.get hvalue

/-- The coat has no keys that the message does not have. -/
lemma keysIn_coat {allowed : ℕ → Prop} (hkeys : msg.root.KeysIn allowed) :
    (coat cfg msg).root.KeysIn allowed := by
  rw [coat]
  split
  · exact hkeys
  · apply List.foldlRecOn (motive := fun coat : FluxMsg => coat.root.KeysIn allowed)
    · rw [root_emptyCoat]
      exact .empty
    · intro partialMsg hpartial field _
      rw [park]
      cases hvalue : getValue msg field with
      | none => exact hpartial
      | some extracted =>
        have hextracted := keysIn_getValue hkeys hvalue
        dsimp only
        split
        · cases extracted <;> exact hpartial
        · split <;> (rw [FluxMsg.root_set]; exact hpartial.set hextracted _)

end

end Fluxrig.Coatcheck
