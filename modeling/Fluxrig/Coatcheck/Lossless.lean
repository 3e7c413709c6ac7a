import Fluxrig.Coatcheck.Parking

/-!
# Park and restore

A request is parked under its key and merged into a reply with that key.
`park_restore_iff` says for which fields nothing is lost: `meta.` must not be among
them, and keys of maps that are no strings must not occur unless metadata is all that is
parked, because a merge of maps prints such keys.
-/

namespace Fluxrig.Coatcheck

open Fluxrig.Core Message

/-- The values of a message survive CBOR up to the shape of maps. -/
def Survives {Blob : Type} (lib : Library Blob) : Prop :=
  ∀ msg, ∃ blob saved, lib.marshal msg = some blob ∧ lib.unmarshal blob = some saved ∧
    (∀ name, saved.metadata.lookup name = msg.metadata.lookup name) ∧
    msg.root.Same saved.root

/-- The path of a field meets a value that the message carries: at its end, or on the way
to it where only maps may stand. -/
def Meets (msg : FluxMsg) (field : Text) : Prop :=
  match metaName field with
  | some name => msg.metadata.lookup name ≠ none
  | none =>
      msg.root.get (splitDots (dataKey field)) ≠ none ∨
        ¬ msg.root.Open (splitDots (dataKey field))

/-- The stored fields are back with their values, and what the reply carries is as it
was. -/
structure Lossless (fields : List Text) (request reply restored : FluxMsg) : Prop where
  back : ∀ field value, Stored fields field → getValue request field = some value →
    ¬ Meets reply field → ∃ value', getValue restored field = some value' ∧ value.Same value'
  data : ∀ path item, reply.root.get path = some item →
    ∃ item', restored.root.get path = some item' ∧ Kept item item'
  metadata : ∀ name value, reply.metadata.lookup name = some value →
    restored.metadata.lookup name = some value

/-- Whatever gears park these fields and restore them, for requests and replies in whose
maps the keys that are no strings are among the allowed ones. -/
def ParksLosslessly {Blob : Type} (lib : Library Blob) (fields : List Text)
    (allowed : ℕ → Prop) : Prop :=
  ∀ (storing restoring : Config) (kv : Text → Option Blob) (request reply : FluxMsg) (key : Text),
    storing.valueFields = fields → restoring.mergeStrategy ≠ utf8 "overwrite" →
    request.root.KeysIn allowed → reply.root.KeysIn allowed →
    extractKey lib storing request = .ok key → extractKey lib restoring reply = .ok key →
    ∃ kv' sent restored, store lib storing true kv request = .ok (kv', sent) ∧
      restore lib restoring kv' reply = .ok (some restored) ∧
      Lossless fields request reply restored

section

variable {Blob : Type} {lib : Library Blob} {storing restoring : Config}
  {request reply saved : FluxMsg} {key : Text}

lemma store_restore (hsurvives : Survives lib)
    (hstrategy : restoring.mergeStrategy ≠ utf8 "overwrite")
    (hstore : extractKey lib storing request = .ok key)
    (hrestore : extractKey lib restoring reply = .ok key) (kv : Text → Option Blob) :
    ∃ kv' sent saved, store lib storing true kv request = .ok (kv', sent) ∧
      restore lib restoring kv' reply = .ok (some (enrich lib.sprintKey false reply saved)) ∧
      (∀ name, saved.metadata.lookup name = (coat storing request).metadata.lookup name) ∧
      (coat storing request).root.Same saved.root := by
  obtain ⟨blob, saved, hmarshal, hunmarshal, hmetadata, hdata⟩ := hsurvives (coat storing request)
  refine ⟨Function.update kv key (some blob), strip lib.sprintKey storing request, saved, ?_, ?_,
    hmetadata, hdata⟩
  · rw [store, bind_eq_ok]
    exact ⟨key, hstore, by rw [hmarshal]; rfl⟩
  · rw [restore, bind_eq_ok]
    refine ⟨key, hrestore, ?_⟩
    rw [Function.update_self]
    simp only [hunmarshal, hstrategy, decide_false]

variable (sprint : ℕ → Text)

lemma root_enrich : (enrich sprint false reply saved).root =
    .object (deepMergeData sprint false (reply.data.getD []) (saved.data.getD [])) := rfl

lemma lookup_metadata_enrich (name : Text) :
    (enrich sprint false reply saved).metadata.lookup name =
      (reply.metadata.lookup name).or (saved.metadata.lookup name) :=
  lookup_foldl_entries saved.metadata.entries reply.metadata name

/-- Nothing that the reply carries is changed, if all keys are strings or no data was
parked. -/
lemma kept_enrich
    (hkeys : reply.root.KeysIn (fun _ => False) ∨ ∀ part, saved.root.child part = none)
    {path : List Text} {item : Value} (hget : reply.root.get path = some item) :
    ∃ item', (enrich sprint false reply saved).root.get path = some item' ∧ Kept item item' := by
  rw [root_enrich]
  rcases hkeys with hstrings | hempty
  · exact kept_deepMergeData hstrings hget
  · exact ⟨item, by rw [get_deepMergeData_of_empty hempty]; exact hget, .inl rfl⟩

/-- A field that the coat holds comes back where the reply does not meet it. -/
lemma back_enrich {coat : FluxMsg}
    (hmetadata : ∀ name, saved.metadata.lookup name = coat.metadata.lookup name)
    (hdata : coat.root.Same saved.root) {field : Text}
    (hkeys : metaName field = none → coat.root.KeysIn (fun _ => False) ∧
      reply.root.KeysIn fun _ => False) (hfree : field ∉ reserved) (hmeets : ¬ Meets reply field)
    {value : Value} (hvalue : getValue coat field = some value) :
    ∃ value', getValue (enrich sprint false reply saved) field = some value' ∧
      value.Same value' := by
  cases hname : metaName field with
  | some =>
    rw [getValue_meta hfree hname] at hvalue
    rw [Meets, hname, not_not] at hmeets
    refine ⟨value, ?_, ?_⟩
    · rw [getValue_meta hfree hname, lookup_metadata_enrich, hmeets, Option.none_or, hmetadata,
        hvalue]
    · obtain ⟨text, -, rfl⟩ := Option.map_eq_some_iff.mp hvalue
      exact .leaf rfl
  | none =>
    rw [getValue_data hfree hname] at hvalue
    rw [Meets, hname, not_or, not_not, not_not] at hmeets
    obtain ⟨value', hsaved, hsame⟩ := hdata.get hvalue
    refine ⟨value', ?_, hsame⟩
    obtain ⟨hcoat, hreply⟩ := hkeys hname
    rw [getValue_data hfree hname]
    exact get_deepMergeData hreply (hdata.keysIn hcoat) hmeets.2 hmeets.1 hsaved

/-- Metadata alone is parked. -/
def MetadataOnly (fields : List Text) : Prop :=
  fields ≠ [] ∧ ∀ field ∈ fields, metaName field ≠ none

lemma lossless_enrich (sprint : ℕ → Text)
    (hregular : ∀ field ∈ storing.valueFields, Regular field)
    (hmetadata : ∀ name, saved.metadata.lookup name = (coat storing request).metadata.lookup name)
    (hdata : (coat storing request).root.Same saved.root)
    (hkeys : MetadataOnly storing.valueFields ∨
      request.root.KeysIn (fun _ => False) ∧ reply.root.KeysIn fun _ => False) :
    Lossless storing.valueFields request reply (enrich sprint false reply saved) := by
  obtain ⟨-, hholds⟩ := @coat_of_fields storing request hregular
  constructor
  · intro field value hstored hvalue hmeets
    have hfree : field ∉ reserved := by
      rcases hstored with hmem | ⟨-, hfree⟩
      · exact (hregular field hmem).1
      · exact hfree
    apply back_enrich sprint hmetadata hdata ?_ hfree hmeets (hholds field hstored value hvalue)
    intro hname
    rcases hkeys with ⟨hsome, hmeta⟩ | ⟨hrequest, hreply⟩
    · rcases hstored with hmem | ⟨hnone, -⟩
      · exact absurd hname (hmeta field hmem)
      · exact absurd hnone hsome
    · exact ⟨keysIn_coat hrequest, hreply⟩
  · intro path item hget
    apply kept_enrich sprint ?_ hget
    rcases hkeys with ⟨hsome, hmeta⟩ | ⟨-, hreply⟩
    · right
      intro part
      rw [root_coat_of_metadata hsome hregular hmeta] at hdata
      have hnone := hdata.entry_eq_none rfl (.text part)
      exact hnone.mp rfl
    · exact .inl hreply
  · intro name value hvalue
    rw [lookup_metadata_enrich, hvalue, Option.some_or]

end

/-- A gear that finds its key in the trace id. -/
def traceConfig (fields : List Text) : Config where
  keyFields := [utf8 "trace_id"]
  keyNormalize := []
  awaitStore := true
  valueFields := fields
  mergeStrategy := []
  onMissing := []

lemma extractKey_trace {Blob : Type} (lib : Library Blob) (fields others : List Text)
    {request reply : FluxMsg} (htrace : request.traceID = reply.traceID) :
    ∃ key, extractKey lib (traceConfig fields) request = .ok key ∧
      extractKey lib (traceConfig others) reply = .ok key := by
  refine ⟨encodeToString (joinKeys [Translate.trimSpace request.traceID]), rfl, ?_⟩
  rw [htrace]
  rfl

/-- A request with nothing but a metadata entry without a name. -/
def nameless : FluxMsg := FluxMsg.new.annotate [] (utf8 "s")

/-- One map in the other along a path. -/
def nest : List Text → Value
  | [] => .object []
  | part :: rest => .object [(part, nest rest)]

lemma child_nest (part : Text) (rest : List Text) :
    (nest (part :: rest)).child part = some (nest rest) := by
  rw [nest, Value.child, lookup_cons_ite, if_pos rfl]

lemma get_nest {path : List Text} (hpath : path ≠ []) :
    (nest path).get path = some (.object []) := by
  induction path with
  | nil => exact absurd rfl hpath
  | cons part rest ih =>
    by_cases hrest : rest = []
    · subst hrest
      exact child_nest part []
    · rw [Value.get_child (child_nest part rest) hrest, ih hrest]

lemma keysIn_nest {allowed : ℕ → Prop} (path : List Text) : (nest path).KeysIn allowed := by
  induction path with
  | nil => exact .empty
  | cons _ _ ih => exact Value.KeysIn.empty.put ih

/-- A request with one entry, an empty map. -/
def nested (part : Text) (rest : List Text) : FluxMsg :=
  { FluxMsg.new with data := some [(part, nest rest)] }

/-- A map with two keys that print alike. -/
def clash (sprint : ℕ → Text) (identity : ℕ) : Value :=
  .table [(.other identity, .null), (.text (sprint identity), .bool true)]

/-- A reply that carries it. -/
def clashing (sprint : ℕ → Text) (part : Text) (identity : ℕ) : FluxMsg :=
  { FluxMsg.new with data := some [(part, clash sprint identity)] }

section

variable {sprint : ℕ → Text} {part : Text} {identity : ℕ} {saved : FluxMsg}

lemma keysIn_clashing {allowed : ℕ → Prop} (hallowed : allowed identity) :
    (clashing sprint part identity).root.KeysIn allowed := by
  have halone : (Value.table [(.other identity, .null)]).KeysIn allowed := by
    constructor
    · intro other hentry
      by_cases hother : other = identity
      · rw [hother]
        exact hallowed
      · have hne : MapKey.other other ≠ .other identity :=
          fun hsame => hother (MapKey.other.inj hsame)
        rw [Value.entry, lookup_cons_ite, if_neg hne] at hentry
        exact absurd rfl hentry
    · intro path inner other hget
      cases path with
      | nil => cases hget
      | cons =>
        rw [Value.get_no_child rfl] at hget
        cases hget
  have hclash : (clash sprint identity).KeysIn allowed :=
    halone.put (.leaf rfl : (Value.bool true).KeysIn allowed)
  exact Value.KeysIn.empty.put hclash

lemma child_clashing :
    (clashing sprint part identity).root.child part = some (clash sprint identity) := by
  rw [clashing, FluxMsg.root, Option.getD_some, Value.child, lookup_cons_ite, if_pos rfl]

lemma get_clashing :
    (clashing sprint part identity).root.get [part, sprint identity] = some (.bool true) := by
  rw [Value.get_child child_clashing (List.cons_ne_nil _ _), Value.get, clash, Value.child,
    lookup_cons_ite, if_neg (by simp), lookup_cons_ite, if_pos rfl]

/-- The entry under the string is lost where the coat has a map at the same place. -/
lemma get_enrich_clashing {inner : Value} (hinner : saved.root.child part = some inner)
    (hmap : inner.isMap = true) :
    (enrich sprint false (clashing sprint part identity) saved).root.get [part, sprint identity] =
      some .null := by
  have hchild := @child_deepMergeData sprint
    ((clashing sprint part identity).data.getD []) (saved.data.getD []) part
  cases hsm : inner.asDataMap sprint with
  | none =>
    rw [Value.asDataMap_eq_none_iff.mp hsm] at hmap
    cases hmap
  | some sm =>
    rw [← FluxMsg.root, ← FluxMsg.root, child_clashing, hinner] at hchild
    have hdm : (clash sprint identity).asDataMap sprint =
        some [(sprint identity, .null), (sprint identity, .bool true)] := rfl
    simp only [mergedEntry, hsm, hdm] at hchild
    rw [root_enrich, Value.get_child hchild (List.cons_ne_nil _ _), Value.get,
      child_deepMergeData]
    have hnull : (Value.object [(sprint identity, .null), (sprint identity, .bool true)]).child
        (sprint identity) = some .null := by
      rw [Value.child, lookup_cons_ite, if_pos rfl]
    rw [hnull]
    rcases mergedEntry_cases sprint .null ((Value.object sm).child (sprint identity)) with
      hsame | ⟨-, -, dm, -, -, hleaf, -⟩
    · exact hsame
    · cases hleaf

end

section

variable {Blob : Type} {lib : Library Blob} {fields : List Text} {allowed : ℕ → Prop}

section

variable (hlossless : ParksLosslessly lib fields allowed) (hsurvives : Survives lib)

include hlossless hsurvives

/-- What is restored by gears that find their keys in equal trace ids. -/
lemma ParksLosslessly.traced (request reply : FluxMsg)
    (htrace : request.traceID = reply.traceID) (hrequest : request.root.KeysIn allowed)
    (hreply : reply.root.KeysIn allowed) :
    ∃ saved, Lossless fields request reply (enrich lib.sprintKey false reply saved) ∧
      (∀ name, saved.metadata.lookup name =
        (coat (traceConfig fields) request).metadata.lookup name) ∧
      (coat (traceConfig fields) request).root.Same saved.root := by
  obtain ⟨key, hkey, hkey'⟩ := extractKey_trace lib fields [] htrace
  have hstrategy : (traceConfig []).mergeStrategy ≠ utf8 "overwrite" := by decide
  obtain ⟨kv', sent, saved, hstore, hrestore, hmetadata, hdata⟩ :=
    store_restore hsurvives hstrategy hkey hkey' fun _ => none
  obtain ⟨kv, sent', restored, hstore', hrestore', hrestored⟩ :=
    hlossless (traceConfig fields) (traceConfig []) (fun _ => none) request reply key rfl hstrategy
      hrequest hreply hkey hkey'
  rw [hstore, Except.ok.injEq, Prod.mk.injEq] at hstore'
  rw [← hstore'.1, hrestore, Except.ok.injEq, Option.some.injEq] at hrestore'
  rw [← hrestore'] at hrestored
  exact ⟨saved, hrestored, hmetadata, hdata⟩

lemma ParksLosslessly.no_nameless : utf8 "meta." ∉ fields := by
  intro hmem
  have hkeys : ∀ msg : FluxMsg, msg.data = some [] → msg.root.KeysIn allowed := by
    intro msg hdata
    rw [FluxMsg.root, hdata]
    exact .empty
  obtain ⟨saved, hrestored, hmetadata, -⟩ :=
    hlossless.traced hsurvives nameless FluxMsg.new rfl (hkeys _ rfl) (hkeys _ rfl)
  have hsome : fields ≠ [] := List.ne_nil_of_mem hmem
  have hfree : utf8 "meta." ∉ reserved := by decide
  have hname : metaName (utf8 "meta.") = some [] := rfl
  have hmeets : ¬ Meets FluxMsg.new (utf8 "meta.") := by
    exact fun hcarried => hcarried rfl
  obtain ⟨value, hvalue, -⟩ := hrestored.back _ (.text (utf8 "s")) (.inl hmem) rfl hmeets
  rw [getValue_meta hfree hname, lookup_metadata_enrich, hmetadata, lookup_nil_coat hsome] at hvalue
  cases hvalue

lemma ParksLosslessly.no_clash (hregular : ∀ field ∈ fields, Regular field)
    (hdata : ¬ MetadataOnly fields) (identity : ℕ) : ¬ allowed identity := by
  intro hallowed
  -- Some field leads into the data.
  obtain ⟨field, hstored, hname⟩ : ∃ field, Stored fields field ∧ metaName field = none := by
    rw [MetadataOnly, not_and_or, not_not, not_forall] at hdata
    rcases hdata with hnone | ⟨field, hfield⟩
    · exact ⟨[], .inr ⟨hnone, by decide⟩, rfl⟩
    · rw [not_forall] at hfield
      obtain ⟨hmem, hname⟩ := hfield
      exact ⟨field, .inl hmem, not_not.mp hname⟩
  have hfree : field ∉ reserved := by
    rcases hstored with hmem | ⟨-, hfree⟩
    · exact (hregular field hmem).1
    · exact hfree
  cases hparts : splitDots (dataKey field) with
  | nil => exact splitDots_ne_nil _ hparts
  | cons part rest =>
    have hrequest : (nested part rest).root = nest (part :: rest) := rfl
    have hvalue : getValue (nested part rest) field = some (.object []) := by
      rw [getValue_data hfree hname, FluxMsg.get, ← FluxMsg.root, hrequest, hparts,
        get_nest (List.cons_ne_nil _ _)]
    obtain ⟨saved, hrestored, -, hsame⟩ :=
      hlossless.traced hsurvives (nested part rest) (clashing lib.sprintKey part identity) rfl
        (hrequest ▸ keysIn_nest _) (keysIn_clashing hallowed)
    obtain ⟨-, hholds⟩ := @coat_of_fields (traceConfig fields) (nested part rest) hregular
    have hcoat := hholds field hstored _ hvalue
    rw [getValue_data hfree hname, FluxMsg.get, hparts] at hcoat
    obtain ⟨stored, hsaved, hempty⟩ := hsame.get hcoat
    -- So the coat has a map at the first part of the path.
    obtain ⟨inner, hinner, hmap⟩ :
        ∃ inner, saved.root.child part = some inner ∧ inner.isMap = true := by
      by_cases hrest : rest = []
      · subst hrest
        exact ⟨stored, hsaved, hempty.isMap_eq⟩
      · obtain ⟨inner, hchild, hmap, -⟩ := (Value.get_cons_eq_some hrest).mp hsaved
        exact ⟨inner, hchild, hmap⟩
    obtain ⟨item, hitem, hkept⟩ := hrestored.data _ _ get_clashing
    rw [get_enrich_clashing hinner hmap, Option.some.injEq] at hitem
    rw [← hitem] at hkept
    rcases hkept with heq | ⟨hbool, -⟩
    · cases heq
    · cases hbool

end

end

/-- For every list of fields without reserved paths, and whichever keys that are no strings
may occur in maps: parking and restoring is lossless for all messages exactly if the
field `meta.` is not listed and either no such key may occur or metadata alone is
parked. -/
theorem park_restore_iff {Blob : Type} (lib : Library Blob) (hsurvives : Survives lib)
    (fields : List Text) (hreserved : ∀ field ∈ fields, field ∉ reserved)
    (allowed : ℕ → Prop) :
    ParksLosslessly lib fields allowed ↔
      utf8 "meta." ∉ fields ∧ (MetadataOnly fields ∨ ∀ identity, ¬ allowed identity) := by
  have hregular : utf8 "meta." ∉ fields → ∀ field ∈ fields, Regular field := by
    intro hmeta field hmem
    refine ⟨hreserved field hmem, ?_⟩
    rintro rfl
    exact hmeta hmem
  constructor
  · intro hlossless
    have hmeta := hlossless.no_nameless hsurvives
    refine ⟨hmeta, ?_⟩
    by_cases hdata : MetadataOnly fields
    · exact .inl hdata
    · exact .inr (hlossless.no_clash hsurvives (hregular hmeta) hdata)
  · rintro ⟨hmeta, hkeys⟩ storing restoring kv request reply key rfl hstrategy hrequest hreply
      hstore hrestore
    obtain ⟨kv', sent, saved, hstored, hrestored, hmetadata, hdata⟩ :=
      store_restore hsurvives hstrategy hstore hrestore kv
    refine ⟨kv', sent, _, hstored, hrestored, ?_⟩
    apply lossless_enrich lib.sprintKey (hregular hmeta) hmetadata hdata
    rcases hkeys with honly | hnone
    · exact .inl honly
    · exact .inr ⟨hrequest.mono hnone, hreply.mono hnone⟩

/-- The decoder does not know that the keys of a map are strings. -/
def reshape : Value → Value
  | .object fields => .table (fields.map fun field => (.text field.1, field.2))
  | value => value

lemma same_reshape (value : Value) : value.Same (reshape value) := by
  cases value with
  | object fields =>
    have hentry : ∀ key, (reshape (.object fields)).entry key =
        (Value.object fields).entry key := by
      intro key
      cases key <;> simp only [reshape, Value.entry] <;> induction fields <;> grind
    apply Value.Same.map rfl rfl
    · intro key
      rw [hentry]
    · intro key item item' hitem hitem'
      rw [hentry, hitem, Option.some.injEq] at hitem'
      exact hitem' ▸ .refl item
  | _ => exact .refl _

def reshapeAll (fields : List (Text × Value)) : List (Text × Value) :=
  fields.map fun field => (field.1, reshape field.2)

/-- A store that changes the shape of the maps in the data and nothing else. -/
def reshapingLibrary : Library FluxMsg where
  sprint := fun _ => []
  sprintKey := itoa
  marshal := some
  unmarshal := fun msg => some { msg with data := msg.data.map reshapeAll }

lemma survives_reshapingLibrary : Survives reshapingLibrary := by
  intro msg
  refine ⟨msg, _, rfl, rfl, fun _ => rfl, ?_⟩
  have hroot : ∀ fields, (Value.object fields).Same (.object (reshapeAll fields)) := by
    intro fields
    have hentry : ∀ key, (Value.object (reshapeAll fields)).entry key =
        ((Value.object fields).entry key).map reshape := by
      intro key
      cases key <;> simp only [reshapeAll, Value.entry] <;> induction fields <;> grind
    apply Value.Same.map rfl rfl
    · intro key
      rw [hentry, Option.map_eq_none_iff]
    · intro key item item' hitem hitem'
      rw [hentry, hitem] at hitem'
      exact Option.some.inj hitem' ▸ same_reshape item
  rw [FluxMsg.root, FluxMsg.root]
  cases msg.data with
  | none => exact hroot []
  | some fields => exact hroot fields

theorem pan_parks : ParksLosslessly reshapingLibrary
      [utf8 "data.iso8583.field.2", utf8 "meta.origin", utf8 "iso8583"] fun _ => False :=
  (park_restore_iff reshapingLibrary survives_reshapingLibrary _ (by decide) _).mpr
    ⟨by decide, .inr fun _ => id⟩

/-- The metadata entry without a name is read for the field `meta.` and does not come
back. -/
theorem nameless_lost : getValue nameless (utf8 "meta.") = some (.text (utf8 "s")) ∧
      ¬ Meets FluxMsg.new (utf8 "meta.") ∧
      ∃ stored restored,
        store reshapingLibrary (traceConfig [utf8 "meta."]) true (fun _ => none) nameless =
          .ok stored ∧
        restore reshapingLibrary (traceConfig []) stored.1 FluxMsg.new = .ok (some restored) ∧
        getValue restored (utf8 "meta.") = none := by
  refine ⟨rfl, fun hmeets => hmeets rfl, ?_⟩
  exact ⟨_, _, rfl, rfl, rfl⟩

end Fluxrig.Coatcheck
