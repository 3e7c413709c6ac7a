import Fluxrig.Translate.Amount

/-!
# Translation specs

A translation spec names protocol specs and says, message by message, which alias
of one becomes which alias of the other.  `load` takes the parsed document, builds
the spec and reports every problem it finds; what it accepts is `Loaded`.

Maps of the source are association lists, in the order in which the loader visits
their keys.
-/

namespace Fluxrig.Translate

open Fluxrig.Core Message

inductive Usage where
  | mandatory
  | optional
  | forbidden
  deriving DecidableEq

structure Iso20022Field where
  aliasName : Text
  currencyField : Text
  messages : List (Text × Usage)

/-- What a translation reads of an ISO 20022 spec.  The catalog gives the message each
message pairs with; `elementPaths` is what the wire library knows. -/
structure Iso20022Spec where
  id : Text
  version : Text
  catalog : List (Text × Text)
  fields : List (Text × Iso20022Field)
  aliases : List (Text × List (Text × Text))
  unlisted : Usage
  elementPaths : Text → List Text

namespace Iso20022Spec

variable (spec : Iso20022Spec)

def aliasesOf (message : Text) : List (Text × Text) := (spec.aliases.lookup message).getD []

def aliasPath (message name : Text) : Option Text := (spec.aliasesOf message).lookup name

def usage (message path : Text) : Usage :=
  (((spec.fields.lookup path).map (·.messages)).getD []).lookup message |>.getD spec.unlisted

def inMessage (message path : Text) : Bool :=
  match spec.fields.lookup path with
  | none => false
  | some field =>
      if field.messages = [] then decide (path ∈ spec.elementPaths message)
      else field.messages.any fun rule => rule.1 = message ∧ rule.2 ≠ .forbidden

end Iso20022Spec

/-- One entry of the matrix of an ISO 8583 field; `mti` lists the messages it names. -/
structure Iso8583Rule where
  mti : List Text
  usage : Text
  condition : Text

structure Iso8583Field where
  currencyField : Option ℕ
  messages : List Iso8583Rule

/-- What a translation reads of an ISO 8583 spec: its semantic part and the aliases the
loader gathers from it. -/
structure Iso8583Spec where
  specID : Text
  specVersion : Text
  catalog : List (Text × Text)
  fields : List (ℕ × Iso8583Field)
  aliases : List (ℕ × Text)
  idByAlias : List (Text × ℕ)

structure Required where
  aliasName : Text
  path : Text

inductive Protocol where
  | iso20022 (spec : Iso20022Spec)
  | iso8583 (spec : Iso8583Spec)

namespace Protocol

def id : Protocol → Text
  | iso20022 spec => spec.id
  | iso8583 spec => spec.specID

def version : Protocol → Text
  | iso20022 spec => spec.version
  | iso8583 spec => spec.specVersion

def kind : Protocol → ProtocolKind
  | iso20022 _ => .iso20022
  | iso8583 _ => .iso8583

def catalog : Protocol → List (Text × Text)
  | iso20022 spec => spec.catalog
  | iso8583 spec => spec.catalog

variable (protocol : Protocol)

def hasMessage (message : Text) : Bool :=
  (protocol.catalog.lookup message).isSome

def pairsWith (message : Text) : Text :=
  (protocol.catalog.lookup message).getD []

def hasAlias (message name : Text) : Bool :=
  match protocol with
  | iso20022 spec => (spec.aliasPath message name).isSome
  | iso8583 spec => (spec.idByAlias.lookup name).isSome

/-- The alias of the currency that goes with an amount.  An ISO 20022 path has one
alias at most in a message, so the order of its alias map does not matter. -/
def currencyAlias (message amount : Text) : Option Text :=
  match protocol with
  | iso20022 spec => do
      let path ← spec.aliasPath message amount
      let currency := ((spec.fields.lookup path).map (·.currencyField)).getD []
      if currency = [] then none
      else ((spec.aliasesOf message).find? fun entry => entry.2 = currency).map (·.1)
  | iso8583 spec => do
      let element ← spec.idByAlias.lookup amount
      let currency ← (spec.fields.lookup element).bind (·.currencyField)
      spec.aliases.lookup currency

/-- The fields a message requires, in any order: what comes of them is sorted.  The MTI
of ISO 8583 is set by `setMessage`. -/
def required (message : Text) : List Required :=
  match protocol with
  | iso20022 spec =>
      spec.fields.filterMap fun (path, field) =>
        if spec.usage message path ≠ .mandatory ∨ spec.inMessage message path = false then none
        else
          let named := field.aliasName ≠ [] ∧ spec.aliasPath message field.aliasName = some path
          some ⟨if named then field.aliasName else [], utf8 "iso20022." ++ path⟩
  | iso8583 spec =>
      spec.fields.flatMap fun (element, field) =>
        if element = 0 then []
        else
          field.messages.filterMap fun rule =>
            if rule.usage ≠ utf8 "mandatory" ∨ rule.condition ≠ [] ∨ message ∉ rule.mti then none
            else
              some ⟨(spec.aliases.lookup element).getD [], utf8 "iso8583.field." ++ itoa element⟩

/-- The alias under which the message itself stands in the data. -/
def messageAlias : Protocol → Option Text
  | iso20022 _ => none
  | iso8583 spec => spec.aliases.lookup 0

/-- The metadata key that says which message it is. -/
def messageKey : Protocol → Text
  | iso20022 _ => utf8 "iso20022.message"
  | iso8583 _ => utf8 "iso8583.mti"

/-- Make a message the given one of the protocol; a failed write is ignored. -/
def setMessage (protocol : Protocol) (msg : FluxMsg) (message : Text) : FluxMsg :=
  let named := msg.annotate protocol.messageKey message
  match protocol.messageAlias with
  | none => named
  | some name => (named.set name (.text message)).1

end Protocol

/-- One target alias and where its value comes from. -/
structure Binding where
  toAlias : Text
  sources : List Text
  value : Option Text
  lookup : Text
  generate : Text
  table : Text
  format : Text
  currency : Text
  deriving DecidableEq

structure Table where
  values : List (Text × Text)
  default : Option Text

structure Lookup where
  keySpec : Text
  keyAlias : Text
  fields : List Text
  source : Text
  records : Option (List (Text × List (Text × Text)))
  hash : Text

structure Translation where
  name : Text
  fromSpec : Text
  fromMessage : Text
  toSpec : Text
  toMessage : Text
  bindings : List Binding
  fromProto : Protocol
  toProto : Protocol

structure Spec where
  id : Text
  version : Text
  hash : Text
  participantID : Text
  protocols : List (Text × Protocol)
  translations : List (Text × Translation)
  tables : List (Text × Table)
  lookups : List (Text × Lookup)

structure LookupEntry where
  key : Text
  fields : List Text
  source : Text

structure TranslationEntry where
  fromRef : Text
  toRef : Text
  bindings : List Binding

structure Document where
  kind : Text
  id : Text
  version : Text
  specs : List (Text × Text)
  participantID : Text
  lookups : List (Text × LookupEntry)
  tables : List (Text × List (Text × Text))
  translations : List (Text × TranslationEntry)

/-- What is wrong with a binding, with what the message names. -/
inductive BindingProblem where
  | noTo
  | writtenTwice
  | notTargetAlias
  | notSourceAlias (source : Text)
  | unknownLookup (lookup : Text)
  | noLookupField (lookup : Text)
  | foreignLookupKey (lookup : Text)
  | instrIdRefused
  | unknownGenerate (generate : Text)
  | kinds (count : ℕ)
  | unknownTable (table : Text)
  | currencyWithoutFormat
  | amountNeedsOneSource
  | currencyNotAlias (currency : Text)
  | noCurrencyField
  | unknownFormat (format : Text)

inductive Problem where
  | wrongKind (kind : Text)
  | emptyID
  | badVersion (version : Text)
  | badParticipant (participantID : Text)
  | noSpecs
  | spec (name ref reason : Text)
  | lookupKey (name key : Text)
  | lookupSource (name : Text)
  | lookupFields (name : Text)
  | unknownFromSpec (name ref : Text)
  | unknownFromMessage (name ref : Text)
  | unknownToSpec (name ref : Text)
  | unknownToMessage (name ref : Text)
  | binding (name : Text) (index : ℕ) (toAlias : Text) (problem : BindingProblem)
  | pairing (name other : Text)

def amountFormat : Text := utf8 "amount"

/-- How many of `from`, `value`, `lookup` and `generate` a binding has. -/
def Binding.kinds (binding : Binding) : ℕ :=
  (if binding.sources = [] then 0 else 1) + (if binding.value = none then 0 else 1) +
    (if binding.lookup = [] then 0 else 1) + (if binding.generate = [] then 0 else 1)

section

variable (spec : Spec) (tr : Translation)

variable (binding : Binding)

def checkSources : List BindingProblem :=
  binding.sources.flatMap fun source =>
    problemIf (tr.fromProto.hasAlias tr.fromMessage source = false) (.notSourceAlias source)

def checkLookup : List BindingProblem :=
  if binding.lookup = [] then []
  else
    match spec.lookups.lookup (cutDot binding.lookup).1 with
    | none => [.unknownLookup binding.lookup]
    | some lookup =>
        if 46 ∉ binding.lookup then [.unknownLookup binding.lookup]
        else if (cutDot binding.lookup).2 ∉ lookup.fields then [.noLookupField binding.lookup]
        else
          problemIf (lookup.keySpec ≠ tr.fromSpec ∨
              tr.fromProto.hasAlias tr.fromMessage lookup.keyAlias = false)
            (.foreignLookupKey binding.lookup)

def checkGenerate : List BindingProblem :=
  if binding.generate ∈ [[], utf8 "now", utf8 "today", utf8 "uuid"] then []
  else if binding.generate = utf8 "instr_id" then
    problemIf (tr.toProto.kind ≠ .iso20022 ∨ spec.participantID = []) .instrIdRefused
  else [.unknownGenerate binding.generate]

def checkFormat : List BindingProblem :=
  if binding.format = [] then problemIf (binding.currency ≠ []) .currencyWithoutFormat
  else if binding.format = amountFormat then
    List.flatten [
      if binding.sources.length ≠ 1 ∨ binding.currency = [] then [.amountNeedsOneSource]
      else
        problemIf
          (tr.fromProto.hasAlias tr.fromMessage binding.currency = false)
          (.currencyNotAlias binding.currency),
      problemIf (tr.toProto.currencyAlias tr.toMessage binding.toAlias = none) .noCurrencyField]
  else [.unknownFormat binding.format]

/-- The checks of a binding that has a target, in the order of the source. -/
def checkBinding (seen : List Text) (binding : Binding) : List BindingProblem :=
  List.flatten [
    problemIf (binding.toAlias ∈ seen) .writtenTwice,
    problemIf (tr.toProto.hasAlias tr.toMessage binding.toAlias = false) .notTargetAlias,
    checkSources tr binding,
    checkLookup spec tr binding,
    checkGenerate spec tr binding,
    problemIf (binding.kinds ≠ 1) (.kinds binding.kinds),
    problemIf (binding.table ≠ [] ∧ spec.tables.lookup binding.table = none)
      (.unknownTable binding.table),
    checkFormat tr binding]

def checkBindings : ℕ → List Text → List Binding → List Problem
  | _, _, [] => []
  | index, seen, binding :: rest =>
      if binding.toAlias = [] then
        .binding tr.name index binding.toAlias .noTo :: checkBindings (index + 1) seen rest
      else
        (checkBinding spec tr seen binding).map (.binding tr.name index binding.toAlias) ++
          checkBindings (index + 1) (binding.toAlias :: seen) rest

end

/-- The spec and the message a reference names. -/
def splitRef (ref : Text) : Text × Text := cut 58 ref

/-- The translation an entry describes, when both its specs are there. -/
def link (protocols : List (Text × Protocol)) (name : Text) (entry : TranslationEntry) :
    Option Translation := do
  let fromProto ← protocols.lookup (splitRef entry.fromRef).1
  let toProto ← protocols.lookup (splitRef entry.toRef).1
  some {
    name := name
    fromSpec := (splitRef entry.fromRef).1
    fromMessage := (splitRef entry.fromRef).2
    toSpec := (splitRef entry.toRef).1
    toMessage := (splitRef entry.toRef).2
    bindings := entry.bindings
    fromProto := fromProto
    toProto := toProto }

/-- One end of a translation names a spec and a message of it. -/
def checkEnd (protocols : List (Text × Protocol)) (ref : Text)
    (unknownSpec unknownMessage : Problem) : List Problem :=
  match protocols.lookup (splitRef ref).1 with
  | none => [unknownSpec]
  | some protocol => problemIf (protocol.hasMessage (splitRef ref).2 = false) unknownMessage

def checkTranslation (spec : Spec) (name : Text) (entry : TranslationEntry) : List Problem :=
  checkEnd spec.protocols entry.fromRef (.unknownFromSpec name entry.fromRef)
      (.unknownFromMessage name entry.fromRef) ++
    checkEnd spec.protocols entry.toRef (.unknownToSpec name entry.toRef)
      (.unknownToMessage name entry.toRef) ++
    match link spec.protocols name entry with
    | none => []
    | some tr => checkBindings spec tr 1 [] entry.bindings

/-- A reply goes back as the message the request pairs with. -/
def checkPairing (spec : Spec) : List Problem :=
  spec.translations.flatMap fun (_, forth) =>
    let srcPair := forth.fromProto.pairsWith forth.fromMessage
    let dstPair := forth.toProto.pairsWith forth.toMessage
    if srcPair = [] ∨ dstPair = [] then []
    else
      spec.translations.flatMap fun (_, back) =>
        problemIf (back.fromSpec = forth.toSpec ∧ back.toSpec = forth.fromSpec ∧
            back.fromMessage = dstPair ∧ back.toMessage ≠ srcPair)
          (.pairing back.name forth.name)

/-- `^[0-9]+\.[0-9]+\.[0-9]+$`. -/
def isVersion (version : Text) : Bool :=
  match splitDots version with
  | [major, minor, patch] => digitsOnly major && digitsOnly minor && digitsOnly patch
  | _ => false

/-- `^[A-Z0-9]{11}$`. -/
def isParticipant (participantID : Text) : Bool :=
  participantID.length = 11 && participantID.all fun byte =>
    isDigit byte || (65 ≤ byte && byte ≤ 90)

def Table.ofEntries (entries : List (Text × Text)) : Table where
  values := entries.filter fun entry => entry.1 ≠ utf8 "default"
  default := entries.lookup (utf8 "default")

def Lookup.ofEntry (entry : LookupEntry) : Lookup where
  keySpec := (cut 58 entry.key).1
  keyAlias := (cut 58 entry.key).2
  fields := entry.fields
  source := entry.source
  records := none
  hash := []

/-- Resolves a reference to a protocol spec and loads it, or says why not. -/
abbrev ProtocolLoader := Text → Except Text Protocol

namespace Document

variable (document : Document) (loadProtocol : ProtocolLoader)

def protocols : List (Text × Protocol) :=
  document.specs.filterMap fun (name, ref) =>
    (loadProtocol ref).toOption.map fun protocol => (name, protocol)

/-- The spec `Load` fills in.  A lookup without a proper key is left out. -/
def spec (hash : Text) : Spec where
  id := document.id
  version := document.version
  hash := hash
  participantID := document.participantID
  protocols := document.protocols loadProtocol
  translations := document.translations.filterMap fun (name, entry) =>
    (link (document.protocols loadProtocol) name entry).map fun tr =>
      (name, tr)
  tables := document.tables.map fun (name, entries) => (name, Table.ofEntries entries)
  lookups := document.lookups.filterMap fun (name, entry) =>
    if 58 ∈ entry.key then some (name, Lookup.ofEntry entry) else none

def checkHeader : List Problem :=
  List.flatten [
    problemIf (document.kind ≠ utf8 "translation") (.wrongKind document.kind),
    problemIf (document.id = []) .emptyID,
    problemIf (isVersion document.version = false) (.badVersion document.version),
    problemIf (document.participantID ≠ [] ∧ isParticipant document.participantID = false)
      (.badParticipant document.participantID),
    problemIf (document.specs = []) .noSpecs]

def checkSpecs : List Problem :=
  document.specs.filterMap fun (name, ref) =>
    match loadProtocol ref with
    | .ok _ => none
    | .error reason => some (.spec name ref reason)

def checkLookups : List Problem :=
  document.lookups.flatMap fun (name, entry) =>
    if 58 ∉ entry.key then [.lookupKey name entry.key]
    else
      problemIf (entry.source = []) (.lookupSource name) ++
        problemIf (entry.fields = []) (.lookupFields name)

def problems (hash : Text) : List Problem :=
  document.checkHeader ++ document.checkSpecs loadProtocol ++ document.checkLookups ++
    (document.translations.flatMap fun (name, entry) =>
      checkTranslation (document.spec loadProtocol hash) name entry) ++
    checkPairing (document.spec loadProtocol hash)

/-- `Load`, after the document is parsed and its hash taken. -/
def load (hash : Text) : Except (List Problem) Spec :=
  match document.problems loadProtocol hash with
  | [] => .ok (document.spec loadProtocol hash)
  | problems => .error problems

end Document

/-- The records behind a source and their hash, when they resolve and parse. -/
abbrev RecordSource := Text → Option (List (Text × List (Text × Text)) × Text)

def recordsDeclared (lookup : Lookup) (records : List (Text × List (Text × Text))) : Bool :=
  records.all fun record => record.2.all fun field => decide (field.1 ∈ lookup.fields)

/-- The records of the lookups in order, up to the first that fails; those before it stay
loaded. -/
def fillLookups (source : RecordSource) : List (Text × Lookup) → List (Text × Lookup)
  | [] => []
  | (name, lookup) :: rest =>
      match source lookup.source with
      | none => (name, lookup) :: rest
      | some (records, hash) =>
          if recordsDeclared lookup records = false then (name, lookup) :: rest
          else
            (name, { lookup with records := some records, hash := hash }) ::
              fillLookups source rest

/-- The spec after `LoadLookups`, whether or not it returns an error. -/
def Spec.loadLookups (spec : Spec) (source : RecordSource) : Spec :=
  { spec with lookups := fillLookups source spec.lookups }

/-- The specs a gear can hold: accepted by `Load`, with records read any number of
times. -/
inductive Loaded : Spec → Prop
  | load {document : Document} {loadProtocol : ProtocolLoader} {hash : Text} {spec : Spec}
      (hload : document.load loadProtocol hash = .ok spec) : Loaded spec
  | lookups {spec : Spec} (hloaded : Loaded spec) (source : RecordSource) :
      Loaded (spec.loadLookups source)

/-- What the checks guarantee about the bindings of a translation. -/
structure Translation.WellBound (tr : Translation) : Prop where
  targets : (tr.bindings.map (·.toAlias)).Nodup
  oneKind : ∀ binding ∈ tr.bindings, binding.kinds = 1
  amountSource : ∀ binding ∈ tr.bindings, binding.format = amountFormat →
    ∃ source, binding.sources = [source]
  amountCurrency : ∀ binding ∈ tr.bindings, binding.format = amountFormat →
    ∃ name, tr.toProto.currencyAlias tr.toMessage binding.toAlias = some name

section

variable {spec : Spec} {tr : Translation}

variable {seen : List Text} {binding : Binding}

lemma checkBinding_eq_nil (hnone : checkBinding spec tr seen binding = []) :
    binding.toAlias ∉ seen ∧ binding.kinds = 1 ∧ checkFormat tr binding = [] := by
  simp only [checkBinding, List.flatten_cons, List.append_eq_nil_iff, problemIf_eq_nil,
    not_not] at hnone
  obtain ⟨hseen, -, -, -, -, hkinds, -, hformat, -⟩ := hnone
  exact ⟨hseen, hkinds, hformat⟩

lemma checkFormat_eq_nil (hamount : binding.format = amountFormat)
    (hnone : checkFormat tr binding = []) :
    (∃ source, binding.sources = [source]) ∧
      ∃ name, tr.toProto.currencyAlias tr.toMessage binding.toAlias = some name := by
  have hformat : amountFormat ≠ [] := by decide
  simp only [checkFormat, hamount, if_neg hformat, List.flatten_cons,
    List.append_eq_nil_iff, problemIf_eq_nil, if_true] at hnone
  refine ⟨?_, Option.ne_none_iff_exists'.mp hnone.2.1⟩
  rw [← List.length_eq_one_iff]
  by_contra hsources
  rw [if_pos (Or.inl hsources)] at hnone
  cases hnone.1

/-- The checks of the bindings from `index` on, where `seen` holds the earlier targets. -/
lemma checkBindings_eq_nil {index : ℕ} {bindings : List Binding}
    (hnone : checkBindings spec tr index seen bindings = []) :
    (bindings.map (·.toAlias)).Nodup ∧
      ∀ binding ∈ bindings, binding.toAlias ∉ seen ∧ binding.kinds = 1 ∧
        checkFormat tr binding = [] := by
  induction bindings generalizing index seen with
  | nil => simp
  | cons first _ ih =>
    rw [checkBindings] at hnone
    by_cases hto : first.toAlias = []
    · rw [if_pos hto] at hnone
      nomatch hnone
    · rw [if_neg hto, List.append_eq_nil_iff, List.map_eq_nil_iff] at hnone
      obtain ⟨hnodup, hrest⟩ := ih hnone.2
      refine ⟨?_, ?_⟩
      · rw [List.map_cons, List.nodup_cons]
        refine ⟨?_, hnodup⟩
        intro hmem
        obtain ⟨later, hlater, hsame⟩ := List.mem_map.mp hmem
        exact (hrest later hlater).1 (hsame ▸ List.mem_cons_self)
      · intro binding hbinding
        cases List.mem_cons.mp hbinding with
        | inl hfirst =>
          rw [hfirst]
          exact checkBinding_eq_nil hnone.1
        | inr hlater =>
          obtain ⟨hseen, hchecks⟩ := hrest binding hlater
          exact ⟨fun hmem => hseen (List.mem_cons_of_mem _ hmem), hchecks⟩

lemma wellBound_of_checkBindings {index : ℕ}
    (hnone : checkBindings spec tr index seen tr.bindings = []) :
    tr.WellBound := by
  obtain ⟨htargets, hchecks⟩ := checkBindings_eq_nil hnone
  constructor
  · exact htargets
  · intro binding hbinding
    exact (hchecks binding hbinding).2.1
  · intro binding hbinding hamount
    exact (checkFormat_eq_nil hamount (hchecks binding hbinding).2.2).1
  · intro binding hbinding hamount
    exact (checkFormat_eq_nil hamount (hchecks binding hbinding).2.2).2

lemma load_ok {document : Document} {loadProtocol : ProtocolLoader} {hash : Text}
    (hload : document.load loadProtocol hash = .ok spec) :
    document.problems loadProtocol hash = [] ∧ spec = document.spec loadProtocol hash := by
  rw [Document.load] at hload
  split at hload
  · rename_i hnone
    exact ⟨hnone, (Except.ok.inj hload).symm⟩
  · nomatch hload

lemma link_bindings {protocols : List (Text × Protocol)} {name : Text}
    {entry : TranslationEntry} (hlink : link protocols name entry = some tr) :
    tr.bindings = entry.bindings := by
  simp only [link, Option.bind_eq_bind, Option.bind_eq_some_iff, Option.some.injEq] at hlink
  obtain ⟨_, -, _, -, hlink⟩ := hlink
  rw [← hlink]

/-- The translations of a loaded spec are well bound. -/
lemma Loaded.wellBound (hloaded : Loaded spec) {name : Text}
    (htranslation : (name, tr) ∈ spec.translations) : tr.WellBound := by
  induction hloaded with
  | @load document loadProtocol hash spec hload =>
    obtain ⟨hnone, hspec⟩ := load_ok hload
    rw [hspec, Document.spec, List.mem_filterMap] at htranslation
    obtain ⟨⟨entryName, entry⟩, hentry, hlink⟩ := htranslation
    rw [Option.map_eq_some_iff] at hlink
    obtain ⟨linked, hlinked, hpair⟩ := hlink
    obtain ⟨rfl, rfl⟩ := Prod.mk.inj hpair
    rw [Document.problems, List.append_eq_nil_iff, List.append_eq_nil_iff] at hnone
    have hcheck : checkTranslation (document.spec loadProtocol hash) entryName entry = [] :=
      List.flatMap_eq_nil_iff.mp hnone.1.2 _ hentry
    have hfound : link (document.spec loadProtocol hash).protocols entryName entry =
        some linked := hlinked
    rw [checkTranslation, hfound, List.append_eq_nil_iff] at hcheck
    apply wellBound_of_checkBindings
    rw [link_bindings hlinked]
    exact hcheck.2
  | lookups _ _ ih => exact ih htranslation

end

end Fluxrig.Translate
