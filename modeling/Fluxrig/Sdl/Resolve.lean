import Fluxrig.Sdl.Grammar
import Mathlib.Data.List.Sort

/-!
# References inside a specification

A specification is mostly claims about itself: this field takes its values from that
set, this condition reads that data element.  `resolveReferences` checks them all
once, when the specification is loaded, and refuses it with every problem found.
-/

namespace Fluxrig.Sdl

open Fluxrig.Core Message

/-- A value domain: codes with their categories. -/
structure ValueSet where
  closed : Bool
  values : List (Text × Text)

structure Part where
  tag : Text
  aliasName : Text
  valuesRef : Text
  validValues : Option ValueSet

/-- What a field means in some messages.  `codes` is what `mtiCodes` returns. -/
structure MessageRule where
  codes : List Text
  usage : Text
  condition : Text
  responseValue : Text
  valuesRef : Text
  validValues : Option ValueSet

structure Field where
  aliasName : Text
  sensitivity : Text
  logMask : Option Bool
  valuesRef : Text
  validValues : Option ValueSet
  kind : Text
  currencyField : Option ℤ
  parts : List Part
  messages : List MessageRule

structure CatalogEntry where
  flow : Text
  pairsWith : Text
  transitions : List Text

structure Check where
  mti : List Text
  name : Text
  assert : Text
  severity : Text
  note : Text

/-- A generator's choice: the value set it draws from and the codes it weights. -/
structure SimValue where
  drawsFrom : Text
  weights : List Text

structure Histogram where
  field : Text
  groupBy : Text

/-- The semantic layer.  A value set may be declared and left empty (nil). -/
structure Spec where
  catalog : AList fun _ : Text => CatalogEntry
  enums : AList fun _ : Text => Option ValueSet
  fields : AList fun _ : ℤ => Field
  checks : List Check
  dimensions : List Text
  histograms : List Histogram
  defaults : AList fun _ : ℤ => SimValue
  templates : AList fun _ : Text => AList fun _ : ℤ => SimValue
  mix : List Text

inductive Place where
  | field (de : ℤ)
  | part (de : ℤ) (ordinal : ℕ)
  | tag (de : ℤ) (tag : Text)
  | rule (de : ℤ) (ordinal : ℕ)
  | check (name : Text)
  | nthCheck (ordinal : ℕ)
  | histogram (ordinal : ℕ) (field : Text)
  | default (de : ℤ)
  | template (mti : Text) (de : ℤ)

inductive Problem where
  | emptyCatalog (place : Place)
  | specialSet (place : Place) (ref : Text)
  | undeclaredSet (place : Place) (ref : Text)
  | unmasked (de : ℤ) (sensitivity : Text)
  | undeclaredCurrency (de currency : ℤ)
  | notCurrency (de currency : ℤ) (ref : Text)
  | unknownMessage (place : Place) (code : Text)
  | responseOnRequest (place : Place) (value code : Text)
  | badWhen (place : Place) (err : WhenErr)
  | undeclaredField (place : Place) (de : ℤ)
  | undeclaredPart (place : Place) (ref : FieldRef)
  | unknownPair (code other : Text)
  | unknownTransition (code other : Text)
  | unknownSeverity (place : Place) (severity : Text)
  | unknownDimension (dimension : Text)
  | unboundedDimension (dimension : Text) (noSet : Bool)
  | unknownSubject (place : Place)
  | unknownGroup (place : Place) (group : Text)
  | otherCurrency (place : Place) (group currency : ℤ)
  | noCurrency (place : Place) (group : ℤ)
  | undeclaredDraw (place : Place) (ref : Text)
  | unknownDraw (place : Place) (ref code : Text)
  /-- The resolver dereferences a nil value set. -/
  | nilSet (place : Place) (ref : Text)
  | unknownMix (ordinal : ℕ) (code : Text)
  | cycle (path : List ℤ)

def currencyEnum : Text := utf8 "currency_iso4217"

def allMessages : Text := utf8 "@messages"

def isSensitive (sensitivity : Text) : Bool :=
  sensitivity ∈ [utf8 "pan", utf8 "chd", utf8 "sad", utf8 "pii"]

namespace Spec

variable (spec : Spec)

def fieldExists (de : ℤ) : Bool := (spec.fields.lookup de).isSome

def inCatalog (code : Text) : Bool := (spec.catalog.lookup code).isSome

end Spec

/-- The parts of a composite with the name each is addressed by: its tag, or its
ordinal. -/
def Field.addressed (field : Field) : List (Text × Part) :=
  field.parts.zipIdx.map fun (part, index) =>
    (if part.tag = [] then decimal (index + 1) else part.tag, part)

def Spec.subExists (spec : Spec) (de : ℤ) (subs : List Text) : Bool :=
  match spec.fields.lookup de with
  | none => false
  | some field =>
      subs.all (fun sub => (field.addressed.lookup sub).isSome) &&
        (subs.isEmpty || !field.parts.isEmpty)

/-- The entries of a list with their ordinals. -/
def numbered {Item : Type} (items : List Item) : List (ℕ × Item) :=
  items.zipIdx.map fun (item, index) => (index + 1, item)

lemma mem_numbered_iff {Item : Type} {items : List Item} {item : Item} :
    (∃ ordinal, (ordinal, item) ∈ numbered items) ↔ item ∈ items := by
  simp only [numbered, List.mem_map, Prod.exists, List.mem_zipIdx_iff_getElem?, Prod.mk.injEq]
  constructor
  · rintro ⟨ordinal, found, index, hget, -, rfl⟩
    exact List.mem_of_getElem? hget
  · intro hmem
    obtain ⟨index, hget⟩ := List.mem_iff_getElem?.mp hmem
    exact ⟨index + 1, item, index, hget, rfl, rfl⟩

section

variable (spec : Spec)

def checkValuesRef (place : Place) (ref : Text) : List Problem :=
  if ref = [] then []
  else if ref = allMessages then problemIf (spec.catalog.entries = []) (.emptyCatalog place)
  else if ref.head? = some 64 then [.specialSet place ref]
  else problemIf ((spec.enums.lookup ref).isNone = true) (.undeclaredSet place ref)

def checkWhen (place : Place) (src : Text) : List Problem :=
  if src = [] then []
  else
    match parseWhen src with
    | .error err => [.badWhen place err]
    | .ok expr =>
        expr.refs.flatMap fun ref =>
          if spec.fieldExists ref.de = false then [.undeclaredField place ref.de]
          else problemIf (ref.subs ≠ [] ∧ spec.subExists ref.de ref.subs = false)
            (.undeclaredPart place ref)

def checkCurrency (de : ℤ) (field : Field) : List Problem :=
  match field.currencyField with
  | none => []
  | some currency =>
      match spec.fields.lookup currency with
      | none => [.undeclaredCurrency de currency]
      | some other =>
          problemIf (other.valuesRef ≠ currencyEnum) (.notCurrency de currency other.valuesRef)

def checkCode (place : Place) (responseValue code : Text) : List Problem :=
  match spec.catalog.lookup code with
  | none => [.unknownMessage place code]
  | some entry =>
      problemIf (responseValue ≠ [] ∧ entry.flow = utf8 "request")
        (.responseOnRequest place responseValue code)

def checkRule (de : ℤ) (rule : ℕ × MessageRule) : List Problem :=
  checkValuesRef spec (.rule de rule.1) rule.2.valuesRef ++
    rule.2.codes.flatMap (checkCode spec (.rule de rule.1) rule.2.responseValue) ++
    checkWhen spec (.rule de rule.1) rule.2.condition

def partPlace (de : ℤ) (part : ℕ × Part) : Place :=
  if part.2.tag = [] then .part de part.1 else .tag de part.2.tag

def checkField (de : ℤ) (field : Field) : List Problem :=
  List.flatten [
    checkValuesRef spec (.field de) field.valuesRef,
    (numbered field.parts).flatMap
      (fun part => checkValuesRef spec (partPlace de part) part.2.valuesRef),
    problemIf (field.logMask = some false ∧ isSensitive field.sensitivity = true)
      (.unmasked de field.sensitivity),
    checkCurrency spec de field,
    (numbered field.messages).flatMap (checkRule spec de)]

def checkEntry (code : Text) (entry : CatalogEntry) : List Problem :=
  problemIf (entry.pairsWith ≠ [] ∧ spec.inCatalog entry.pairsWith = false)
      (.unknownPair code entry.pairsWith) ++
    entry.transitions.flatMap fun other =>
      problemIf (spec.inCatalog other = false) (.unknownTransition code other)

def severityReject : Text := utf8 "reject"

def severityWarn : Text := utf8 "warn"

def checkPlace (check : ℕ × Check) : Place :=
  if check.2.name = [] then .nthCheck check.1 else .check check.2.name

def checkCheck (check : ℕ × Check) : List Problem :=
  List.flatten [
    check.2.mti.flatMap (fun code =>
      problemIf (spec.inCatalog code = false) (.unknownMessage (checkPlace check) code)),
    problemIf (check.2.severity ≠ [] ∧ check.2.severity ≠ severityReject ∧
        check.2.severity ≠ severityWarn)
      (.unknownSeverity (checkPlace check) check.2.severity),
    checkWhen spec (checkPlace check) check.2.assert]

/-- The field a dimension names: a path, or an alias.  The fields are visited in any
order, which is that of the list. -/
def resolveDimension (dimension : Text) : Option (ℤ × List Text) :=
  match parsePath dimension 0 with
  | .ok ref => if spec.fieldExists ref.de then some (ref.de, ref.subs) else none
  | .error _ =>
      (spec.fields.entries.find? fun entry => entry.2.aliasName = dimension).map
        fun entry => (entry.1, [])

def ValueSet.categorised (set : ValueSet) : Bool :=
  !set.values.isEmpty && set.values.all fun value => value.2 ≠ []

def dimensionValueSet (de : ℤ) (subs : List Text) : Option ValueSet :=
  match spec.fields.lookup de with
  | none => none
  | some field =>
      let domain : Text × Option ValueSet :=
        match subs with
        | [] => (field.valuesRef, field.validValues)
        | sub :: _ =>
            match field.addressed.lookup sub with
            | none => ([], none)
            | some part => (part.valuesRef, part.validValues)
      match domain.2 with
      | some set => some set
      | none =>
          if domain.1 = [] then none
          else if domain.1 = allMessages then some ⟨true, []⟩
          else (spec.enums.lookup domain.1).join

def checkDimension (dimension : Text) : List Problem :=
  if dimension = utf8 "mti" then []
  else
    match resolveDimension spec dimension with
    | none => [.unknownDimension dimension]
    | some (de, subs) =>
        match dimensionValueSet spec de subs with
        | none => [.unboundedDimension dimension true]
        | some set =>
            problemIf (set.closed = false ∧ set.categorised = false)
              (.unboundedDimension dimension false)

/-- Grouping an amount by something other than its currency. -/
def checkGroup (place : Place) (subject group : ℤ) : List Problem :=
  match spec.fields.lookup subject, spec.fields.lookup group with
  | some amount, some other =>
      if amount.kind ≠ utf8 "amount" then []
      else
        match amount.currencyField with
        | some currency => problemIf (currency ≠ group) (.otherCurrency place group currency)
        | none => problemIf (other.valuesRef ≠ currencyEnum) (.noCurrency place group)
  | _, _ => []

def checkHistogram (histogram : ℕ × Histogram) : List Problem :=
  let place := Place.histogram histogram.1 histogram.2.field
  match resolveDimension spec histogram.2.field with
  | none => [.unknownSubject place]
  | some (subject, _) =>
      if histogram.2.groupBy = [] then []
      else
        match resolveDimension spec histogram.2.groupBy with
        | none => [.unknownGroup place histogram.2.groupBy]
        | some (group, _) => checkGroup spec place subject group

def checkDraw (place : Place) (value : SimValue) : List Problem :=
  if value.drawsFrom = [] then []
  else
    match spec.enums.lookup value.drawsFrom with
    | none => [.undeclaredDraw place value.drawsFrom]
    | some none => problemIf (value.weights ≠ []) (.nilSet place value.drawsFrom)
    | some (some set) =>
        value.weights.flatMap fun code =>
          problemIf (code ∉ set.values.map Prod.fst) (.unknownDraw place value.drawsFrom code)

def checkMix (use : ℕ × Text) : List Problem :=
  problemIf (use.2 ≠ [] ∧ spec.inCatalog use.2 = false) (.unknownMix use.1 use.2)

/-- The other fields the conditions of a field read; a condition that does not parse is
reported elsewhere. -/
def dependencies (de : ℤ) : List ℤ :=
  match spec.fields.lookup de with
  | none => []
  | some field =>
      let reads := field.messages.flatMap fun rule =>
        if rule.condition = [] then []
        else
          match parseWhen rule.condition with
          | .error _ => []
          | .ok expr => (expr.refs.map FieldRef.de).filter (· ≠ de)
      reads.dedup.insertionSort (· ≤ ·)

end

inductive Visit where
  | unvisited
  | onPath
  | done
  deriving DecidableEq

/-- How far a depth-first search has come. -/
structure Search where
  state : ℤ → Visit
  path : List ℤ

/-- The search below a list of nodes, in which a node on the current path closes a
cycle. -/
def searchAll (visit : ℤ → Search → Option (List ℤ) × Search) :
    List ℤ → Search → Option (List ℤ) × Search
  | [], search => (none, search)
  | next :: others, search =>
      match search.state next with
      | .onPath => (some (search.path.dropWhile (· ≠ next) ++ [next]), search)
      | .done => searchAll visit others search
      | .unvisited =>
          match visit next search with
          | (some cycle, after) => (some cycle, after)
          | (none, after) => searchAll visit others after

/-- The search from a node.  A path visits no node twice, which bounds its depth. -/
def searchFrom (deps : ℤ → List ℤ) : ℕ → ℤ → Search → Option (List ℤ) × Search
  | 0, _, search => (none, search)
  | bound + 1, de, search =>
      let entered : Search :=
        { state := Function.update search.state de .onPath, path := search.path ++ [de] }
      match searchAll (searchFrom deps bound) (deps de) entered with
      | (some cycle, after) => (some cycle, after)
      | (none, after) =>
          (none, { state := Function.update after.state de .done, path := after.path.dropLast })

/-- The search from every node that is not visited yet, each with an empty path. -/
def searchEvery (deps : ℤ → List ℤ) (bound : ℕ) : List ℤ → Search → Option (List ℤ)
  | [], _ => none
  | de :: others, search =>
      if search.state de ≠ .unvisited then searchEvery deps bound others search
      else
        match searchFrom deps bound de { search with path := [] } with
        | (some cycle, _) => some cycle
        | (none, after) => searchEvery deps bound others after

section

variable (spec : Spec)

def sortedFieldIDs : List ℤ := spec.fields.keys.insertionSort (· ≤ ·)

def checkWhenCycles : List Problem :=
  let starts := (sortedFieldIDs spec).filter fun de => dependencies spec de ≠ []
  match searchEvery (dependencies spec) (spec.fields.keys.length + 1) starts
      ⟨fun _ => .unvisited, []⟩ with
  | none => []
  | some cycle => [.cycle cycle]

/-- A check of every entry of a map, in the order of its keys. -/
def checkKeyed {Key Item : Type} [DecidableEq Key] [LE Key] [DecidableLE Key]
    (entries : AList fun _ : Key => Item) (check : Key → Item → List Problem) :
    List Problem :=
  (entries.keys.insertionSort (· ≤ ·)).flatMap fun key =>
    match entries.lookup key with
    | none => []
    | some item => check key item

def resolveErrors : List Problem :=
  List.flatten [
    checkKeyed spec.fields (checkField spec),
    checkKeyed spec.catalog (checkEntry spec),
    (numbered spec.checks).flatMap (checkCheck spec),
    spec.dimensions.flatMap (checkDimension spec),
    (numbered spec.histograms).flatMap (checkHistogram spec),
    checkKeyed spec.defaults (fun de => checkDraw spec (.default de)),
    checkKeyed spec.templates (fun mti entries =>
      checkKeyed entries fun de => checkDraw spec (.template mti de)),
    (numbered spec.mix).flatMap (checkMix spec),
    checkWhenCycles spec]

def resolveReferences : Except (List Problem) Unit :=
  match resolveErrors spec with
  | [] => .ok ()
  | problems => .error problems

end

end Fluxrig.Sdl
