import Fluxrig.Sdl.Eval
import Fluxrig.Sdl.Resolve

/-!
# The validator of a specification

`newValidator` compiles the rules of a specification once; `validate` reports every
rule a message breaks.  The resolver skips an assertion that is empty and the
compiler parses it, so a specification that loads compiles exactly when no check
leaves its assertion empty (`loaded_compiles_iff`).
-/

namespace Fluxrig.Sdl

open Fluxrig.Core Message

structure CompiledRule where
  de : ℤ
  path : Text
  usage : Text
  condition : Option WhenExpr
  values : Option ValueSet

structure CompiledCheck where
  name : Text
  severity : Text
  assert : WhenExpr
  note : Text

/-- The compiled rules, each under every message it is for, in the order of the
specification. -/
structure Validator where
  rules : List (Text × CompiledRule)
  checks : List (Text × CompiledCheck)
  closed : List (Text × ValueSet)

inductive CompileErr where
  | field (de : ℤ) (err : WhenErr)
  | check (name : Text) (err : WhenErr)

/-- `fmt.Sprint` of an `int`. -/
def sprintInt (n : ℤ) : Text :=
  if n < 0 then 45 :: decimal n.natAbs else decimal n.natAbs

def Check.level (check : Check) : Text :=
  if check.severity = severityWarn then severityWarn else severityReject

/-- The name a check is reported under. -/
def checkName (check : ℕ × Check) : Text :=
  if check.2.name = [] then utf8 "check " ++ decimal check.1 else check.2.name

section

variable (spec : Spec)

/-- How an element compares: only an element as a whole declares a kind. -/
def kindOf (ref : FieldRef) : Text :=
  match spec.fields.lookup ref.de with
  | none => []
  | some field => if ref.subs = [] then field.kind else []

def valueSetFor (ref : Text) (inline : Option ValueSet) : Option ValueSet :=
  match inline with
  | some set => some set
  | none => if ref = [] then none else (spec.enums.lookup ref).join

/-- An expression with the kinds of its elements. -/
def compileWhen (src : Text) : Except WhenErr WhenExpr :=
  (parseWhen src).map (WhenExpr.bindKinds (kindOf spec))

def compileCondition (de : ℤ) (condition : Text) : Except CompileErr (Option WhenExpr) :=
  if Translate.trimSpace condition = [] then .ok none
  else ((compileWhen spec condition).mapError (CompileErr.field de)).map some

def compileRule (de : ℤ) (rule : MessageRule) :
    Except CompileErr (List (Text × CompiledRule)) := do
  let condition ← compileCondition spec de rule.condition
  let compiled : CompiledRule :=
    { de
      path := sprintInt de
      usage := rule.usage
      condition
      values := valueSetFor spec rule.valuesRef rule.validValues }
  .ok (rule.codes.map fun code => (code, compiled))

def compileField (de : ℤ) : Except CompileErr (List (Text × CompiledRule)) :=
  match spec.fields.lookup de with
  | none => .ok []
  | some field => do
      let rules ← field.messages.mapM (compileRule spec de)
      .ok rules.flatten

def compileCheck (check : ℕ × Check) : Except CompileErr (List (Text × CompiledCheck)) := do
  let assert ← (compileWhen spec check.2.assert).mapError (CompileErr.check (checkName check))
  let compiled : CompiledCheck :=
    { name := checkName check, severity := check.2.level, assert, note := check.2.note }
  .ok (check.2.mti.map fun code => (code, compiled))

/-- The closed value set a field itself names. -/
def closedSet (de : ℤ) : Option (Text × ValueSet) :=
  match spec.fields.lookup de with
  | none => none
  | some field =>
      match valueSetFor spec field.valuesRef field.validValues with
      | none => none
      | some set => if set.closed then some (sprintInt de, set) else none

def newValidator : Except CompileErr Validator := do
  let rules ← (sortedFieldIDs spec).mapM (compileField spec)
  let checks ← (numbered spec.checks).mapM (compileCheck spec)
  .ok
    { rules := rules.flatten
      checks := checks.flatten
      closed := (sortedFieldIDs spec).filterMap (closedSet spec) }

end

inductive ViolationKind where
  | usage
  | value
  | check
  deriving DecidableEq

/-- What a violation tells its reader. -/
inductive ViolationReason where
  | missing (condition : Option Text)
  | forbidden (condition : Option Text)
  | notListed (value : Text) (known : List Text)
  | fails (assert note : Text)
  deriving DecidableEq

structure Violation where
  severity : Text
  kind : ViolationKind
  de : ℤ
  path : Text
  rule : Text
  reason : ViolationReason
  deriving DecidableEq

namespace Validator

variable (v : Validator) (floats : Floats) (m : Subject)

variable (rule : CompiledRule)

/-- A violation of a rule of the message matrix. -/
def rejectRule (kind : ViolationKind) (reason : ViolationReason) : Violation :=
  { severity := severityReject, kind, de := rule.de, path := rule.path, rule := [], reason }

/-- A value outside the closed set that applies to it. -/
def checkValue (value : Text) : List Violation :=
  match (rule.values <|> v.closed.lookup rule.path) with
  | none => []
  | some set =>
      problemIf (set.closed = true ∧ value ∉ set.values.map Prod.fst)
        (rejectRule rule .value (.notListed value (set.values.map Prod.fst)))

def applies : Bool :=
  match rule.condition with
  | none => true
  | some condition => condition.eval floats m

def checkRule : List Violation :=
  if applies floats m rule = false then []
  else
    match m.field rule.de [] with
    | none =>
        problemIf (rule.usage = utf8 "mandatory")
          (rejectRule rule .usage (.missing (rule.condition.map WhenExpr.source)))
    | some value =>
        if rule.usage = utf8 "forbidden" then
          [rejectRule rule .usage (.forbidden (rule.condition.map WhenExpr.source))]
        else v.checkValue rule value

def checkAssert (check : CompiledCheck) : List Violation :=
  problemIf (check.assert.eval floats m = false)
    { severity := check.severity
      kind := .check
      de := 0
      path := []
      rule := check.name
      reason := .fails check.assert.source check.note }

/-- The entries of a map of lists under one key. -/
def under {Item : Type} (entries : List (Text × Item)) (key : Text) : List Item :=
  entries.filterMap fun entry => if entry.1 = key then some entry.2 else none

def validate : List Violation :=
  (under v.rules m.mti).flatMap (v.checkRule floats m) ++
    (under v.checks m.mti).flatMap (checkAssert floats m)

end Validator

def rejects (violations : List Violation) : Bool :=
  violations.any fun violation => violation.severity = severityReject

lemma mapM_isOk_iff {Err Item Result : Type} {f : Item → Except Err Result} {items : List Item} :
    (∃ results, items.mapM f = .ok results) ↔ ∀ item ∈ items, ∃ result, f item = .ok result := by
  induction items with
  | nil => simp [pure, Except.pure]
  | cons _ _ ih =>
    rw [List.forall_mem_cons, ← ih]
    simp only [List.mapM_cons, bind_eq_ok, pure, Except.pure, Except.ok.injEq]
    constructor
    · rintro ⟨_, result, hresult, results, hresults, -⟩
      exact ⟨⟨result, hresult⟩, results, hresults⟩
    · rintro ⟨⟨result, hresult⟩, results, hresults⟩
      exact ⟨_, result, hresult, results, hresults, rfl⟩

lemma map_isOk_iff {Err Item Result : Type} {f : Item → Result} {item : Except Err Item} :
    (∃ result, item.map f = .ok result) ↔ ∃ found, item = .ok found := by
  cases item with
  | error => exact iff_of_false (by rintro ⟨_, h⟩; exact absurd h nofun) nofun
  | ok found => exact iff_of_true ⟨f found, rfl⟩ ⟨found, rfl⟩

lemma mapError_isOk_iff {Err Other Item : Type} {f : Err → Other} {item : Except Err Item} :
    (∃ found, item.mapError f = .ok found) ↔ ∃ found, item = .ok found := by
  cases item with
  | error => exact iff_of_false (by rintro ⟨_, h⟩; exact absurd h nofun) nofun
  | ok found => exact iff_of_true ⟨found, rfl⟩ ⟨found, rfl⟩

/-- The text parses. -/
def Parses (src : Text) : Prop := ∃ expr, parseWhen src = .ok expr

lemma not_parses_empty : ¬ Parses [] := by
  rintro ⟨expr, hok⟩
  have herror : (parseWhen []).toOption.map WhenExpr.refs = none := by decide
  rw [hok] at herror
  nomatch herror

section

variable (spec : Spec)

lemma compileWhen_isOk_iff (src : Text) :
    (∃ expr, compileWhen spec src = .ok expr) ↔ Parses src :=
  map_isOk_iff

lemma compileRule_isOk_iff (de : ℤ) (rule : MessageRule) :
    (∃ rules, compileRule spec de rule = .ok rules) ↔
      (Translate.trimSpace rule.condition ≠ [] → Parses rule.condition) := by
  have hrule : (∃ rules, compileRule spec de rule = .ok rules) ↔
      ∃ condition, compileCondition spec de rule.condition = .ok condition := by
    simp only [compileRule, bind_eq_ok, Except.ok.injEq]
    constructor
    · rintro ⟨_, condition, hcondition, -⟩
      exact ⟨condition, hcondition⟩
    · rintro ⟨condition, hcondition⟩
      exact ⟨_, condition, hcondition, rfl⟩
  rw [hrule, compileCondition]
  by_cases hblank : Translate.trimSpace rule.condition = []
  · rw [if_pos hblank]
    exact iff_of_true ⟨none, rfl⟩ fun hne => absurd hblank hne
  · rw [if_neg hblank, map_isOk_iff, mapError_isOk_iff, compileWhen_isOk_iff]
    exact (imp_iff_right hblank).symm

lemma compileField_isOk_iff (de : ℤ) : (∃ rules, compileField spec de = .ok rules) ↔
      ∀ field, spec.fields.lookup de = some field → ∀ rule ∈ field.messages,
        Translate.trimSpace rule.condition ≠ [] → Parses rule.condition := by
  rw [compileField]
  cases hfield : spec.fields.lookup de with
  | none => exact iff_of_true ⟨[], rfl⟩ nofun
  | some field =>
    have hall : (∃ rules, (do
        let rules ← field.messages.mapM (compileRule spec de)
        Except.ok rules.flatten) = Except.ok rules) ↔
          ∃ rules, field.messages.mapM (compileRule spec de) = .ok rules := by
      simp only [bind_eq_ok, Except.ok.injEq]
      constructor
      · rintro ⟨_, rules, hrules, -⟩
        exact ⟨rules, hrules⟩
      · rintro ⟨rules, hrules⟩
        exact ⟨_, rules, hrules, rfl⟩
    simp only [Option.some.injEq, forall_eq']
    rw [hall, mapM_isOk_iff]
    exact forall₂_congr fun rule _ => compileRule_isOk_iff spec de rule

lemma compileCheck_isOk_iff (check : ℕ × Check) :
    (∃ checks, compileCheck spec check = .ok checks) ↔ Parses check.2.assert := by
  rw [← compileWhen_isOk_iff spec,
    ← @mapError_isOk_iff _ _ _ (CompileErr.check (checkName check))]
  simp only [compileCheck, bind_eq_ok, Except.ok.injEq]
  constructor
  · rintro ⟨_, assert, hassert, -⟩
    exact ⟨assert, hassert⟩
  · rintro ⟨assert, hassert⟩
    exact ⟨_, assert, hassert, rfl⟩

lemma newValidator_isOk_iff : (∃ v, newValidator spec = .ok v) ↔
      (∀ de ∈ sortedFieldIDs spec, ∃ rules, compileField spec de = .ok rules) ∧
      ∀ check ∈ numbered spec.checks, ∃ checks, compileCheck spec check = .ok checks := by
  rw [← mapM_isOk_iff, ← mapM_isOk_iff]
  simp only [newValidator, bind_eq_ok, Except.ok.injEq]
  constructor
  · rintro ⟨_, rules, hrules, checks, hchecks, -⟩
    exact ⟨⟨rules, hrules⟩, checks, hchecks⟩
  · rintro ⟨⟨rules, hrules⟩, checks, hchecks⟩
    exact ⟨_, rules, hrules, checks, hchecks, rfl⟩

lemma parses_of_checkWhen {place : Place} {src : Text} (hclean : checkWhen spec place src = [])
    (hne : src ≠ []) : Parses src := by
  rw [checkWhen, if_neg hne] at hclean
  cases hparse : parseWhen src with
  | error =>
    rw [hparse] at hclean
    nomatch hclean
  | ok expr => exact ⟨expr, hparse⟩

variable {spec}

section

variable (hloaded : resolveReferences spec = .ok ())

include hloaded

lemma resolveErrors_of_ok : resolveErrors spec = [] := by
  rw [resolveReferences] at hloaded
  split at hloaded
  · assumption
  · nomatch hloaded

/-- Conditions of a specification that loads parse, unless they are empty. -/
lemma condition_parses {de : ℤ} {field : Field} (hde : de ∈ sortedFieldIDs spec)
    (hfield : spec.fields.lookup de = some field) {rule : MessageRule}
    (hrule : rule ∈ field.messages) (hne : rule.condition ≠ []) : Parses rule.condition := by
  have hclean := resolveErrors_of_ok hloaded
  rw [resolveErrors, List.flatten_eq_nil_iff] at hclean
  have hfields := hclean _ List.mem_cons_self
  rw [checkKeyed, List.flatMap_eq_nil_iff] at hfields
  have hone := hfields de hde
  rw [hfield] at hone
  change checkField spec de field = [] at hone
  rw [checkField, List.flatten_eq_nil_iff] at hone
  have hrules := hone ((numbered field.messages).flatMap (checkRule spec de)) (by simp)
  rw [List.flatMap_eq_nil_iff] at hrules
  obtain ⟨ordinal, hnumbered⟩ := mem_numbered_iff.mpr hrule
  have hthis := hrules _ hnumbered
  rw [checkRule, List.append_eq_nil_iff] at hthis
  exact parses_of_checkWhen spec hthis.2 hne

/-- So do assertions. -/
lemma assert_parses {check : ℕ × Check} (hcheck : check ∈ numbered spec.checks)
    (hne : check.2.assert ≠ []) : Parses check.2.assert := by
  have hclean := resolveErrors_of_ok hloaded
  rw [resolveErrors, List.flatten_eq_nil_iff] at hclean
  have hchecks := hclean ((numbered spec.checks).flatMap (checkCheck spec)) (by simp)
  rw [List.flatMap_eq_nil_iff] at hchecks
  have hone := hchecks check hcheck
  rw [checkCheck, List.flatten_eq_nil_iff] at hone
  have hassert := hone (checkWhen spec (checkPlace check) check.2.assert) (by simp)
  exact parses_of_checkWhen spec hassert hne

end

/-- A specification that loads compiles exactly when none of its checks leaves the
assertion empty. -/
theorem loaded_compiles_iff (hloaded : resolveReferences spec = .ok ()) :
    (∃ v, newValidator spec = .ok v) ↔ ∀ check ∈ spec.checks, check.assert ≠ [] := by
  rw [newValidator_isOk_iff]
  constructor
  · intro hok check hcheck hempty
    obtain ⟨ordinal, hnumbered⟩ := mem_numbered_iff.mpr hcheck
    have hparses := (compileCheck_isOk_iff spec _).mp (hok.2 _ hnumbered)
    rw [hempty] at hparses
    exact not_parses_empty hparses
  · intro hasserts
    constructor
    · intro de hde
      rw [compileField_isOk_iff]
      intro field hfield rule hrule htrimmed
      apply condition_parses hloaded hde hfield hrule
      intro hempty
      rw [hempty] at htrimmed
      exact htrimmed rfl
    · intro check hcheck
      rw [compileCheck_isOk_iff]
      exact assert_parses hloaded hcheck (hasserts check.2 (mem_numbered_iff.mp ⟨_, hcheck⟩))

/-- A specification of one message with a single check. -/
def oneCheck (assert : Text) : Spec where
  catalog := AList.singleton (utf8 "0100") ⟨utf8 "request", [], []⟩
  enums := ∅
  fields := ∅
  checks := [⟨[utf8 "0100"], utf8 "type", assert, [], []⟩]
  dimensions := []
  histograms := []
  defaults := ∅
  templates := ∅
  mix := []

theorem oneCheck_compiles : resolveReferences (oneCheck (utf8 "mti == '0100'")) = .ok () ∧
      ∃ v, newValidator (oneCheck (utf8 "mti == '0100'")) = .ok v := by
  have hloaded : resolveReferences (oneCheck (utf8 "mti == '0100'")) = .ok () := by rfl
  exact ⟨hloaded, (loaded_compiles_iff hloaded).mpr (by decide)⟩

/-- The resolver accepts a check without an assertion, and the compiler does not. -/
theorem emptyAssert_refused :
    resolveReferences (oneCheck []) = .ok () ∧ ∀ v, newValidator (oneCheck []) ≠ .ok v := by
  refine ⟨rfl, ?_⟩
  intro v hok
  have hchecks := ((newValidator_isOk_iff _).mp ⟨v, hok⟩).2
  exact not_parses_empty ((compileCheck_isOk_iff _ _).mp (hchecks (1, _) List.mem_cons_self))

end

end Fluxrig.Sdl
