import Fluxrig.Sdl.Exactness
import Fluxrig.Translate.Amount

/-!
# Evaluating a condition

A condition sees one message: its type and the values at the paths it names.  No
node reads anything beside the references the parser reported, so two messages that
agree there are not told apart (`condition_reads_refs`).
-/

namespace Fluxrig.Sdl

open Fluxrig.Core Message

/-- The one message an expression is about. -/
structure Subject where
  mti : Text
  field : ℤ → List Text → Option Text

/-- `strconv.ParseFloat` and the comparisons of the numbers it returns. -/
structure Floats where
  Num : Type
  parseFloat : Text → Option Num
  eq : Num → Num → Bool
  lt : Num → Num → Bool
  le : Num → Num → Bool

namespace WhenValue

def truth : WhenValue → Bool
  | .bool b => b
  | _ => false

def asNumber (floats : Floats) : WhenValue → Option floats.Num
  | .str s _ => floats.parseFloat (Translate.trimSpace s)
  | _ => none

end WhenValue

/-- Two numbers compared, and `false` where one side is not a number. -/
def onNumbers (floats : Floats) (test : floats.Num → floats.Num → Bool) (l r : WhenValue) :
    Bool :=
  match l.asNumber floats, r.asNumber floats with
  | some lf, some rf => test lf rf
  | _, _ => false

/-- Equality of two values that are there. -/
def sameValue (floats : Floats) : WhenValue → WhenValue → Bool
  | .bool b, .bool c => b = c
  | .str s numeric, .str t numeric' =>
      if numeric || numeric' then onNumbers floats floats.eq (.str s numeric) (.str t numeric')
      else s = t
  | _, _ => false

def compareValues (floats : Floats) (op : Text) (l r : WhenValue) : Bool :=
  if l = .absent ∨ r = .absent then false
  else if op = utf8 "==" then sameValue floats l r
  else if op = utf8 "!=" then !sameValue floats l r
  else if op = utf8 "<" then onNumbers floats floats.lt l r
  else if op = utf8 "<=" then onNumbers floats floats.le l r
  else if op = utf8 ">" then onNumbers floats (fun lf rf => floats.lt rf lf) l r
  else if op = utf8 ">=" then onNumbers floats (fun lf rf => floats.le rf lf) l r
  else false

mutual

def Node.eval (floats : Floats) (m : Subject) : Node → WhenValue
  | .or alternatives => boolValue (evalAny floats m alternatives)
  | .and conjuncts => boolValue (evalAll floats m conjuncts)
  | .not inner => boolValue (!(inner.eval floats m).truth)
  | .cmp lhs op rhs =>
      boolValue (compareValues floats op (lhs.eval floats m) (rhs.eval floats m))
  | .field ref numeric =>
      match m.field ref.de ref.subs with
      | none => .absent
      | some s => .str s numeric
  | .present ref => boolValue (m.field ref.de ref.subs).isSome
  | .mti => strValue m.mti
  | .lit value => value

def evalAny (floats : Floats) (m : Subject) : List Node → Bool
  | [] => false
  | node :: nodes => (node.eval floats m).truth || evalAny floats m nodes

def evalAll (floats : Floats) (m : Subject) : List Node → Bool
  | [] => true
  | node :: nodes => (node.eval floats m).truth && evalAll floats m nodes

end

def WhenExpr.eval (floats : Floats) (expr : WhenExpr) (m : Subject) : Bool :=
  (expr.root.eval floats m).truth

def comparesNumerically (kind : Text) : Bool :=
  kind ∈ [utf8 "amount", utf8 "date", utf8 "time", utf8 "datetime", utf8 "numeric"]

mutual

def Node.bindKinds (kindOf : FieldRef → Text) : Node → Node
  | .or alternatives => .or (bindAll kindOf alternatives)
  | .and conjuncts => .and (bindAll kindOf conjuncts)
  | .not inner => .not (inner.bindKinds kindOf)
  | .cmp lhs op rhs => .cmp (lhs.bindKinds kindOf) op (rhs.bindKinds kindOf)
  | .field ref _ => .field ref (comparesNumerically (kindOf ref))
  | .present ref => .present ref
  | .mti => .mti
  | .lit value => .lit value

def bindAll (kindOf : FieldRef → Text) : List Node → List Node
  | [] => []
  | node :: nodes => node.bindKinds kindOf :: bindAll kindOf nodes

end

def WhenExpr.bindKinds (kindOf : FieldRef → Text) (expr : WhenExpr) : WhenExpr :=
  { expr with root := expr.root.bindKinds kindOf }

mutual

lemma Node.refs_bindKinds (kindOf : FieldRef → Text) : (node : Node) →
    (node.bindKinds kindOf).refs = node.refs
  | .or alternatives => by
      rw [Node.bindKinds, Node.refs, Node.refs, refsAll_bindAll kindOf alternatives]
  | .and conjuncts => by rw [Node.bindKinds, Node.refs, Node.refs, refsAll_bindAll kindOf conjuncts]
  | .not inner => by rw [Node.bindKinds, Node.refs, Node.refs, inner.refs_bindKinds kindOf]
  | .cmp lhs op rhs => by
    rw [Node.bindKinds, Node.refs, Node.refs, lhs.refs_bindKinds kindOf, rhs.refs_bindKinds kindOf]
  | .field ref _ => by rw [Node.bindKinds, Node.refs, Node.refs]
  | .present ref => by rw [Node.bindKinds]
  | .mti => by rw [Node.bindKinds]
  | .lit value => by rw [Node.bindKinds]

lemma refsAll_bindAll (kindOf : FieldRef → Text) : (nodes : List Node) →
    refsAll (bindAll kindOf nodes) = refsAll nodes
  | [] => by rw [bindAll]
  | node :: nodes => by
    rw [bindAll, refsAll, refsAll, node.refs_bindKinds kindOf, refsAll_bindAll kindOf nodes]

end

/-- Two messages of one type that carry the same at every one of these places. -/
structure Agree (refs : List FieldRef) (m other : Subject) : Prop where
  mti : m.mti = other.mti
  field : ∀ ref ∈ refs, m.field ref.de ref.subs = other.field ref.de ref.subs

lemma Agree.append {refs more : List FieldRef} {m other : Subject}
    (hagree : Agree (refs ++ more) m other) : Agree refs m other ∧ Agree more m other :=
  ⟨⟨hagree.mti, fun ref href => hagree.field ref (List.mem_append_left _ href)⟩,
    ⟨hagree.mti, fun ref href => hagree.field ref (List.mem_append_right _ href)⟩⟩

mutual

lemma Node.eval_agrees (floats : Floats) {m other : Subject} : (node : Node) →
    Agree node.refs m other → node.eval floats m = node.eval floats other
  | .or alternatives, hagree => by
    rw [Node.eval, Node.eval, (evalList_agrees floats alternatives hagree).1]
  | .and conjuncts, hagree => by
    rw [Node.eval, Node.eval, (evalList_agrees floats conjuncts hagree).2]
  | .not inner, hagree => by
    rw [Node.eval, Node.eval, inner.eval_agrees floats hagree]
  | .cmp lhs op rhs, hagree => by
    rw [Node.eval, Node.eval, lhs.eval_agrees floats hagree.append.1,
      rhs.eval_agrees floats hagree.append.2]
  | .field ref numeric, hagree => by
    rw [Node.eval, Node.eval, hagree.field ref List.mem_cons_self]
  | .present ref, hagree => by
    rw [Node.eval, Node.eval, hagree.field ref List.mem_cons_self]
  | .mti, hagree => by rw [Node.eval, Node.eval, hagree.mti]
  | .lit value, _ => by rw [Node.eval, Node.eval]

lemma evalList_agrees (floats : Floats) {m other : Subject} : (nodes : List Node) →
    Agree (refsAll nodes) m other → evalAny floats m nodes = evalAny floats other nodes ∧
      evalAll floats m nodes = evalAll floats other nodes
  | [], _ => ⟨by rw [evalAny, evalAny], by rw [evalAll, evalAll]⟩
  | node :: nodes, hagree => by
    have hnode := node.eval_agrees floats hagree.append.1
    obtain ⟨hany, hall⟩ := evalList_agrees floats nodes hagree.append.2
    exact ⟨by rw [evalAny, evalAny, hnode, hany], by rw [evalAll, evalAll, hnode, hall]⟩

end

/-- The references the parser reports are those of the tree. -/
lemma parseWhen_refs {src : Text} {expr : WhenExpr} (hok : parseWhen src = .ok expr) :
    expr.refs = expr.root.refs := by
  obtain ⟨toks, root, -, -, rfl⟩ := parseWhen_iff.mp hok
  rfl

/-- Whatever kinds are bound, two messages of one type that agree at the reported
references get the same answer. -/
theorem condition_reads_refs (floats : Floats) (kindOf : FieldRef → Text) {src : Text}
    {expr : WhenExpr} (hok : parseWhen src = .ok expr) {m other : Subject}
    (hmti : m.mti = other.mti)
    (hfield : ∀ ref ∈ expr.refs, m.field ref.de ref.subs = other.field ref.de ref.subs) :
    (expr.bindKinds kindOf).eval floats m = (expr.bindKinds kindOf).eval floats other := by
  rw [parseWhen_refs hok, ← expr.root.refs_bindKinds kindOf] at hfield
  exact congrArg WhenValue.truth (Node.eval_agrees floats _ ⟨hmti, hfield⟩)

/-- Digit strings for the numbers of the samples. -/
def wholeFloats : Floats where
  Num := ℕ
  parseFloat text := if isAllDigits text then some (numeral 10 digitOf text) else none
  eq l r := l = r
  lt l r := l < r
  le l r := l ≤ r

/-- A request that carries an amount, and some card number. -/
def sampleSubject (pan : Text) : Subject where
  mti := utf8 "0100"
  field
    | 2, [] => some pan
    | 4, [] => some (utf8 "000000001000")
    | _, _ => none

theorem sample_reads_refs :
    ∃ expr, parseWhen (utf8 "mti == '0100' && field(4) == 1000") = .ok expr ∧
      (expr.bindKinds fun _ => utf8 "amount").eval wholeFloats (sampleSubject (utf8 "4000")) =
        (expr.bindKinds fun _ => utf8 "amount").eval wholeFloats
          (sampleSubject (utf8 "5000")) := by
  have hrefs : (parseWhen (utf8 "mti == '0100' && field(4) == 1000")).toOption.map
      WhenExpr.refs = some [⟨4, [], 23⟩] := by decide
  cases hok : parseWhen (utf8 "mti == '0100' && field(4) == 1000") with
  | error =>
    rw [hok] at hrefs
    nomatch hrefs
  | ok expr =>
    rw [hok] at hrefs
    have hlist : expr.refs = [⟨4, [], 23⟩] := Option.some.inj hrefs
    have hmti : (sampleSubject (utf8 "4000")).mti = (sampleSubject (utf8 "5000")).mti := rfl
    refine ⟨expr, rfl, condition_reads_refs wholeFloats _ hok hmti ?_⟩
    rw [hlist]
    intro ref href
    rw [List.mem_singleton.mp href]
    rfl

end Fluxrig.Sdl
