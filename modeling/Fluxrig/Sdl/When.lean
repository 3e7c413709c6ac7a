import Fluxrig.Core.Checks
import Fluxrig.Core.Numeral
import Fluxrig.Message.FluxMsg

/-!
# Conditions of a protocol specification

A rule of a specification may carry a `when` condition.  The scanner cuts its text
into tokens, one at a time, and the parser descends from alternatives to operands.
A lexical error travels in the scanner as an end of input; `parseWhen` looks for it
after the last token.
-/

namespace Fluxrig.Sdl

open Fluxrig.Core Message

/-- A place in the message an expression reads.  `pos` is its offset in the source. -/
structure FieldRef where
  de : ℤ
  subs : List Text
  pos : ℕ
  deriving DecidableEq

/-- What an operand evaluates to.  A text is `numeric` if it comes from an element
the specification declares as a number. -/
inductive WhenValue where
  | absent
  | bool (b : Bool)
  | str (s : Text) (numeric : Bool)
  deriving DecidableEq

def boolValue (b : Bool) : WhenValue := .bool b

def strValue (s : Text) : WhenValue := .str s false

inductive Node where
  | or (alternatives : List Node)
  | and (conjuncts : List Node)
  | not (inner : Node)
  | cmp (lhs : Node) (op : Text) (rhs : Node)
  | field (ref : FieldRef) (numeric : Bool)
  | present (ref : FieldRef)
  | mti
  | lit (value : WhenValue)

inductive TokKind where
  | eof
  | ident
  | string
  | number
  | op
  | and
  | or
  | not
  | lparen
  | rparen
  deriving DecidableEq

structure Token where
  kind : TokKind
  text : Text
  pos : ℕ
  deriving DecidableEq

inductive PathErr where
  | noNumber
  | notNumber (number : Text)
  | emptySegment (path : Text)
  deriving DecidableEq

/-- What an error says; the tokens and texts are those its message shows. -/
inductive Reason where
  | unclosedString
  | singleOperator (char : UInt8)
  | singleEquals
  | unexpectedCharacter (char : UInt8)
  | tooDeep
  | expectedClose (found : Token)
  | notCondition (first : Token)
  | unknownName (name : Text)
  | expectedValue (found : Token)
  | expectedOpen (name : Text)
  | expectedPath (name : Text) (found : Token)
  | badPath (err : PathErr)
  | unclosedCall (name : Text) (callPos : ℕ) (found : Token)
  | trailing (found : Token)
  deriving DecidableEq

structure WhenErr where
  pos : ℕ
  reason : Reason
  deriving DecidableEq

def isBlank (c : UInt8) : Bool := c = 32 || c = 9 || c = 10

def isDigit (c : UInt8) : Bool := 48 ≤ c && c ≤ 57

def isPathRune (c : UInt8) : Bool :=
  c = 95 || c = 46 || (97 ≤ c && c ≤ 122) || (65 ≤ c && c ≤ 90) || isDigit c

def isAllDigits (text : Text) : Bool := text.all isDigit && !text.isEmpty

/-- One token, the text behind it, and what is wrong with it. -/
structure Scan where
  kind : TokKind
  text : Text
  rest : Text
  problem : Option Reason

/-- Behind an opening quote. -/
def scanString (more : Text) : Scan :=
  match more.dropWhile (· ≠ 39) with
  | [] => ⟨.eof, [], [], some .unclosedString⟩
  | _ :: after => ⟨.string, 39 :: more.takeWhile (· ≠ 39) ++ [39], after, none⟩

/-- Behind `&` or `|`. -/
def scanPair (c : UInt8) (more : Text) : Scan :=
  if more.head? = some c then
    ⟨if c = 124 then .or else .and, [c, c], more.tail, none⟩
  else ⟨.eof, [c], more, some (.singleOperator c)⟩

/-- Behind `!`. -/
def scanBang (more : Text) : Scan :=
  if more.head? = some 61 then ⟨.op, [33, 61], more.tail, none⟩
  else ⟨.not, [33], more, none⟩

/-- Behind `=`, `<` or `>`. -/
def scanCompare (c : UInt8) (more : Text) : Scan :=
  if more.head? = some 61 then ⟨.op, [c, 61], more.tail, none⟩
  else if c = 61 then ⟨.eof, [61], more, some .singleEquals⟩
  else ⟨.op, [c], more, none⟩

def scanWord (text : Text) : Scan :=
  let word := text.takeWhile isPathRune
  ⟨if isAllDigits word then .number else .ident, word, text.dropWhile isPathRune, none⟩

/-- `string(c)` of a byte, which is the encoding of that code point. -/
def runeText (c : UInt8) : Text := utf8 (Char.ofNat c.toNat).toString

/-- The body of `next` behind the blanks. -/
def scan : Text → Scan
  | [] => ⟨.eof, [], [], none⟩
  | c :: more =>
      if c = 40 then ⟨.lparen, [c], more, none⟩
      else if c = 41 then ⟨.rparen, [c], more, none⟩
      else if c = 39 then scanString more
      else if c = 38 ∨ c = 124 then scanPair c more
      else if c = 33 then scanBang more
      else if c = 61 ∨ c = 60 ∨ c = 62 then scanCompare c more
      else if isPathRune c then scanWord (c :: more)
      else ⟨.eof, runeText c, more, some (.unexpectedCharacter c)⟩

/-- The scanner: what is left of the source, its offset, the current token and the
first error. -/
structure Lexer where
  rest : Text
  pos : ℕ
  tok : Token
  err : Option WhenErr

def Lexer.next (lexer : Lexer) : Lexer :=
  let text := lexer.rest.dropWhile isBlank
  let start := lexer.pos + (lexer.rest.length - text.length)
  let found := scan text
  { rest := found.rest
    pos := start + (text.length - found.rest.length)
    tok := ⟨found.kind, found.text, start⟩
    err := lexer.err.or (found.problem.map (⟨start, ·⟩)) }

/-- An `int` of the source. -/
def wrapInt (n : ℤ) : ℤ := n.bmod (2 ^ 64)

def digitOf (c : UInt8) : ℕ := c.toNat - 48

/-- `fmt.Sprint` of a number that is not negative. -/
def decimal (number : ℕ) : Text := symbolsOf 10 (fun place => UInt8.ofNat (48 + place)) number

/-- The data element number as the source adds it up, digit by digit. -/
def elementNumber (number : Text) : ℤ :=
  number.foldl (fun de c => wrapInt (de * 10 + digitOf c)) 0

def parsePath (text : Text) (pos : ℕ) : Except PathErr FieldRef :=
  match splitDots text with
  | [] => .error .noNumber
  | number :: subs =>
      if number = [] then .error .noNumber
      else if ¬ number.all isDigit then .error (.notNumber number)
      else if [] ∈ subs then .error (.emptySegment text)
      else .ok ⟨elementNumber number, subs, pos⟩

/-- `unquote`. -/
def unquote (text : Text) : Text :=
  if 2 ≤ text.length ∧ text.head? = some 39 ∧ text.getLast? = some 39 then
    text.tail.dropLast
  else text

structure Parser extends Lexer where
  refs : List FieldRef

namespace Parser

def next (p : Parser) : Parser := { p with toLexer := p.toLexer.next }

def addRef (p : Parser) (ref : FieldRef) : Parser := { p with refs := p.refs ++ [ref] }

/-- The error to return: an earlier one stands. -/
def errAt (p : Parser) (pos : ℕ) (reason : Reason) : WhenErr := p.err.getD ⟨pos, reason⟩

end Parser

def fieldWord : Text := utf8 "field"
def presentWord : Text := utf8 "present"
def mtiWord : Text := utf8 "mti"
def trueWord : Text := utf8 "true"
def falseWord : Text := utf8 "false"

/-- `name(path)`, of which the name is the current token. -/
def parseCall (name : Text) (p : Parser) : Except WhenErr (Node × Parser) :=
  let opening := p.next
  if opening.tok.kind ≠ .lparen then
    .error (opening.errAt opening.tok.pos (.expectedOpen name))
  else
    let path := opening.next
    if path.tok.kind ≠ .ident ∧ path.tok.kind ≠ .number then
      .error (path.errAt path.tok.pos (.expectedPath name path.tok))
    else
      match parsePath path.tok.text path.tok.pos with
      | .error err => .error (path.errAt path.tok.pos (.badPath err))
      | .ok ref =>
          let closing := (path.addRef ref).next
          if closing.tok.kind ≠ .rparen then
            .error (closing.errAt closing.tok.pos (.unclosedCall name p.tok.pos closing.tok))
          else
            .ok (if name = presentWord then .present ref else .field ref false, closing.next)

def parseOperand (p : Parser) : Except WhenErr (Node × Parser) :=
  match p.tok.kind with
  | .ident =>
      if p.tok.text = fieldWord then parseCall fieldWord p
      else if p.tok.text = presentWord then parseCall presentWord p
      else if p.tok.text = mtiWord then .ok (.mti, p.next)
      else if p.tok.text = trueWord ∨ p.tok.text = falseWord then
        .ok (.lit (boolValue (p.tok.text = trueWord)), p.next)
      else .error (p.errAt p.tok.pos (.unknownName p.tok.text))
  | .string => .ok (.lit (strValue (unquote p.tok.text)), p.next)
  | .number => .ok (.lit (strValue (unquote p.tok.text)), p.next)
  | _ => .error (p.errAt p.tok.pos (.expectedValue p.tok))

/-- The rest of a comparison, of which the operator is the current token. -/
def parseRight (lhs : Node) (p : Parser) : Except WhenErr (Node × Parser) := do
  let (rhs, after) ← parseOperand p.next
  .ok (.cmp lhs p.tok.text rhs, after)

/-- A condition that may also be the left side of a comparison. -/
def parseMaybeRight (lhs : Node) (p : Parser) : Except WhenErr (Node × Parser) :=
  if p.tok.kind ≠ .op then .ok (lhs, p) else parseRight lhs p

/-- What `parsePrimary` does without an opening parenthesis. -/
def parseAtom (p : Parser) : Except WhenErr (Node × Parser) :=
  if p.tok.kind = .ident ∧ p.tok.text = presentWord then do
    let (lhs, after) ← parseCall presentWord p
    parseMaybeRight lhs after
  else if p.tok.kind = .ident ∧ (p.tok.text = trueWord ∨ p.tok.text = falseWord) then
    parseMaybeRight (.lit (boolValue (p.tok.text = trueWord))) p.next
  else do
    let (lhs, after) ← parseOperand p
    if after.tok.kind ≠ .op then .error (after.errAt p.tok.pos (.notCondition p.tok))
    else parseRight lhs after

/-- The loop over the phrases behind the first, each announced by `kind`.  A pass
takes at least one byte off the source, which bounds their number. -/
def parseMore (kind : TokKind) (item : Parser → Except WhenErr (Node × Parser)) :
    ℕ → List Node → Parser → Except WhenErr (List Node × Parser)
  | 0, items, p => .ok (items, p)
  | bound + 1, items, p =>
      if p.tok.kind = kind then do
        let (node, after) ← item p.next
        parseMore kind item bound (items ++ [node]) after
      else .ok (items, p)

/-- One phrase stands for itself. -/
def collapse (wrap : List Node → Node) : List Node → Node
  | [single] => single
  | items => wrap items

def parseChain (kind : TokKind) (wrap : List Node → Node)
    (item : Parser → Except WhenErr (Node × Parser)) (p : Parser) :
    Except WhenErr (Node × Parser) := do
  let (first, after) ← item p
  let (items, last) ← parseMore kind item (after.rest.length + 2) [first] after
  .ok (collapse wrap items, last)

def maxWhenDepth : ℕ := 32

/-- The levels that are left stand for the depth: at depth `d` they are
`maxWhenDepth + 1 - d`. -/
def tooDeep (p : Parser) : Except WhenErr (Node × Parser) :=
  .error (p.errAt p.tok.pos .tooDeep)

mutual

def parseExpr : ℕ → Parser → Except WhenErr (Node × Parser)
  | 0, p => tooDeep p
  | levels + 1, p => parseChain .or .or (parseAnd levels) p

def parseAnd : ℕ → Parser → Except WhenErr (Node × Parser)
  | 0, p => tooDeep p
  | levels + 1, p => parseChain .and .and (parseNot levels) p

def parseNot : ℕ → Parser → Except WhenErr (Node × Parser)
  | 0, p => tooDeep p
  | levels + 1, p =>
      if p.tok.kind = .not then do
        let (inner, after) ← parseNot levels p.next
        .ok (.not inner, after)
      else parsePrimary levels p

def parsePrimary : ℕ → Parser → Except WhenErr (Node × Parser)
  | 0, p => tooDeep p
  | levels + 1, p =>
      if p.tok.kind = .lparen then do
        let (inner, after) ← parseExpr levels p.next
        if after.tok.kind ≠ .rparen then
          .error (after.errAt after.tok.pos (.expectedClose after.tok))
        else .ok (inner, after.next)
      else parseAtom p

end

structure WhenExpr where
  source : Text
  refs : List FieldRef
  root : Node

/-- The parser before its first token. -/
def Parser.start (src : Text) : Parser :=
  { rest := src, pos := 0, tok := ⟨.eof, [], 0⟩, err := none, refs := [] }

def parseWhen (src : Text) : Except WhenErr WhenExpr := do
  let (root, p) ← parseExpr (maxWhenDepth + 1) (Parser.start src).next
  match p.err with
  | some err => .error err
  | none =>
      if p.tok.kind ≠ .eof then .error (p.errAt p.tok.pos (.trailing p.tok))
      else .ok ⟨src, p.refs, root⟩

end Fluxrig.Sdl
