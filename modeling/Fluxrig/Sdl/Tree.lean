import Fluxrig.Sdl.Grammar

/-!
# The syntax of conditions

`Tree` is the syntax the documentation speaks of; what cannot be written is not a
tree.  A tree is printed with parentheses only where the grammar asks for them.
-/

namespace Fluxrig.Sdl

open Fluxrig.Core Message

/-- A subfield: what can stand between two points of a path. -/
structure Segment where
  text : Text
  nonempty : text ≠ []
  runes : ∀ c ∈ text, isPathRune c = true
  undotted : 46 ∉ text

/-- A data element whose number fits an `int`, and a subfield path under it. -/
structure Path where
  number : ℕ
  fits : number < 2 ^ 63
  subs : List Segment

structure Quoted where
  text : Text
  unquoted : 39 ∉ text

structure Digits where
  text : Text
  nonempty : text ≠ []
  digits : ∀ c ∈ text, isDigit c = true

inductive Comparator where
  | eq
  | ne
  | lt
  | le
  | gt
  | ge

inductive Term where
  | field (path : Path)
  | present (path : Path)
  | mti
  | text (literal : Quoted)
  | number (literal : Digits)
  | bool (b : Bool)

inductive Tree where
  /-- Two or more conditions joined by one connective. -/
  | join (conn : Connective) (first second : Tree) (others : List Tree)
  | not (inner : Tree)
  | compare (lhs : Term) (op : Comparator) (rhs : Term)
  | present (path : Path)
  | bool (b : Bool)

def Path.ref (path : Path) : FieldRef := ⟨path.number, path.subs.map Segment.text, 0⟩

def Comparator.text : Comparator → Text
  | .eq => utf8 "=="
  | .ne => utf8 "!="
  | .lt => utf8 "<"
  | .le => utf8 "<="
  | .gt => utf8 ">"
  | .ge => utf8 ">="

def Term.node : Term → Node
  | .field path => .field path.ref false
  | .present path => .present path.ref
  | .mti => .mti
  | .text literal => .lit (strValue literal.text)
  | .number literal => .lit (strValue literal.text)
  | .bool b => .lit (boolValue b)

mutual

/-- The tree the parser should return, but for the offsets. -/
def Tree.node : Tree → Node
  | .join conn first second others =>
      conn.node (first.node :: second.node :: nodesOf others)
  | .not inner => .not inner.node
  | .compare lhs op rhs => .cmp lhs.node op.text rhs.node
  | .present path => .present path.ref
  | .bool b => .lit (boolValue b)

def nodesOf : List Tree → List Node
  | [] => []
  | tree :: trees => tree.node :: nodesOf trees

end

def FieldRef.unplaced (ref : FieldRef) : FieldRef := { ref with pos := 0 }

mutual

/-- The tree without the offsets of its references. -/
def Node.unplaced : Node → Node
  | .or alternatives => .or (unplacedAll alternatives)
  | .and conjuncts => .and (unplacedAll conjuncts)
  | .not inner => .not inner.unplaced
  | .cmp lhs op rhs => .cmp lhs.unplaced op rhs.unplaced
  | .field ref numeric => .field ref.unplaced numeric
  | .present ref => .present ref.unplaced
  | .mti => .mti
  | .lit value => .lit value

def unplacedAll : List Node → List Node
  | [] => []
  | node :: nodes => node.unplaced :: unplacedAll nodes

end

/-- The phrase at a rank, from the loosest to the tightest. -/
def phraseOf : ℕ → Phrase
  | 0 => .chain .or
  | 1 => .chain .and
  | 2 => .negation
  | _ => .primary

namespace Connective

def rank : Connective → ℕ
  | .or => 0
  | .and => 1

def sign : Connective → Text
  | .or => utf8 " || "
  | .and => utf8 " && "

end Connective

def Tree.rank : Tree → ℕ
  | .join conn _ _ _ => conn.rank
  | .not _ => 2
  | .compare _ _ _ => 3
  | .present _ => 3
  | .bool _ => 3

/-- Parentheses around what is too loose for its place. -/
def within (place rank : ℕ) (text : Text) : Text :=
  if place ≤ rank then text else 40 :: text ++ [41]

def Path.print (path : Path) : Text :=
  List.intercalate [46] (decimal path.number :: path.subs.map Segment.text)

/-- `name(path)`. -/
def printCall (name : Text) (path : Path) : Text := name ++ 40 :: path.print ++ [41]

def Term.print : Term → Text
  | .field path => printCall fieldWord path
  | .present path => printCall presentWord path
  | .mti => mtiWord
  | .text literal => 39 :: literal.text ++ [39]
  | .number literal => literal.text
  | .bool b => boolWord b

/-- A connective and the condition behind it. -/
def joined (conn : Connective) (rank : ℕ) (text : Text) : Text :=
  conn.sign ++ within (conn.rank + 1) rank text

mutual

def Tree.print : Tree → Text
  | .join conn first second others =>
      within (conn.rank + 1) first.rank first.print ++
        (joined conn second.rank second.print ++ printAll conn others)
  | .not inner => 33 :: within 2 inner.rank inner.print
  | .compare lhs op rhs => lhs.print ++ 32 :: (op.text ++ 32 :: rhs.print)
  | .present path => printCall presentWord path
  | .bool b => boolWord b

def printAll (conn : Connective) : List Tree → Text
  | [] => []
  | tree :: trees => joined conn tree.rank tree.print ++ printAll conn trees

end

/-- The levels of the grammar a text goes down at a place, when it goes down `own`
levels at its own rank.  Parentheses lead through a primary phrase to the top. -/
def placed (place rank own : ℕ) : ℕ :=
  if place ≤ rank then rank - place + own else 4 - place + rank + own

mutual

/-- The levels below the phrase of the tree's own rank. -/
def Tree.own : Tree → ℕ
  | .join conn first second others =>
      1 + max (placed (conn.rank + 1) first.rank first.own)
        (max (placed (conn.rank + 1) second.rank second.own) (ownAll conn others))
  | .not inner => 1 + placed 2 inner.rank inner.own
  | .compare _ _ _ => 1
  | .present _ => 1
  | .bool _ => 1

def ownAll (conn : Connective) : List Tree → ℕ
  | [] => 0
  | tree :: trees =>
      max (placed (conn.rank + 1) tree.rank tree.own) (ownAll conn trees)

end

/-- How deep the printed tree nests, as the parser counts it. -/
def Tree.depth (tree : Tree) : ℕ := tree.rank + tree.own - 1

lemma elementNumber_eq (number : Text) :
    elementNumber number = wrapInt (numeral 10 digitOf number) := by
  induction number using List.reverseRecOn with
  | nil => rfl
  | append_singleton number c ih =>
    have hstep : elementNumber (number ++ [c]) =
        wrapInt (elementNumber number * 10 + digitOf c) := by
      rw [elementNumber, List.foldl_append]
      rfl
    rw [hstep, ih, numeral_append, List.length_singleton, pow_one, wrapInt, wrapInt, wrapInt,
      ← Int.bmod_add_bmod, Int.bmod_mul_bmod, Int.bmod_add_bmod]
    push_cast
    rfl

/-- The sum is exact as long as the number fits. -/
lemma elementNumber_eq_iff (number : Text) : elementNumber number = numeral 10 digitOf number ↔
      numeral 10 digitOf number < 2 ^ 63 := by
  rw [elementNumber_eq, wrapInt, Int.bmod]
  split <;> omega

lemma digitOf_symbol : ∀ place < 10, digitOf (UInt8.ofNat (48 + place)) = place := by
  decide

lemma numeral_decimal (number : ℕ) : numeral 10 digitOf (decimal number) = number :=
  numeral_symbolsWithin (by decide) digitOf_symbol (Nat.lt_succ_self number)

lemma isDigit_decimal {number : ℕ} : ∀ c ∈ decimal number, isDigit c = true := by
  intro c hc
  obtain ⟨place, hplace, rfl⟩ := mem_symbolsWithin (by decide) hc
  have hall : ∀ place < 10, isDigit (UInt8.ofNat (48 + place)) = true := by decide
  exact hall place hplace

namespace Path

variable (path : Path)

lemma splitDots_print :
    splitDots path.print = decimal path.number :: path.subs.map Segment.text := by
  apply List.splitOn_intercalate
  · intro part hpart
    rcases List.mem_cons.mp hpart with rfl | hsub
    · intro hdot
      exact absurd (isDigit_decimal 46 hdot) (by decide)
    · obtain ⟨segment, -, rfl⟩ := List.mem_map.mp hsub
      exact segment.undotted
  · exact List.cons_ne_nil _ _

lemma runes_print : ∀ c ∈ path.print, isPathRune c = true := by
  have hnumber : ∀ c ∈ decimal path.number, isPathRune c = true :=
    fun c hc => isPathRune_of_isDigit (isDigit_decimal c hc)
  rw [print]
  generalize decimal path.number = first at hnumber
  induction path.subs generalizing first with
  | nil =>
    rw [List.map_nil, List.intercalate_singleton]
    exact hnumber
  | cons segment _ ih =>
    rw [List.map_cons, List.intercalate_cons_cons, List.forall_mem_append, List.forall_mem_append]
    exact ⟨⟨hnumber, by simp [isPathRune]⟩, ih segment.text segment.runes⟩

lemma print_ne_nil : path.print ≠ [] := by
  intro hnil
  have hparts := path.splitDots_print
  rw [hnil] at hparts
  exact symbolsOf_ne_nil path.number (List.cons.inj hparts).1.symm

def kind : TokKind := if isAllDigits path.print then .number else .ident

lemma spelt_print : Spelt path.kind path.print := by
  rw [kind]
  split
  · rename_i hdigits
    exact isAllDigits_iff.mp hdigits
  · rename_i hdigits
    exact ⟨path.print_ne_nil, path.runes_print, Bool.eq_false_iff.mpr hdigits⟩

lemma kind_cases : path.kind = .ident ∨ path.kind = .number := by
  rw [kind]
  split
  · exact Or.inr rfl
  · exact Or.inl rfl

/-- The token of a printed path, and what the parser makes of it. -/
lemma isPath_print (kind : TokKind) (pos : ℕ) : (⟨kind, path.print, pos⟩ : Token).IsPath := by
  have hparts := path.splitDots_print
  refine ⟨?_, ?_, ?_⟩
  · rw [Token.number, hparts]
    exact symbolsOf_ne_nil path.number
  · rw [Token.number, hparts]
    exact isDigit_decimal
  · rw [Token.subs, hparts]
    intro hempty
    obtain ⟨segment, -, hnil⟩ := List.mem_map.mp hempty
    exact segment.nonempty hnil

lemma ref_print (kind : TokKind) (pos : ℕ) :
    (⟨kind, path.print, pos⟩ : Token).ref.unplaced = path.ref := by
  have hparts := path.splitDots_print
  have hnumber : elementNumber (decimal path.number) = path.number := by
    have hexact := elementNumber_eq_iff (decimal path.number)
    rw [numeral_decimal] at hexact
    exact hexact.mpr path.fits
  rw [Token.ref, Token.number, Token.subs, hparts, FieldRef.unplaced, Path.ref]
  simp only [List.headD_cons, List.tail_cons, hnumber]

end Path

end Fluxrig.Sdl
