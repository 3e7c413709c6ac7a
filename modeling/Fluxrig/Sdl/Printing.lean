import Fluxrig.Sdl.Tree

/-!
# Printed conditions

A printed tree spells a phrase of the grammar that stands for that tree
(`Tree.spoken`), whatever follows it, and goes down as many levels as `Tree.own`
counts.
-/

namespace Fluxrig.Sdl

open Fluxrig.Core Message

/-- Text in front of which a word ends. -/
def Boundary (suffix : Text) : Prop := ∀ c ∈ suffix.head?, isPathRune c = false

/-- In front of any text that ends its last word, the text spells a phrase with these
nodes. -/
def Spoken (phrase : List Token → List Node → List Token → Prop) (text : Text)
    (nodes : List Node) : Prop :=
  ∀ (pos : ℕ) (suffix : Text) (rest : List Token), Boundary suffix →
    Spells (pos + text.length) suffix rest →
    ∃ toks found, Spells pos (text ++ suffix) toks ∧ phrase toks found rest ∧
      unplacedAll found = nodes

variable {text : Text} {node : Node} {phrase : List Token → List Node → List Token → Prop}
  {levels place : ℕ}

lemma spells_token (kind : TokKind) {suffix : Text} {rest : List Token} {pos after : ℕ}
    (hspelt : Spelt kind text) (hends : EndsBefore kind text suffix)
    (hafter : pos + text.length = after) (hrest : Spells after suffix rest) :
    Spells pos (text ++ suffix) (⟨kind, text, pos⟩ :: rest) := by
  refine ⟨[], suffix, rfl, nofun, rfl, hspelt, hends, ?_⟩
  rw [← hafter] at hrest
  exact hrest

lemma spells_blank {c : UInt8} {toks : List Token} {pos : ℕ} (hblank : isBlank c = true)
    (hspells : Spells (pos + 1) text toks) : Spells pos (c :: text) toks := by
  cases toks with
  | nil => exact List.forall_mem_cons.mpr ⟨hblank, hspells⟩
  | cons tok toks =>
    obtain ⟨gap, more, rfl, hgap, hpos, hmore⟩ := hspells
    refine ⟨c :: gap, more, rfl, List.forall_mem_cons.mpr ⟨hblank, hgap⟩, ?_, hmore⟩
    rw [List.length_cons]
    omega

lemma unplacedAll_singleton {nodes : List Node} (hnodes : unplacedAll nodes = [node]) :
    ∃ found, nodes = [found] ∧ found.unplaced = node := by
  rcases nodes with - | ⟨found, - | ⟨other, nodes⟩⟩
  · nomatch hnodes
  · exact ⟨found, rfl, (List.cons.inj hnodes).1⟩
  · exact absurd (List.cons.inj hnodes).2 nofun

/-- The same text as a phrase of another kind. -/
lemma Spoken.single {other : List Token → List Node → List Token → Prop} {result : Node}
    (hspoken : Spoken phrase text [node])
    (hother : ∀ toks found rest, phrase toks [found] rest → found.unplaced = node →
      ∃ made, other toks [made] rest ∧ made.unplaced = result) : Spoken other text [result] := by
  intro pos suffix rest hboundary hrest
  obtain ⟨toks, nodes, htoks, hphrase, hnodes⟩ := hspoken pos suffix rest hboundary hrest
  obtain ⟨found, rfl, hfound⟩ := unplacedAll_singleton hnodes
  obtain ⟨made, hmade, hresult⟩ := hother toks found rest hphrase hfound
  exact ⟨toks, [made], htoks, hmade, by rw [unplacedAll, unplacedAll, hresult]⟩

/-- One token that is a word, whatever its kind. -/
lemma spoken_token (kind : TokKind) (hspelt : Spelt kind text)
    (hends : ∀ suffix, Boundary suffix → EndsBefore kind text suffix)
    (hplain : node.unplaced = node)
    (hphrase : ∀ pos rest, phrase (⟨kind, text, pos⟩ :: rest) [node] rest) :
    Spoken phrase text [node] := by
  intro pos suffix rest hboundary hrest
  refine ⟨_, [node], spells_token kind hspelt (hends suffix hboundary) rfl hrest,
    hphrase pos rest, ?_⟩
  rw [unplacedAll, unplacedAll, hplain]

lemma spoken_word (hspelt : Spelt .ident text) (hplain : node.unplaced = node)
    (hphrase : ∀ pos rest, phrase (⟨.ident, text, pos⟩ :: rest) [node] rest) :
    Spoken phrase text [node] :=
  spoken_token .ident hspelt (fun _ hboundary => hboundary) hplain hphrase

lemma spelt_ident (hne : text ≠ []) (hrunes : text.all isPathRune = true)
    (hdigits : isAllDigits text = false) : Spelt .ident text :=
  ⟨hne, List.all_eq_true.mp hrunes, hdigits⟩

lemma spoken_call (name : Text) (hname : Spelt .ident name) (path : Path)
    (make : FieldRef → Node) (hmake : ∀ ref, (make ref).unplaced = make ref.unplaced) :
    Spoken (fun toks found rest => ∃ ref, found = [make ref] ∧ Call name toks ref rest)
      (printCall name path) [make path.ref] := by
  intro pos suffix rest hboundary hrest
  have hlength : pos + name.length + 1 + path.print.length + 1 =
      pos + (printCall name path).length := by
    simp only [printCall, List.length_append, List.length_cons, List.length_nil]
    omega
  have hclosing : Spells (pos + name.length + 1 + path.print.length) ([41] ++ suffix) _ :=
    spells_token .rparen rfl trivial hlength hrest
  have hends : EndsBefore path.kind path.print ([41] ++ suffix) := by
    rcases path.kind_cases with hident | hnumber
    · rw [hident]
      simp [EndsBefore, isPathRune, isDigit]
    · rw [hnumber]
      simp [EndsBefore, isPathRune, isDigit]
  have hpath : Spells (pos + name.length + 1) (path.print ++ ([41] ++ suffix)) _ :=
    spells_token path.kind path.spelt_print hends rfl hclosing
  have hopening : Spells (pos + name.length) ([40] ++ (path.print ++ ([41] ++ suffix))) _ :=
    spells_token .lparen rfl trivial rfl hpath
  have hword : Spells pos (name ++ ([40] ++ (path.print ++ ([41] ++ suffix)))) _ :=
    spells_token .ident hname (by simp [EndsBefore, isPathRune, isDigit]) rfl hopening
  have htext : printCall name path ++ suffix =
      name ++ ([40] ++ (path.print ++ ([41] ++ suffix))) := by
    simp [printCall]
  rw [htext]
  refine ⟨_, [make (Token.ref ⟨path.kind, path.print, pos + name.length + 1⟩)], hword,
    ⟨_, rfl, .call ⟨rfl, rfl⟩ rfl path.kind_cases (path.isPath_print _ _) rfl⟩, ?_⟩
  rw [unplacedAll, unplacedAll, hmake, path.ref_print]

lemma spoken_present (path : Path) :
    Spoken (fun toks found rest => ∃ node, found = [node] ∧ Condition toks node rest)
      (printCall presentWord path) [.present path.ref] := by
  have hcall := spoken_call presentWord (spelt_ident (by decide) (by decide) (by decide)) path
    .present fun ref => rfl
  apply hcall.single
  rintro toks found rest ⟨ref, hfound, hcall⟩ hplain
  obtain rfl := (List.cons.inj hfound).1
  exact ⟨_, ⟨_, rfl, .present hcall⟩, hplain⟩

lemma spelt_boolWord (b : Bool) : Spelt .ident (boolWord b) := by
  cases b <;> exact spelt_ident (by decide) (by decide) (by decide)

lemma spoken_bool (b : Bool) :
    Spoken (fun toks found rest => ∃ node, found = [node] ∧ Condition toks node rest)
      (boolWord b) [.lit (boolValue b)] :=
  spoken_word (spelt_boolWord b) rfl fun _ _ => ⟨_, rfl, .bool ⟨rfl, rfl⟩⟩

section

variable (hspoken : Spoken
  (fun toks found rest => ∃ node, found = [node] ∧ Condition toks node rest) text [node])

include hspoken

/-- A condition is an operand as well. -/
lemma Spoken.operand :
    Spoken (fun toks found rest => ∃ node, found = [node] ∧ Operand toks node rest) text
      [node] := by
  apply hspoken.single
  rintro toks found rest ⟨made, hmade, hcondition⟩ hplain
  exact ⟨found, ⟨made, hmade, .condition hcondition⟩, hplain⟩

lemma Spoken.condition (levels : ℕ) : Spoken (Derives .primary (levels + 1)) text [node] := by
  apply hspoken.single
  rintro toks found rest ⟨made, hmade, hcondition⟩ hplain
  obtain rfl := (List.cons.inj hmade).1
  exact ⟨_, .condition hcondition, hplain⟩

end

lemma unquote_quoted (body : Text) : unquote (39 :: body ++ [39]) = body := by
  have hquoted : 2 ≤ (39 :: body ++ [39]).length ∧ (39 :: body ++ [39]).head? = some 39 ∧
      (39 :: body ++ [39]).getLast? = some 39 := by
    refine ⟨?_, rfl, ?_⟩
    · simp
    · rw [List.getLast?_append]
      rfl
  rw [unquote, if_pos hquoted]
  simp

lemma unquote_digits (hdigits : ∀ c ∈ text, isDigit c = true) : unquote text = text := by
  apply if_neg
  rintro ⟨-, hquote, -⟩
  exact absurd (hdigits 39 (List.mem_of_mem_head? hquote)) (by decide)

/-- The operand a printed term spells. -/
lemma Term.spoken (term : Term) :
    Spoken (fun toks found rest => ∃ node, found = [node] ∧ Operand toks node rest)
      term.print [term.node] := by
  cases term with
  | field path =>
    have hcall := spoken_call fieldWord (spelt_ident (by decide) (by decide) (by decide))
      path (Node.field · false) fun ref => rfl
    apply hcall.single
    rintro toks found rest ⟨ref, hfound, hcall⟩ hplain
    obtain rfl := (List.cons.inj hfound).1
    exact ⟨_, ⟨_, rfl, .field hcall⟩, hplain⟩
  | present path => exact (spoken_present path).operand
  | mti =>
    exact spoken_word (spelt_ident (by decide) (by decide) (by decide)) rfl
      fun _ _ => ⟨_, rfl, .mti ⟨rfl, rfl⟩⟩
  | text literal =>
    have hvalue := unquote_quoted literal.text
    apply spoken_token .string ⟨literal.text, literal.unquoted, rfl⟩ (fun _ _ => trivial) rfl
    intro pos rest
    have hoperand : Operand (⟨.string, 39 :: literal.text ++ [39], pos⟩ :: rest) _ rest :=
      .literal (Or.inl rfl)
    rw [hvalue] at hoperand
    exact ⟨_, rfl, hoperand⟩
  | number literal =>
    have hvalue := unquote_digits literal.digits
    apply spoken_token .number ⟨literal.nonempty, literal.digits⟩
      (fun _ hboundary => hboundary) rfl
    intro pos rest
    have hoperand : Operand (⟨.number, literal.text, pos⟩ :: rest) _ rest := .literal (Or.inr rfl)
    rw [hvalue] at hoperand
    exact ⟨_, rfl, hoperand⟩
  | bool b => exact (spoken_bool b).operand

lemma Comparator.spelt (op : Comparator) : Spelt .op op.text := by
  cases op <;> (rw [Spelt]; decide)

lemma spoken_compare (lhs : Term) (op : Comparator) (rhs : Term) (levels : ℕ) :
    Spoken (Derives .primary (levels + 1)) (lhs.print ++ 32 :: (op.text ++ 32 :: rhs.print))
      [.cmp lhs.node op.text rhs.node] := by
  intro pos suffix rest hboundary hrest
  have hlength : pos + (lhs.print ++ 32 :: (op.text ++ 32 :: rhs.print)).length =
      pos + lhs.print.length + 1 + op.text.length + 1 + rhs.print.length := by
    simp only [List.length_append, List.length_cons]
    omega
  rw [hlength] at hrest
  obtain ⟨right, _, hright, ⟨rhsNode, rfl, hrhs⟩, hrhsNode⟩ :=
    rhs.spoken _ suffix rest hboundary hrest
  have hop : Spells (pos + lhs.print.length + 1) (op.text ++ 32 :: (rhs.print ++ suffix)) _ :=
    spells_token .op op.spelt (fun _ => nofun) rfl (spells_blank rfl hright)
  have hspace : Boundary (32 :: (op.text ++ 32 :: (rhs.print ++ suffix))) := by
    simp [Boundary, isPathRune, isDigit]
  obtain ⟨left, _, hleft, ⟨lhsNode, rfl, hlhs⟩, hlhsNode⟩ :=
    lhs.spoken pos _ _ hspace (spells_blank rfl hop)
  refine ⟨left, [.cmp lhsNode op.text rhsNode], ?_, .comparison hlhs rfl hrhs, ?_⟩
  · simpa using hleft
  · obtain ⟨_, hsame, hplain⟩ := unplacedAll_singleton hlhsNode
    obtain rfl := (List.cons.inj hsame).1
    obtain ⟨_, hsame, hplainRight⟩ := unplacedAll_singleton hrhsNode
    obtain rfl := (List.cons.inj hsame).1
    rw [unplacedAll, unplacedAll, Node.unplaced, hplain, hplainRight]

lemma spoken_not (hspoken : Spoken (Derives .negation levels) text [node])
    (hhead : ∀ suffix, (text ++ suffix).head? ≠ some 61) :
    Spoken (Derives .negation (levels + 1)) (33 :: text) [.not node] := by
  intro pos suffix rest hboundary hrest
  have hlength : pos + (33 :: text).length = pos + 1 + text.length := by
    rw [List.length_cons]
    omega
  rw [hlength] at hrest
  obtain ⟨toks, nodes, htoks, hderives, hnodes⟩ := hspoken (pos + 1) suffix rest hboundary hrest
  obtain ⟨found, rfl, hfound⟩ := unplacedAll_singleton hnodes
  have hbang : Spells pos ([33] ++ (text ++ suffix)) _ :=
    spells_token .not rfl (hhead suffix) rfl htoks
  exact ⟨_, [.not found], hbang, .not rfl hderives,
    by rw [unplacedAll, unplacedAll, Node.unplaced, hfound]⟩

lemma spoken_paren (hspoken : Spoken (Derives (.chain .or) levels) text [node]) :
    Spoken (Derives .primary (levels + 1)) (40 :: text ++ [41]) [node] := by
  intro pos suffix rest hboundary hrest
  have hlength : pos + 1 + text.length + 1 = pos + (40 :: text ++ [41]).length := by
    simp only [List.length_append, List.length_cons, List.length_nil]
    omega
  have hclosing : Spells (pos + 1 + text.length) ([41] ++ suffix) _ :=
    spells_token .rparen rfl trivial hlength hrest
  have hends : Boundary ([41] ++ suffix) := by simp [Boundary, isPathRune, isDigit]
  obtain ⟨toks, nodes, htoks, hderives, hnodes⟩ := hspoken (pos + 1) _ _ hends hclosing
  obtain ⟨found, rfl, hfound⟩ := unplacedAll_singleton hnodes
  have hopening : Spells pos ([40] ++ (text ++ ([41] ++ suffix))) _ :=
    spells_token .lparen rfl trivial rfl htoks
  have htext : 40 :: text ++ [41] ++ suffix = [40] ++ (text ++ ([41] ++ suffix)) := by simp
  rw [htext]
  exact ⟨_, [found], hopening, .paren rfl hderives rfl, hnodes⟩

/-- A phrase is also a phrase of the next looser rank. -/
lemma spoken_looser (hplace : place < 3)
    (hspoken : Spoken (Derives (phraseOf (place + 1)) levels) text [node]) :
    Spoken (Derives (phraseOf place) (levels + 1)) text [node] := by
  apply hspoken.single
  intro toks found rest hderives hfound
  refine ⟨found, ?_, hfound⟩
  match place, hplace with
  | 0, _ => exact @Derives.chain .or _ _ _ _ _ _ hderives .done
  | 1, _ => exact @Derives.chain .and _ _ _ _ _ _ hderives .done
  | 2, _ => exact .plain hderives

lemma spoken_climb (own steps : ℕ) (hrank : place + steps ≤ 3)
    (hspoken : ∀ levels, own ≤ levels → Spoken (Derives (phraseOf (place + steps)) levels) text
      [node]) :
    ∀ levels, steps + own ≤ levels → Spoken (Derives (phraseOf place) levels) text [node] := by
  induction steps generalizing own with
  | zero =>
    intro levels hlevels
    exact hspoken levels (by omega)
  | succ steps ih =>
    intro levels hlevels
    apply ih (own + 1) (by omega) _ levels (by omega)
    intro levels hlevels
    obtain ⟨levels, rfl⟩ := Nat.exists_eq_add_one.mpr (Nat.zero_lt_of_lt hlevels)
    exact spoken_looser (by omega) (hspoken levels (by omega))

/-- A text at a place, in parentheses where it is too loose. -/
lemma spoken_within {rank own : ℕ} (hplace : place ≤ 3) (hrank : rank ≤ 3)
    (hspoken : ∀ levels, own ≤ levels → Spoken (Derives (phraseOf rank) levels) text [node]) :
    ∀ levels, placed place rank own ≤ levels →
      Spoken (Derives (phraseOf place) levels) (within place rank text) [node] := by
  rw [placed, within]
  split
  · rename_i hfits
    apply spoken_climb own (rank - place) (by omega)
    rw [Nat.add_sub_cancel' hfits]
    exact hspoken
  · have htop : ∀ levels, rank + own ≤ levels →
        Spoken (Derives (phraseOf 0) levels) text [node] := by
      apply spoken_climb own rank (by omega)
      rw [Nat.zero_add]
      exact hspoken
    have hprimary : ∀ levels, rank + own + 1 ≤ levels →
        Spoken (Derives (phraseOf 3) levels) (40 :: text ++ [41]) [node] := by
      intro levels hlevels
      obtain ⟨levels, rfl⟩ := Nat.exists_eq_add_one.mpr (Nat.zero_lt_of_lt hlevels)
      exact spoken_paren (htop levels (by omega))
    intro levels hlevels
    apply spoken_climb (rank + own + 1) (3 - place) (by omega) _ levels (by omega)
    rw [Nat.add_sub_cancel' hplace]
    exact hprimary

/-- Text that a word in front of it does not run into. -/
def Detached (text : Text) : Prop := ∀ suffix, Boundary suffix → Boundary (text ++ suffix)

variable (conn : Connective)

lemma Connective.sign_eq : ∃ c, conn.sign = 32 :: [c, c] ++ [32] ∧ Spelt conn.kind [c, c] := by
  cases conn with
  | or => exact ⟨124, rfl, rfl⟩
  | and => exact ⟨38, rfl, rfl⟩

lemma Connective.endsBefore (text more : Text) : EndsBefore conn.kind text more := by
  cases conn <;> trivial

lemma detached_joined (rank : ℕ) (text more : Text) :
    Detached (joined conn rank text ++ more) := by
  intro suffix _ first hfirst
  obtain ⟨c, hsign, -⟩ := conn.sign_eq
  rw [joined, hsign] at hfirst
  rw [← Option.some.inj hfirst]
  rfl

lemma spoken_more_cons {conn : Connective} {more : Text} {nodes : List Node}
    (hitem : Spoken (Derives conn.item levels) text [node])
    (hmore : Spoken (Derives (.more conn) levels) more nodes)
    (hdetached : Detached more) :
    Spoken (Derives (.more conn) levels) (conn.sign ++ text ++ more) (node :: nodes) := by
  intro pos suffix rest hboundary hrest
  obtain ⟨c, hsign, hspelt⟩ := conn.sign_eq
  rw [hsign] at hrest ⊢
  have hlength : pos + (32 :: [c, c] ++ [32] ++ text ++ more).length =
      pos + 1 + 2 + 1 + text.length + more.length := by
    simp only [List.length_append, List.length_cons, List.length_nil]
    omega
  rw [hlength] at hrest
  obtain ⟨behind, others, hbehind, hothers, hnodes⟩ := hmore _ suffix rest hboundary hrest
  obtain ⟨toks, found, htoks, hfound, hnode⟩ :=
    hitem _ _ behind (hdetached suffix hboundary) hbehind
  obtain ⟨single, rfl, hsingle⟩ := unplacedAll_singleton hnode
  have hjoin : Spells (pos + 1) ([c, c] ++ (32 :: (text ++ (more ++ suffix)))) _ :=
    spells_token conn.kind hspelt (conn.endsBefore _ _) rfl (spells_blank rfl htoks)
  have htext : 32 :: [c, c] ++ [32] ++ text ++ more ++ suffix =
      32 :: ([c, c] ++ (32 :: (text ++ (more ++ suffix)))) := by simp
  rw [htext]
  refine ⟨_, single :: others, spells_blank rfl hjoin, .more rfl hfound hothers, ?_⟩
  rw [unplacedAll, hsingle, hnodes]

lemma unplaced_collapse (conn : Connective) (nodes : List Node) :
    (collapse conn.node nodes).unplaced = collapse conn.node (unplacedAll nodes) := by
  rcases nodes with - | ⟨node, - | ⟨other, nodes⟩⟩
  · cases conn <;> rfl
  · rfl
  · cases conn <;> rfl

lemma spoken_chain {conn : Connective} {more : Text} {first : Node}
    {others : List Node} (hfirst : Spoken (Derives conn.item levels) text [first])
    (hmore : Spoken (Derives (.more conn) levels) more others)
    (hdetached : Detached more) :
    Spoken (Derives (.chain conn) (levels + 1)) (text ++ more)
      [collapse conn.node (first :: others)] := by
  intro pos suffix rest hboundary hrest
  rw [List.length_append, ← Nat.add_assoc] at hrest
  obtain ⟨behind, found, hbehind, hothers, hnodes⟩ := hmore _ suffix rest hboundary hrest
  obtain ⟨toks, nodes, htoks, hderives, hnode⟩ :=
    hfirst pos _ behind (hdetached suffix hboundary) hbehind
  obtain ⟨single, rfl, hsingle⟩ := unplacedAll_singleton hnode
  rw [List.append_assoc]
  refine ⟨toks, [collapse conn.node (single :: found)], htoks, .chain hderives hothers, ?_⟩
  rw [unplacedAll, unplacedAll, unplaced_collapse, unplacedAll, hsingle, hnodes]

lemma Connective.item_eq (conn : Connective) : conn.item = phraseOf (conn.rank + 1) := by
  cases conn <;> rfl

lemma Tree.rank_le (tree : Tree) : tree.rank ≤ 3 := by
  cases tree with
  | join conn =>
    cases conn
    · exact Nat.zero_le _
    · exact Nat.le_of_ble_eq_true rfl
  | not | compare | present | bool => exact Nat.le_of_ble_eq_true rfl

/-- No printed tree begins like the rest of a comparison. -/
lemma Tree.head_print : (tree : Tree) → ∃ c more, tree.print = c :: more ∧ c ≠ 61
  | .join conn first second others => by
    rw [Tree.print, within]
    split
    · obtain ⟨c, more, hfirst, hc⟩ := first.head_print
      rw [hfirst]
      exact ⟨c, _, rfl, hc⟩
    · exact ⟨40, _, rfl, by decide⟩
  | .not inner => ⟨33, _, by rw [Tree.print], by decide⟩
  | .compare lhs op rhs => by
    rw [Tree.print]
    cases lhs with
    | field path => exact ⟨102, _, rfl, by decide⟩
    | present path => exact ⟨112, _, rfl, by decide⟩
    | mti => exact ⟨109, _, rfl, by decide⟩
    | text literal => exact ⟨39, _, rfl, by decide⟩
    | number literal =>
      rw [Term.print]
      cases htext : literal.text with
      | nil => exact absurd htext literal.nonempty
      | cons c more =>
        refine ⟨c, _, rfl, ?_⟩
        rintro rfl
        exact absurd (literal.digits 61 (by rw [htext]; exact List.mem_cons_self)) (by decide)
    | bool b => cases b <;> exact ⟨_, _, rfl, by decide⟩
  | .present path => ⟨112, _, by rw [Tree.print]; rfl, by decide⟩
  | .bool b => by
    cases b <;> exact ⟨_, _, rfl, by decide⟩

lemma head_within (tree : Tree) (place : ℕ) (suffix : Text) :
    (within place tree.rank tree.print ++ suffix).head? ≠ some 61 := by
  rw [within]
  split
  · obtain ⟨c, more, hprint, hc⟩ := tree.head_print
    rw [hprint]
    intro hhead
    exact hc (Option.some.inj hhead)
  · exact nofun

lemma detached_printAll (conn : Connective) (trees : List Tree) :
    Detached (printAll conn trees) := by
  cases trees with
  | nil =>
    intro suffix hboundary
    exact hboundary
  | cons =>
    exact detached_joined conn _ _ _

mutual

/-- A printed tree spells its own phrase. -/
lemma Tree.spoken : (tree : Tree) → ∀ levels, tree.own ≤ levels →
    Spoken (Derives (phraseOf tree.rank) levels) tree.print [tree.node]
  | .join conn first second others, levels, hlevels => by
    rw [Tree.own] at hlevels
    obtain ⟨levels, rfl⟩ := Nat.exists_eq_add_one.mpr (show 0 < levels by omega)
    have hplace : conn.rank + 1 ≤ 3 := by cases conn <;> decide
    have hfirst := spoken_within hplace first.rank_le first.spoken levels (by omega)
    have hsecond := spoken_within hplace second.rank_le second.spoken levels (by omega)
    rw [← conn.item_eq] at hfirst hsecond
    have hothers := spoken_printAll conn others levels (by omega)
    have hmore := spoken_more_cons hsecond hothers (detached_printAll conn others)
    have hchain := spoken_chain hfirst hmore (detached_joined conn _ _ _)
    cases conn <;> exact hchain
  | .not inner, levels, hlevels => by
    rw [Tree.own] at hlevels
    obtain ⟨levels, rfl⟩ := Nat.exists_eq_add_one.mpr (show 0 < levels by omega)
    have hplace : 2 ≤ 3 := by decide
    have hinner := spoken_within hplace inner.rank_le inner.spoken levels (by omega)
    exact spoken_not hinner (head_within inner 2)
  | .compare lhs op rhs, levels, hlevels => by
    obtain ⟨levels, rfl⟩ := Nat.exists_eq_add_one.mpr (Nat.zero_lt_of_lt hlevels)
    exact spoken_compare lhs op rhs levels
  | .present path, levels, hlevels => by
    obtain ⟨levels, rfl⟩ := Nat.exists_eq_add_one.mpr (Nat.zero_lt_of_lt hlevels)
    exact (spoken_present path).condition levels
  | .bool b, levels, hlevels => by
    obtain ⟨levels, rfl⟩ := Nat.exists_eq_add_one.mpr (Nat.zero_lt_of_lt hlevels)
    exact (spoken_bool b).condition levels

lemma spoken_printAll (conn : Connective) : (trees : List Tree) → ∀ levels,
    ownAll conn trees ≤ levels →
    Spoken (Derives (.more conn) levels) (printAll conn trees) (nodesOf trees)
  | [], levels, _ => by
    intro pos suffix rest _ hrest
    exact ⟨rest, [], hrest, .done, by rw [unplacedAll, nodesOf]⟩
  | tree :: trees, levels, hlevels => by
    rw [ownAll] at hlevels
    have hplace : conn.rank + 1 ≤ 3 := by cases conn <;> decide
    have htree := spoken_within hplace tree.rank_le tree.spoken levels (by omega)
    rw [← conn.item_eq] at htree
    have htrees := spoken_printAll conn trees levels (by omega)
    exact spoken_more_cons htree htrees (detached_printAll conn trees)

end

end Fluxrig.Sdl
