import Fluxrig.Sdl.Grammar

/-!
# The parser is exact

Every phrase of the grammar that nothing behind it carries on is found by the parser.
With the converse, the parser accepts a text exactly when its tokens derive from the
grammar within the depth limit (`parseWhen_iff`).
-/

namespace Fluxrig.Sdl

open Fluxrig.Core Message

/-- The tokens with which a phrase would go on. -/
def Phrase.Continues : Phrase → TokKind → Prop
  | .chain .or, kind => kind = .or ∨ kind = .and ∨ kind = .op
  | .more .or, kind => kind = .or ∨ kind = .and ∨ kind = .op
  | .chain .and, kind => kind = .and ∨ kind = .op
  | .more .and, kind => kind = .and ∨ kind = .op
  | .negation, kind => kind = .op
  | .primary, kind => kind = .op

def Stops (phrase : Phrase) (rest : List Token) : Prop :=
  ∀ tok ∈ rest.head?, ¬ phrase.Continues tok.kind

/-- A parse that returns the node, records its references and ends in front of `rest`. -/
def Gives (result : Except WhenErr (Node × Parser)) (p : Parser) (node : Node)
    (rest : List Token) : Prop :=
  ∃ after, result = .ok (node, after) ∧ after.Holds rest ∧ after.refs = p.refs ++ node.refs

variable {toks rest : List Token} {p : Parser} {node : Node} {levels : ℕ} {nodes : List Node}
  {conn : Connective}

lemma parseCall_gives {name : Text} {ref : FieldRef} (hcall : Call name toks ref rest)
    (hholds : p.Holds toks) :
    Gives (parseCall name p) p (if name = presentWord then .present ref else .field ref false)
      rest := by
  cases hcall with
  | call hword hopening hkind hpath hclosing =>
    obtain ⟨-, -, hopen, -, hread, -, hclose, -, hrest⟩ := hholds
    rename_i word opening path closing
    have hok : parsePath p.next.next.tok.text p.next.next.tok.pos = .ok path.ref := by
      change p.next.next.tok = path at hread
      rw [hread]
      exact parsePath_ok_iff.mpr ⟨hpath, rfl⟩
    refine ⟨(p.next.next.addRef path.ref).next.next, ?_, hrest, ?_⟩
    · have hlparen : ¬ p.next.tok.kind ≠ .lparen := by
        change p.next.tok = opening at hopen
        rw [hopen, not_not]
        exact hopening
      have hword : ¬ (p.next.next.tok.kind ≠ .ident ∧ p.next.next.tok.kind ≠ .number) := by
        change p.next.next.tok = path at hread
        rw [hread, not_and_or, not_not, not_not]
        exact hkind
      have hrparen : ¬ (p.next.next.addRef path.ref).next.tok.kind ≠ .rparen := by
        change (p.next.next.addRef path.ref).next.tok = closing at hclose
        rw [hclose, not_not]
        exact hclosing
      simp only [parseCall, if_neg hlparen, if_neg hword, hok, if_neg hrparen]
    · split <;> rfl

/-- The current token is the whole phrase. -/
lemma gives_token (hrefs : node.refs = []) (hrest : p.next.Holds rest) :
    Gives (.ok (node, p.next)) p node rest := by
  refine ⟨p.next, rfl, hrest, ?_⟩
  rw [hrefs, List.append_nil]
  rfl

lemma boolWord_eq (b : Bool) : boolWord b = trueWord ∨ boolWord b = falseWord := by
  cases b
  · exact Or.inr rfl
  · exact Or.inl rfl

lemma decide_boolWord (b : Bool) : decide (boolWord b = trueWord) = b := by
  cases b <;> decide

/-- The first token of a call. -/
lemma Call.head {name : Text} {ref : FieldRef} (hcall : Call name toks ref rest)
    (hholds : p.Holds toks) : p.tok.kind = .ident ∧ p.tok.text = name := by
  cases hcall with
  | call hword =>
    rw [hholds.1]
    exact hword

lemma parseOperand_gives (hoperand : Operand toks node rest) (hholds : p.Holds toks) :
    Gives (parseOperand p) p node rest := by
  cases hoperand with
  | condition hcondition =>
    cases hcondition with
    | present hcall =>
      obtain ⟨hkind, htext⟩ := hcall.head hholds
      have hgives := parseCall_gives hcall hholds
      simp only [parseOperand, hkind, htext]
      rwa [if_neg (by decide), if_pos trivial]
    | bool hword =>
      rename_i b
      rw [← hholds.1] at hword
      obtain ⟨hkind, htext⟩ := hword
      simp only [parseOperand, hkind, htext]
      have hmti : boolWord b ≠ fieldWord ∧ boolWord b ≠ presentWord ∧ boolWord b ≠ mtiWord := by
        cases b <;> decide
      rw [if_neg hmti.1, if_neg hmti.2.1, if_neg hmti.2.2, if_pos (boolWord_eq b),
        decide_boolWord]
      exact gives_token (by rw [Node.refs]) hholds.2.2
  | field hcall =>
    obtain ⟨hkind, htext⟩ := hcall.head hholds
    have hgives := parseCall_gives hcall hholds
    simp only [parseOperand, hkind, htext]
    rwa [if_pos trivial]
  | mti hword =>
    rw [← hholds.1] at hword
    simp only [parseOperand, hword.1, hword.2]
    exact gives_token (by rw [Node.refs]) hholds.2.2
  | literal hkind =>
    have htok := hholds.1
    rcases hkind with hstring | hnumber
    · rw [← htok] at hstring ⊢
      simp only [parseOperand, hstring]
      exact gives_token (by rw [Node.refs]) hholds.2.2
    · rw [← htok] at hnumber ⊢
      simp only [parseOperand, hnumber]
      exact gives_token (by rw [Node.refs]) hholds.2.2

lemma parseRight_gives {op : Token} {mid : List Token} {lhs rhs : Node} {behind : Parser}
    (hbehind : behind.Holds (op :: mid)) (hrefs : behind.refs = p.refs ++ lhs.refs)
    (hrhs : Operand mid rhs rest) :
    Gives (parseRight lhs behind) p (.cmp lhs op.text rhs) rest := by
  obtain ⟨htok, -, hmid⟩ := hbehind
  obtain ⟨after, hok, hafter, hafterRefs⟩ :=
    parseOperand_gives hrhs (show behind.next.Holds mid from hmid)
  refine ⟨after, ?_, hafter, ?_⟩
  · rw [parseRight, hok, ← htok]
    rfl
  · rw [hafterRefs, Node.refs, ← List.append_assoc, ← hrefs]
    rfl

lemma parseAtom_condition (hcondition : Condition toks node rest) (hholds : p.Holds toks)
    (hstops : Stops .primary rest) : Gives (parseAtom p) p node rest := by
  have hno : ∀ after : Parser, after.Holds rest → after.tok.kind ≠ .op := by
    intro after hafter hop
    cases rest with
    | nil => nomatch hop.symm.trans hafter.1
    | cons tok =>
      rw [hafter.1] at hop
      exact hstops tok rfl hop
  cases hcondition with
  | present hcall =>
    have hhead := hcall.head hholds
    obtain ⟨after, hok, hafter, hrefs⟩ := parseCall_gives hcall hholds
    rw [if_pos rfl] at hok hrefs
    refine ⟨after, ?_, hafter, hrefs⟩
    rw [parseAtom, if_pos hhead, hok]
    change parseMaybeRight _ after = _
    rw [parseMaybeRight, if_pos (hno after hafter)]
  | bool hword =>
    rename_i b
    rw [← hholds.1] at hword
    have hpresent : boolWord b ≠ presentWord := by cases b <;> decide
    rw [parseAtom, hword.1, hword.2, if_neg (fun hboth => hpresent hboth.2),
      if_pos ⟨rfl, boolWord_eq b⟩, parseMaybeRight, if_pos (hno p.next hholds.2.2),
      decide_boolWord]
    exact gives_token (by rw [Node.refs]) hholds.2.2

lemma parseAtom_comparison {op : Token} {mid : List Token} {lhs rhs : Node}
    (hlhs : Operand toks lhs (op :: mid)) (hop : op.kind = .op)
    (hrhs : Operand mid rhs rest) (hholds : p.Holds toks) :
    Gives (parseAtom p) p (.cmp lhs op.text rhs) rest := by
  obtain ⟨behind, hok, hbehind, hrefs⟩ := parseOperand_gives hlhs hholds
  have hright := parseRight_gives hbehind hrefs hrhs
  have hkind : behind.tok.kind = .op := by
    rw [hbehind.1]
    exact hop
  have hmaybe : parseMaybeRight lhs behind = parseRight lhs behind := by
    rw [parseMaybeRight, if_neg (not_not.mpr hkind)]
  rw [parseAtom]
  split
  · rename_i hword
    have hsame : parseOperand p = parseCall presentWord p := by
      simp only [parseOperand, hword.1, hword.2]
      rw [if_neg (by decide), if_pos trivial]
    rw [← hsame, hok]
    change Gives (parseMaybeRight lhs behind) _ _ _
    rw [hmaybe]
    exact hright
  split
  · rename_i hword
    have hsame : parseOperand p = .ok (.lit (boolValue (p.tok.text = trueWord)), p.next) := by
      simp only [parseOperand, hword.1]
      have hother : p.tok.text ≠ fieldWord ∧ p.tok.text ≠ presentWord ∧ p.tok.text ≠ mtiWord := by
        rcases hword.2 with htrue | hfalse
        · rw [htrue]
          decide
        · rw [hfalse]
          decide
      rw [if_neg hother.1, if_neg hother.2.1, if_neg hother.2.2, if_pos hword.2]
    rw [hsame] at hok
    cases hok
    rw [hmaybe]
    exact hright
  · rw [hok]
    change Gives (if behind.tok.kind ≠ .op then _ else parseRight lhs behind) _ _ _
    rw [if_neg (not_not.mpr hkind)]
    exact hright

/-- An operand begins with a word or a literal. -/
lemma Operand.head (hoperand : Operand toks node rest) (hholds : p.Holds toks) :
    p.tok.kind ≠ .not ∧ p.tok.kind ≠ .lparen := by
  have hident : p.tok.kind = .ident → p.tok.kind ≠ .not ∧ p.tok.kind ≠ .lparen := by
    intro hkind
    rw [hkind]
    exact ⟨nofun, nofun⟩
  cases hoperand with
  | condition hcondition =>
    cases hcondition with
    | present hcall => exact hident (hcall.head hholds).1
    | bool hword =>
      rw [← hholds.1] at hword
      exact hident hword.1
  | field hcall => exact hident (hcall.head hholds).1
  | mti hword =>
    rw [← hholds.1] at hword
    exact hident hword.1
  | literal hkind =>
    rw [← hholds.1] at hkind
    rcases hkind with hstring | hnumber
    · rw [hstring]
      exact ⟨nofun, nofun⟩
    · rw [hnumber]
      exact ⟨nofun, nofun⟩

/-- No primary phrase begins with a negation. -/
lemma primary_head (hderives : Derives .primary levels toks nodes rest)
    (hholds : p.Holds toks) : p.tok.kind ≠ .not := by
  cases hderives with
  | paren hopening =>
    rw [hholds.1, hopening]
    exact nofun
  | condition hcondition => exact ((Operand.condition hcondition).head hholds).1
  | comparison hlhs => exact (hlhs.head hholds).1

lemma parsePhrase_chain (conn : Connective) (levels : ℕ) (p : Parser) :
    parsePhrase (.chain conn) (levels + 1) p =
      parseChain conn.kind conn.node (parsePhrase conn.item levels) p := by
  cases conn <;> rfl

/-- A phrase in front of a connective, or of what stops the chain, is complete. -/
lemma stops_item (hmore : Derives (.more conn) levels toks nodes rest)
    (hstops : Stops (.more conn) rest) : Stops conn.item toks := by
  intro tok htok hcontinues
  cases hmore with
  | done =>
    apply hstops tok htok
    cases conn with
    | or | and => exact Or.inr hcontinues
  | more hkind =>
    rw [← Option.some.inj htok, hkind] at hcontinues
    cases conn with
    | or => rcases hcontinues with h | h <;> nomatch h
    | and => nomatch hcontinues

lemma Operand.suffix (hoperand : Operand toks node rest) : rest <:+ toks := by
  cases hoperand with
  | condition hcondition =>
    cases hcondition with
    | present hcall =>
      cases hcall
      exact ⟨[_, _, _, _], rfl⟩
    | bool => exact List.suffix_cons _ _
  | field hcall =>
    cases hcall
    exact ⟨[_, _, _, _], rfl⟩
  | mti | literal => exact List.suffix_cons _ _

lemma Derives.suffix {phrase : Phrase} (hderives : Derives phrase levels toks nodes rest) :
    rest <:+ toks := by
  induction hderives with
  | chain _ _ ihfirst ihothers => exact ihothers.trans ihfirst
  | done => exact List.suffix_rfl
  | more _ _ _ ihitem ihothers =>
    exact (ihothers.trans ihitem).trans (List.suffix_cons _ _)
  | not _ _ ih => exact ih.trans (List.suffix_cons _ _)
  | plain _ ih => exact ih
  | paren _ _ _ ih => exact ((List.suffix_cons _ _).trans ih).trans (List.suffix_cons _ _)
  | condition hcondition => exact (Operand.condition hcondition).suffix
  | comparison hlhs _ hrhs =>
    exact (hrhs.suffix.trans (List.suffix_cons _ _)).trans hlhs.suffix

/-- Every phrase of a chain has a connective in front of it. -/
lemma length_more (hmore : Derives (.more conn) levels toks nodes rest) :
    nodes.length ≤ toks.length := by
  induction nodes generalizing toks with
  | nil => exact Nat.zero_le _
  | cons node others ih =>
    cases hmore with
    | more _ hitem hothers =>
      have hshorter := hitem.suffix.length_le
      have hfew := ih hothers
      rw [List.length_cons, List.length_cons]
      omega

lemma length_of_spells {pos : ℕ} {text : Text} (hspells : Spells pos text toks) :
    toks.length ≤ text.length := by
  induction toks generalizing pos text with
  | nil => exact Nat.zero_le _
  | cons tok toks ih =>
    obtain ⟨gap, more, rfl, -, -, hspelt, -, hmore⟩ := hspells
    obtain ⟨c, word, hword, -⟩ := hspelt.head
    have hfew := ih hmore
    simp only [List.length_append, List.length_cons, hword]
    omega

/-- Every token behind the current one takes a byte off the source. -/
lemma length_of_holds (hholds : p.Holds toks) : toks.length ≤ p.rest.length + 1 := by
  cases toks with
  | nil => exact Nat.zero_le _
  | cons tok toks =>
    have hfew := length_of_spells (next_holds_iff.mp hholds.2.2).2
    rw [List.length_cons]
    omega

/-- What the parser finds for a phrase of the grammar. -/
def Found (levels : ℕ) (p after : Parser) (nodes : List Node) : Phrase → Prop
  | .more conn => ∀ items bound, nodes.length < bound →
      parseMore conn.kind (parsePhrase conn.item levels) bound items p =
        .ok (items ++ nodes, after)
  | phrase => ∃ node, nodes = [node] ∧ parsePhrase phrase levels p = .ok (node, after)

lemma Found.item {after : Parser} (hfound : Found levels p after [node] conn.item) :
    parsePhrase conn.item levels p = .ok (node, after) := by
  have hsome : ∃ other, [node] = [other] ∧
      parsePhrase conn.item levels p = .ok (other, after) := by
    cases conn <;> exact hfound
  obtain ⟨other, hother, hok⟩ := hsome
  rw [(List.cons.inj hother).1]
  exact hok

lemma parsePhrase_finds {phrase : Phrase}
    (hderives : Derives phrase levels toks nodes rest) (hholds : p.Holds toks)
    (hstops : Stops phrase rest) :
    ∃ after, Found levels p after nodes phrase ∧ after.Holds rest ∧
      after.refs = p.refs ++ refsAll nodes := by
  induction hderives generalizing p with
  | @chain conn levels toks mid rest first others hfirst hothers ihfirst ihothers =>
    have hmore : Stops (.more conn) rest := by cases conn <;> exact hstops
    obtain ⟨between, hfound, hbetween, hrefs⟩ := ihfirst hholds (stops_item hothers hmore)
    obtain ⟨after, hrest, hafter, hafterRefs⟩ := ihothers hbetween hmore
    refine ⟨after, ⟨_, rfl, ?_⟩, hafter, ?_⟩
    · have hbound : others.length < between.rest.length + 2 := by
        have hfew := length_more hothers
        have htokens := length_of_holds hbetween
        omega
      rw [parsePhrase_chain, parseChain, hfound.item]
      change (parseMore conn.kind _ (between.rest.length + 2) [first] between >>= _) = _
      rw [hrest [first] _ hbound]
      rfl
    · rw [hafterRefs, hrefs, List.append_assoc, ← refsAll_append, refsAll_singleton,
        refs_collapse]
      rfl
  | done =>
    refine ⟨p, ?_, hholds, by rw [refsAll, List.append_nil]⟩
    rename_i conn levels toks
    intro items bound hbound
    obtain ⟨bound, rfl⟩ := Nat.exists_eq_add_one.mpr hbound
    have hkind : p.tok.kind ≠ conn.kind := by
      intro hkind
      cases toks with
      | nil =>
        have heof := hholds.1
        rw [hkind] at heof
        cases conn <;> cases heof
      | cons tok =>
        apply hstops tok rfl
        rw [← hholds.1, hkind]
        cases conn
        · exact Or.inl rfl
        · exact Or.inl rfl
    rw [parseMore, if_neg hkind, List.append_nil]
  | @more conn levels tok toks mid rest node others hkind hitem hothers ihitem ihothers =>
    obtain ⟨between, hfound, hbetween, hrefs⟩ :=
      ihitem (show p.next.Holds toks from hholds.2.2) (stops_item hothers hstops)
    obtain ⟨after, hrest, hafter, hafterRefs⟩ := ihothers hbetween hstops
    refine ⟨after, ?_, hafter, ?_⟩
    · intro items bound hbound
      obtain ⟨bound, rfl⟩ := Nat.exists_eq_add_one.mpr (Nat.zero_lt_of_lt hbound)
      have htok : p.tok.kind = conn.kind := by rw [hholds.1, hkind]
      rw [parseMore, if_pos htok, hfound.item]
      change parseMore conn.kind _ bound (items ++ [node]) between = _
      rw [hrest (items ++ [node]) bound (Nat.lt_of_succ_lt_succ hbound), List.append_assoc]
      rfl
    · rw [hafterRefs, hrefs, List.append_assoc, ← refsAll_append]
      rfl
  | not hkind hinner ih =>
    obtain ⟨after, ⟨inner, hinner, hok⟩, hafter, hrefs⟩ := ih (p := p.next) hholds.2.2 hstops
    obtain rfl := (List.cons.inj hinner).1
    refine ⟨after, ⟨_, rfl, ?_⟩, hafter, hrefs⟩
    rw [← hholds.1] at hkind
    change parseNot _ p = _
    rw [parseNot, if_pos hkind]
    change (parsePhrase .negation _ p.next >>= _) = _
    rw [hok]
    rfl
  | plain hprimary ih =>
    obtain ⟨after, ⟨node, hnode, hok⟩, hafter, hrefs⟩ := ih hholds hstops
    refine ⟨after, ⟨node, hnode, ?_⟩, hafter, hrefs⟩
    change parseNot _ p = _
    rw [parseNot, if_neg (primary_head hprimary hholds)]
    exact hok
  | @paren levels opening closing toks rest node hopening hinner hclosing ih =>
    have hstop : Stops (.chain .or) (closing :: rest) := by
      intro tok htok hcontinues
      rw [← Option.some.inj htok, hclosing] at hcontinues
      rcases hcontinues with h | h | h <;> cases h
    obtain ⟨after, ⟨inner, hinner, hok⟩, hafter, hrefs⟩ := ih (p := p.next) hholds.2.2 hstop
    obtain rfl := (List.cons.inj hinner).1
    refine ⟨after.next, ⟨_, rfl, ?_⟩, hafter.2.2, hrefs⟩
    rw [← hholds.1] at hopening
    change parsePrimary _ p = _
    rw [parsePrimary, if_pos hopening]
    change (parsePhrase (.chain .or) _ p.next >>= _) = _
    rw [hok]
    change (if after.tok.kind ≠ .rparen then _ else _) = _
    rw [hafter.1, if_neg (not_not.mpr hclosing)]
  | condition hcondition =>
    obtain ⟨after, hok, hafter, hrefs⟩ := parseAtom_condition hcondition hholds hstops
    have hhead := ((Operand.condition hcondition).head hholds).2
    refine ⟨after, ⟨_, rfl, ?_⟩, hafter, by rw [refsAll_singleton, hrefs]⟩
    change parsePrimary _ p = _
    rw [parsePrimary, if_neg hhead, hok]
  | comparison hlhs hop hrhs =>
    obtain ⟨after, hok, hafter, hrefs⟩ := parseAtom_comparison hlhs hop hrhs hholds
    refine ⟨after, ⟨_, rfl, ?_⟩, hafter, by rw [refsAll_singleton, hrefs]⟩
    change parsePrimary _ p = _
    rw [parsePrimary, if_neg (hlhs.head hholds).2, hok]

lemma start_holds_iff {src : Text} : (Parser.start src).next.Holds toks ↔ Spells 0 src toks := by
  change (Parser.start src).toLexer.next.Holds toks ↔ _
  rw [next_holds_iff]
  exact and_iff_right rfl

/-- The parser accepts a text exactly when its tokens derive from the grammar within the
depth limit, and returns the tree they stand for. -/
lemma parseWhen_iff {src : Text} {expr : WhenExpr} :
    parseWhen src = .ok expr ↔ ∃ toks root, Spells 0 src toks ∧
      Derives (.chain .or) (maxWhenDepth + 1) toks [root] [] ∧
      expr = ⟨src, root.refs, root⟩ := by
  constructor
  · intro hok
    simp only [parseWhen, bind_eq_ok, Prod.exists] at hok
    obtain ⟨root, last, hroot, hok⟩ := hok
    cases herr : last.err with
    | some =>
      rw [herr] at hok
      cases hok
    | none =>
      rw [herr] at hok
      simp only [guard_eq_ok, not_not, Except.ok.injEq] at hok
      obtain ⟨heof, rfl⟩ := hok
      obtain ⟨hrefs, htook⟩ := @parsePhrase_took (.chain .or) (maxWhenDepth + 1) _ _ _ hroot
      obtain ⟨toks, htoks, hderives⟩ := htook [] ⟨heof, herr⟩
      refine ⟨toks, root, start_holds_iff.mp htoks, hderives, ?_⟩
      rw [hrefs, refsAll_singleton]
      rfl
  · rintro ⟨toks, root, hspells, hderives, rfl⟩
    obtain ⟨last, ⟨node, hnode, hok⟩, hlast, hrefs⟩ :=
      parsePhrase_finds hderives (start_holds_iff.mpr hspells) (by simp [Stops])
    obtain rfl := (List.cons.inj hnode).1
    rw [refsAll_singleton] at hrefs
    change parseExpr _ _ = _ at hok
    simp only [parseWhen, hok]
    dsimp only [bind, Except.bind]
    rw [hlast.2]
    rw [if_neg (not_not.mpr hlast.1), hrefs]
    rfl

end Fluxrig.Sdl
