import Fluxrig.Sdl.Lexis

/-!
# The grammar of conditions

`Derives` is the documented grammar over tokens, with the tree a phrase stands for
and a bound on the levels it goes down.  What the parser returns for some tokens
derives from them (`parsePhrase_took`).
-/

namespace Fluxrig.Sdl

open Fluxrig.Core Message

namespace Token

variable (tok : Token)

/-- The part of a path that should be a data element number. -/
def number : Text := (splitDots tok.text).headD []

def subs : List Text := (splitDots tok.text).tail

/-- `path = de [ "." sub { "." sub } ]`. -/
def IsPath : Prop :=
  tok.number ≠ [] ∧ (∀ c ∈ tok.number, isDigit c = true) ∧ [] ∉ tok.subs

/-- The reference the parser makes of a path. -/
def ref : FieldRef := ⟨elementNumber tok.number, tok.subs, tok.pos⟩

lemma splitDots_text : splitDots tok.text = tok.number :: tok.subs := by
  have hne : splitDots tok.text ≠ [] := List.splitOn_ne_nil 46 tok.text
  rw [number, subs]
  cases hparts : splitDots tok.text with
  | nil => exact absurd hparts hne
  | cons => rfl

end Token

lemma parsePath_ok_iff {tok : Token} {ref : FieldRef} :
    parsePath tok.text tok.pos = .ok ref ↔ tok.IsPath ∧ tok.ref = ref := by
  rw [parsePath, tok.splitDots_text]
  rw [guard_eq_ok, guard_eq_ok, guard_eq_ok, Except.ok.injEq, Token.IsPath, not_not,
    List.all_eq_true]
  tauto

mutual

/-- The places a tree reads, from left to right. -/
def Node.refs : Node → List FieldRef
  | .or alternatives => refsAll alternatives
  | .and conjuncts => refsAll conjuncts
  | .not inner => inner.refs
  | .cmp lhs _ rhs => lhs.refs ++ rhs.refs
  | .field ref _ => [ref]
  | .present ref => [ref]
  | .mti => []
  | .lit _ => []

def refsAll : List Node → List FieldRef
  | [] => []
  | node :: nodes => node.refs ++ refsAll nodes

end

lemma refsAll_singleton (node : Node) : refsAll [node] = node.refs := by
  rw [refsAll, refsAll, List.append_nil]

lemma refsAll_append (nodes others : List Node) :
    refsAll (nodes ++ others) = refsAll nodes ++ refsAll others := by
  induction nodes with
  | nil => rw [List.nil_append, refsAll, List.nil_append]
  | cons _ _ ih => rw [List.cons_append, refsAll, refsAll, ih, List.append_assoc]

/-- The two operators that join any number of phrases. -/
inductive Connective where
  | or
  | and

inductive Phrase where
  /-- Phrases joined by a connective: `or_expr` and `and_expr`. -/
  | chain (conn : Connective)
  /-- What follows the first of them. -/
  | more (conn : Connective)
  | negation
  | primary

namespace Connective

def kind : Connective → TokKind
  | .or => .or
  | .and => .and

def node : Connective → List Node → Node
  | .or => .or
  | .and => .and

/-- The phrases it joins. -/
def item : Connective → Phrase
  | .or => .chain .and
  | .and => .negation

end Connective

/-- `name "(" path ")"`. -/
inductive Call (name : Text) : List Token → FieldRef → List Token → Prop where
  | call {word opening path closing : Token} {rest : List Token}
      (hword : word.kind = .ident ∧ word.text = name) (hopening : opening.kind = .lparen)
      (hkind : path.kind = .ident ∨ path.kind = .number) (hpath : path.IsPath)
      (hclosing : closing.kind = .rparen) :
      Call name (word :: opening :: path :: closing :: rest) path.ref rest

def boolWord : Bool → Text
  | true => trueWord
  | false => falseWord

/-- A predicate or a boolean literal: what is a condition on its own. -/
inductive Condition : List Token → Node → List Token → Prop where
  | present {toks rest : List Token} {ref : FieldRef} (hcall : Call presentWord toks ref rest) :
      Condition toks (.present ref) rest
  | bool {tok : Token} {rest : List Token} {b : Bool}
      (hword : tok.kind = .ident ∧ tok.text = boolWord b) :
      Condition (tok :: rest) (.lit (boolValue b)) rest

inductive Operand : List Token → Node → List Token → Prop where
  | condition {toks rest : List Token} {node : Node} (hcondition : Condition toks node rest) :
      Operand toks node rest
  | field {toks rest : List Token} {ref : FieldRef} (hcall : Call fieldWord toks ref rest) :
      Operand toks (.field ref false) rest
  | mti {tok : Token} {rest : List Token} (hword : tok.kind = .ident ∧ tok.text = mtiWord) :
      Operand (tok :: rest) .mti rest
  | literal {tok : Token} {rest : List Token} (hkind : tok.kind = .string ∨ tok.kind = .number) :
      Operand (tok :: rest) (.lit (strValue (unquote tok.text))) rest

/-- `Derives phrase levels toks nodes rest`: the tokens up to `rest` are such a phrase
and stand for these nodes, going down at most `levels` levels.  The documented language
has no bound: it is what derives with some number of levels. -/
inductive Derives : Phrase → ℕ → List Token → List Node → List Token → Prop where
  | chain {conn : Connective} {levels : ℕ} {toks mid rest : List Token} {first : Node}
      {others : List Node} (hfirst : Derives conn.item levels toks [first] mid)
      (hothers : Derives (.more conn) levels mid others rest) :
      Derives (.chain conn) (levels + 1) toks [collapse conn.node (first :: others)] rest
  | done {conn : Connective} {levels : ℕ} {toks : List Token} :
      Derives (.more conn) levels toks [] toks
  | more {conn : Connective} {levels : ℕ} {tok : Token} {toks mid rest : List Token}
      {node : Node} {others : List Node} (hkind : tok.kind = conn.kind)
      (hitem : Derives conn.item levels toks [node] mid)
      (hothers : Derives (.more conn) levels mid others rest) :
      Derives (.more conn) levels (tok :: toks) (node :: others) rest
  | not {levels : ℕ} {tok : Token} {toks rest : List Token} {inner : Node}
      (hkind : tok.kind = .not) (hinner : Derives .negation levels toks [inner] rest) :
      Derives .negation (levels + 1) (tok :: toks) [.not inner] rest
  | plain {levels : ℕ} {toks rest : List Token} {node : Node}
      (hprimary : Derives .primary levels toks [node] rest) :
      Derives .negation (levels + 1) toks [node] rest
  | paren {levels : ℕ} {opening closing : Token} {toks rest : List Token} {node : Node}
      (hopening : opening.kind = .lparen)
      (hinner : Derives (.chain .or) levels toks [node] (closing :: rest))
      (hclosing : closing.kind = .rparen) :
      Derives .primary (levels + 1) (opening :: toks) [node] rest
  | condition {levels : ℕ} {toks rest : List Token} {node : Node}
      (hcondition : Condition toks node rest) : Derives .primary (levels + 1) toks [node] rest
  | comparison {levels : ℕ} {op : Token} {toks mid rest : List Token} {lhs rhs : Node}
      (hlhs : Operand toks lhs (op :: mid)) (hop : op.kind = .op)
      (hrhs : Operand mid rhs rest) :
      Derives .primary (levels + 1) toks [.cmp lhs op.text rhs] rest

/-- Parsing these nodes recorded their references, and took the tokens of a phrase. -/
def Took (phrase : List Token → List Token → Prop) (p : Parser) (nodes : List Node)
    (after : Parser) : Prop :=
  after.refs = p.refs ++ refsAll nodes ∧
    ∀ rest, after.Holds rest → ∃ toks, p.Holds toks ∧ phrase toks rest

variable {p after mid : Parser} {node : Node} {levels : ℕ}

lemma Took.mono {phrase other : List Token → List Token → Prop} {nodes : List Node}
    (htook : Took phrase p nodes after)
    (hphrase : ∀ toks rest, phrase toks rest → other toks rest) : Took other p nodes after := by
  refine ⟨htook.1, ?_⟩
  intro rest hrest
  obtain ⟨toks, htoks, htaken⟩ := htook.2 rest hrest
  exact ⟨toks, htoks, hphrase toks rest htaken⟩

/-- A token that is not the end, and the tokens behind it. -/
lemma holds_cons {toks : List Token} (hkind : p.tok.kind ≠ .eof)
    (hnext : p.next.Holds toks) : p.Holds (p.tok :: toks) :=
  ⟨rfl, hkind, hnext⟩

lemma parseCall_took {name : Text} (hword : p.tok.kind = .ident ∧ p.tok.text = name)
    (hok : parseCall name p = .ok (node, after)) :
    ∃ ref, node = (if name = presentWord then .present ref else .field ref false) ∧
      Took (fun toks rest => Call name toks ref rest) p [node] after := by
  simp only [parseCall, guard_eq_ok, not_not, not_and_or] at hok
  obtain ⟨hopening, hkind, hok⟩ := hok
  cases hpath : parsePath p.next.next.tok.text p.next.next.tok.pos with
  | error =>
    rw [hpath] at hok
    nomatch hok
  | ok ref =>
    rw [hpath] at hok
    simp only [guard_eq_ok, not_not, Except.ok.injEq, Prod.mk.injEq] at hok
    obtain ⟨hclosing, hnode, hafter⟩ := hok
    obtain ⟨hispath, href⟩ := parsePath_ok_iff.mp hpath
    refine ⟨ref, hnode.symm, ?_, ?_⟩
    · have hrefs : node.refs = [ref] := by
        rw [← hnode]
        split <;> rfl
      rw [← hafter, refsAll_singleton, hrefs]
      rfl
    · intro rest hrest
      rw [← hafter] at hrest
      have hclosed := holds_cons (by rw [hclosing]; exact nofun) hrest
      have heof : p.next.next.tok.kind ≠ .eof := by
        rcases hkind with hident | hnumber
        · rw [hident]
          exact nofun
        · rw [hnumber]
          exact nofun
      have hread : p.next.next.Holds (_ :: _) := holds_cons heof hclosed
      have hopened := holds_cons (by rw [hopening]; exact nofun) hread
      refine ⟨_, holds_cons (by rw [hword.1]; exact nofun) hopened, ?_⟩
      rw [← href]
      exact .call hword hopening hkind hispath hclosing

/-- One token is the whole phrase. -/
lemma took_token {phrase : List Token → List Token → Prop} (hkind : p.tok.kind ≠ .eof)
    (hrefs : node.refs = []) (hphrase : ∀ rest, phrase (p.tok :: rest) rest) :
    Took phrase p [node] p.next := by
  refine ⟨?_, ?_⟩
  · rw [refsAll_singleton, hrefs, List.append_nil]
    rfl
  · intro rest hrest
    exact ⟨p.tok :: rest, holds_cons hkind hrest, hphrase rest⟩

lemma parsePresent_took (hword : p.tok.kind = .ident ∧ p.tok.text = presentWord)
    (hok : parseCall presentWord p = .ok (node, after)) :
    Took (fun toks rest => Condition toks node rest) p [node] after := by
  obtain ⟨ref, hnode, htook⟩ := parseCall_took hword hok
  rw [hnode] at htook ⊢
  exact htook.mono fun toks rest hcall => .present hcall

lemma bool_took (hident : p.tok.kind = .ident)
    (hword : p.tok.text = trueWord ∨ p.tok.text = falseWord) :
    Took (fun toks rest => Condition toks (.lit (boolValue (p.tok.text = trueWord))) rest) p
      [.lit (boolValue (p.tok.text = trueWord))] p.next := by
  apply took_token (by rw [hident]; exact nofun) (by rw [Node.refs])
  intro rest
  rcases hword with htrue | hfalse
  · rw [htrue]
    exact .bool ⟨hident, htrue⟩
  · rw [hfalse]
    exact .bool ⟨hident, hfalse⟩

lemma parseOperand_took (hok : parseOperand p = .ok (node, after)) :
    Took (fun toks rest => Operand toks node rest) p [node] after := by
  have hliteral : p.tok.kind = .string ∨ p.tok.kind = .number →
      Took (fun toks rest => Operand toks (.lit (strValue (unquote p.tok.text))) rest) p
        [.lit (strValue (unquote p.tok.text))] p.next := by
    intro hkind
    refine took_token ?_ (by rw [Node.refs]) fun rest => .literal hkind
    rcases hkind with hstring | hnumber
    · rw [hstring]
      exact nofun
    · rw [hnumber]
      exact nofun
  cases hkind : p.tok.kind with
  | ident =>
    simp only [parseOperand, hkind] at hok
    split at hok
    · rename_i hword
      obtain ⟨ref, hnode, htook⟩ := parseCall_took ⟨hkind, hword⟩ hok
      rw [hnode] at htook ⊢
      exact htook.mono fun toks rest hcall => .field hcall
    split at hok
    · rename_i hword
      exact (parsePresent_took ⟨hkind, hword⟩ hok).mono fun toks rest => .condition
    split at hok
    · rename_i hword
      cases hok
      exact took_token (by rw [hkind]; exact nofun) (by rw [Node.refs])
        fun rest => .mti ⟨hkind, hword⟩
    split at hok
    · rename_i hword
      cases hok
      exact (bool_took hkind hword).mono fun toks rest => .condition
    · nomatch hok
  | string =>
    simp only [parseOperand, hkind] at hok
    cases hok
    exact hliteral (Or.inl hkind)
  | number =>
    simp only [parseOperand, hkind] at hok
    cases hok
    exact hliteral (Or.inr hkind)
  | eof | op | and | or | not | lparen | rparen =>
    simp only [parseOperand, hkind] at hok
    nomatch hok

/-- A left side, the operator that is the current token behind it, and a right side. -/
lemma parseRight_took {lhs : Node}
    (hlhs : Took (fun toks rest => Operand toks lhs rest) p [lhs] mid)
    (hop : mid.tok.kind = .op) (hok : parseRight lhs mid = .ok (node, after)) :
    Took (fun toks rest => Derives .primary (levels + 1) toks [node] rest) p [node] after := by
  simp only [parseRight, bind_eq_ok, Except.ok.injEq, Prod.mk.injEq, Prod.exists] at hok
  obtain ⟨rhs, last, hrhs, rfl, rfl⟩ := hok
  obtain ⟨hrefs, hright⟩ := parseOperand_took hrhs
  refine ⟨?_, ?_⟩
  · rw [hrefs, refsAll_singleton, refsAll_singleton, Node.refs]
    change mid.refs ++ rhs.refs = _
    rw [hlhs.1, refsAll_singleton, List.append_assoc]
  · intro rest hrest
    obtain ⟨behind, hbehind, hoperand⟩ := hright rest hrest
    obtain ⟨toks, htoks, hleft⟩ := hlhs.2 _ (holds_cons (by rw [hop]; exact nofun) hbehind)
    exact ⟨toks, htoks, .comparison hleft hop hoperand⟩

lemma parseMaybeRight_took {lhs : Node}
    (hlhs : Took (fun toks rest => Condition toks lhs rest) p [lhs] mid)
    (hok : parseMaybeRight lhs mid = .ok (node, after)) :
    Took (fun toks rest => Derives .primary (levels + 1) toks [node] rest) p [node] after := by
  rw [parseMaybeRight] at hok
  split at hok
  · cases hok
    exact hlhs.mono fun toks rest => .condition
  · rename_i hop
    exact parseRight_took (hlhs.mono fun toks rest => .condition) (not_not.mp hop) hok

lemma parseAtom_took (hok : parseAtom p = .ok (node, after)) :
    Took (fun toks rest => Derives .primary (levels + 1) toks [node] rest) p [node] after := by
  rw [parseAtom] at hok
  split at hok
  · rename_i hword
    obtain ⟨⟨lhs, mid⟩, hcall, hright⟩ := bind_eq_ok.mp hok
    exact parseMaybeRight_took (parsePresent_took hword hcall) hright
  split at hok
  · rename_i hword
    exact parseMaybeRight_took (bool_took hword.1 hword.2) hok
  · obtain ⟨⟨lhs, mid⟩, hleft, hright⟩ := bind_eq_ok.mp hok
    rw [guard_eq_ok, not_not] at hright
    exact parseRight_took (parseOperand_took hleft) hright.1 hright.2

lemma Took.append {first second whole : List Token → List Token → Prop}
    {nodes others : List Node} (hfirst : Took first p nodes mid)
    (hsecond : Took second mid others after)
    (hwhole : ∀ toks between rest, first toks between → second between rest →
      whole toks rest) : Took whole p (nodes ++ others) after := by
  refine ⟨by rw [hsecond.1, hfirst.1, refsAll_append, List.append_assoc], ?_⟩
  intro rest hrest
  obtain ⟨between, hbetween, hlast⟩ := hsecond.2 rest hrest
  obtain ⟨toks, htoks, hstart⟩ := hfirst.2 between hbetween
  exact ⟨toks, htoks, hwhole toks between rest hstart hlast⟩

/-- A token in front of a phrase. -/
lemma Took.cons {phrase whole : List Token → List Token → Prop} {p after : Parser}
    {nodes : List Node} (hkind : p.tok.kind ≠ .eof) (htook : Took phrase p.next nodes after)
    (hwhole : ∀ toks rest, phrase toks rest → whole (p.tok :: toks) rest) :
    Took whole p nodes after := by
  refine ⟨htook.1, ?_⟩
  intro rest hrest
  obtain ⟨toks, htoks, hphrase⟩ := htook.2 rest hrest
  exact ⟨p.tok :: toks, holds_cons hkind htoks, hwhole toks rest hphrase⟩

lemma refs_collapse (conn : Connective) (nodes : List Node) :
    (collapse conn.node nodes).refs = refsAll nodes := by
  rcases nodes with - | ⟨node, - | ⟨other, nodes⟩⟩
  · cases conn <;> rfl
  · exact (refsAll_singleton node).symm
  · cases conn <;> rfl

section

variable {conn : Connective} {levels : ℕ}
  {item : Parser → Except WhenErr (Node × Parser)}
  (hitem : ∀ {p after : Parser} {node : Node}, item p = .ok (node, after) →
    Took (fun toks rest => Derives conn.item levels toks [node] rest) p [node] after)

include hitem

lemma parseMore_took {bound : ℕ} {items all : List Node} {p after : Parser}
    (hok : parseMore conn.kind item bound items p = .ok (all, after)) :
    ∃ others, all = items ++ others ∧
      Took (fun toks rest => Derives (.more conn) levels toks others rest) p others after := by
  have hstop : ∀ q : Parser,
      Took (fun toks rest => Derives (.more conn) levels toks [] rest) q [] q :=
    fun q => ⟨by rw [refsAll, List.append_nil], fun rest hrest => ⟨rest, hrest, .done⟩⟩
  induction bound generalizing items p with
  | zero =>
    cases hok
    exact ⟨[], (List.append_nil _).symm, hstop _⟩
  | succ bound ih =>
    rw [parseMore] at hok
    split at hok
    · rename_i hkind
      obtain ⟨⟨node, mid⟩, hnode, hmore⟩ := bind_eq_ok.mp hok
      obtain ⟨others, rfl, hothers⟩ := ih hmore
      refine ⟨node :: others, by rw [List.append_assoc, List.singleton_append], ?_⟩
      have heof : p.tok.kind ≠ .eof := by
        rw [hkind]
        cases conn <;> exact nofun
      have hchain : Took (fun toks rest => ∃ between,
          Derives conn.item levels toks [node] between ∧
            Derives (.more conn) levels between others rest) p.next (node :: others)
          after :=
        (hitem hnode).append hothers fun toks between rest hfirst hsecond =>
          ⟨between, hfirst, hsecond⟩
      apply hchain.cons heof
      rintro toks rest ⟨between, hfirst, hsecond⟩
      exact .more hkind hfirst hsecond
    · cases hok
      exact ⟨[], (List.append_nil _).symm, hstop _⟩

lemma parseChain_took {p after : Parser} {node : Node}
    (hok : parseChain conn.kind conn.node item p = .ok (node, after)) :
    Took (fun toks rest => Derives (.chain conn) (levels + 1) toks [node] rest) p [node]
      after := by
  simp only [parseChain, bind_eq_ok, Except.ok.injEq, Prod.mk.injEq, Prod.exists] at hok
  obtain ⟨first, mid, hfirst, items, last, hmore, rfl, rfl⟩ := hok
  obtain ⟨others, rfl, hothers⟩ := parseMore_took hitem hmore
  have hall := (hitem hfirst).append hothers fun toks between rest hstart hrest =>
    (Derives.chain hstart hrest : Derives (.chain conn) (levels + 1) toks _ rest)
  refine ⟨?_, hall.2⟩
  rw [hall.1, refsAll_singleton, refs_collapse]

end

/-- The parsing function of a phrase. -/
def parsePhrase : Phrase → ℕ → Parser → Except WhenErr (Node × Parser)
  | .chain .or => parseExpr
  | .chain .and => parseAnd
  | .negation => parseNot
  | .primary => parsePrimary
  -- `parseMore` returns a list, and is treated on its own.
  | .more _ => fun _ => tooDeep

/-- What the parser accepts derives from the grammar. -/
lemma parsePhrase_took {phrase : Phrase} {levels : ℕ} {p after : Parser} {node : Node}
    (hok : parsePhrase phrase levels p = .ok (node, after)) :
    Took (fun toks rest => Derives phrase levels toks [node] rest) p [node] after := by
  induction levels generalizing phrase p node after with
  | zero =>
    have hdeep : parsePhrase phrase 0 p = tooDeep p := by
      rcases phrase with (_ | _) | (_ | _) | _ | _ <;> rfl
    rw [hdeep] at hok
    nomatch hok
  | succ levels ih =>
    cases phrase with
    | chain conn =>
      cases conn with
      | or =>
        exact @parseChain_took .or levels (parseAnd levels) (@ih (.chain .and)) _ _ _ hok
      | and =>
        exact @parseChain_took .and levels (parseNot levels) (@ih .negation) _ _ _ hok
    | more => nomatch hok
    | negation =>
      change parseNot (levels + 1) p = _ at hok
      rw [parseNot] at hok
      split at hok
      · rename_i hkind
        simp only [bind_eq_ok, Except.ok.injEq, Prod.mk.injEq, Prod.exists] at hok
        obtain ⟨inner, last, hinner, rfl, rfl⟩ := hok
        have htook := @ih .negation _ _ _ hinner
        refine Took.cons (by rw [hkind]; exact nofun) ⟨?_, htook.2⟩ fun toks rest => .not hkind
        rw [htook.1, refsAll_singleton, refsAll_singleton, Node.refs]
      · exact (@ih .primary _ _ _ hok).mono fun toks rest => .plain
    | primary =>
      change parsePrimary (levels + 1) p = _ at hok
      rw [parsePrimary] at hok
      split at hok
      · rename_i hkind
        simp only [bind_eq_ok, guard_eq_ok, not_not, Except.ok.injEq, Prod.mk.injEq,
          Prod.exists] at hok
        obtain ⟨inner, last, hinner, hclosing, rfl, rfl⟩ := hok
        have htook := @ih (.chain .or) _ _ _ hinner
        have hclosed : Took (fun toks rest => ∃ closing : Token, closing.kind = .rparen ∧
            Derives (.chain .or) levels toks [inner] (closing :: rest)) p.next [inner]
            last.next := by
          refine ⟨htook.1, ?_⟩
          intro rest hrest
          obtain ⟨toks, htoks, hderives⟩ :=
            htook.2 _ (holds_cons (by rw [hclosing]; exact nofun) hrest)
          exact ⟨toks, htoks, last.tok, hclosing, hderives⟩
        apply hclosed.cons (by rw [hkind]; exact nofun)
        rintro toks rest ⟨closing, hrparen, hderives⟩
        exact .paren hkind hderives hrparen
      · exact parseAtom_took hok

end Fluxrig.Sdl
