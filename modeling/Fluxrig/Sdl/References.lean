import Fluxrig.Sdl.Exactness
import Fluxrig.Sdl.Printing

/-!
# What the parser reports

Parsing gives a printed tree back, accepts nothing outside the grammar, and reports
the paths of the text in order.  The numbers of these paths are added up in an
`int`, so they are the ones written as long as they fit (`parser_exact_iff`).
-/

namespace Fluxrig.Sdl

open Fluxrig.Core Message

/-- The tokens that stand as the argument of a call, wherever one is written. -/
def pathTokens : List Token → List Token
  | word :: opening :: path :: rest =>
      if word.kind = .ident ∧ (word.text = fieldWord ∨ word.text = presentWord) ∧
          opening.kind = .lparen then
        path :: pathTokens rest
      else pathTokens (opening :: path :: rest)
  | _ => []

/-- The reference a path token writes, with its number as it stands. -/
def Token.written (tok : Token) : FieldRef :=
  ⟨numeral 10 digitOf tok.number, tok.subs, tok.pos⟩

variable {rest : List Token}

lemma pathTokens_cons {word : Token}
    (hword : word.kind = .ident → word.text ≠ fieldWord ∧ word.text ≠ presentWord) :
    pathTokens (word :: rest) = pathTokens rest := by
  have hcall : ∀ opening : Token, ¬ (word.kind = .ident ∧
      (word.text = fieldWord ∨ word.text = presentWord) ∧ opening.kind = .lparen) := by
    rintro opening ⟨hident, hfield | hpresent, -⟩
    · exact (hword hident).1 hfield
    · exact (hword hident).2 hpresent
  rcases rest with - | ⟨opening, - | ⟨path, rest⟩⟩
  · rfl
  · rfl
  · rw [pathTokens, if_neg (hcall opening)]

lemma pathTokens_other {tok : Token} (hkind : tok.kind ≠ .ident) :
    pathTokens (tok :: rest) = pathTokens rest :=
  pathTokens_cons fun hident => absurd hident hkind

variable {toks : List Token}

lemma Call.pathTokens_eq {name : Text} {ref : FieldRef}
    (hcall : Call name toks ref rest) (hname : name = fieldWord ∨ name = presentWord) :
    (pathTokens toks).map Token.ref = ref :: (pathTokens rest).map Token.ref := by
  cases hcall with
  | call hword hopening _ _ hclosing =>
    rw [← hword.2] at hname
    rw [pathTokens, if_pos ⟨hword.1, hname, hopening⟩, List.map_cons,
      pathTokens_other (by rw [hclosing]; exact nofun)]

lemma Condition.pathTokens_eq {node : Node} (hcondition : Condition toks node rest) :
    (pathTokens toks).map Token.ref = node.refs ++ (pathTokens rest).map Token.ref := by
  cases hcondition with
  | present hcall => exact hcall.pathTokens_eq (Or.inr rfl)
  | bool hword =>
    rename_i tok b
    have hplain : tok.text ≠ fieldWord ∧ tok.text ≠ presentWord := by
      rw [hword.2]
      cases b <;> decide
    rw [pathTokens_cons fun _ => hplain, Node.refs, List.nil_append]

lemma Operand.pathTokens_eq {node : Node} (hoperand : Operand toks node rest) :
    (pathTokens toks).map Token.ref = node.refs ++ (pathTokens rest).map Token.ref := by
  cases hoperand with
  | condition hcondition => exact hcondition.pathTokens_eq
  | field hcall => exact hcall.pathTokens_eq (Or.inl rfl)
  | mti hword =>
    rename_i tok
    have hplain : tok.text ≠ fieldWord ∧ tok.text ≠ presentWord := by
      rw [hword.2]
      decide
    rw [pathTokens_cons fun _ => hplain, Node.refs, List.nil_append]
  | literal hkind =>
    rename_i tok
    have hother : tok.kind ≠ .ident := by
      rcases hkind with hstring | hnumber
      · rw [hstring]
        decide
      · rw [hnumber]
        decide
    rw [pathTokens_other hother, Node.refs, List.nil_append]

/-- A tree reads the paths its tokens write, from left to right. -/
lemma Derives.pathTokens_eq {phrase : Phrase} {levels : ℕ}
    {nodes : List Node} (hderives : Derives phrase levels toks nodes rest) :
    (pathTokens toks).map Token.ref = refsAll nodes ++ (pathTokens rest).map Token.ref := by
  induction hderives with
  | chain _ _ ihfirst ihothers =>
    rw [ihfirst, ihothers, ← List.append_assoc, ← refsAll_append, refsAll_singleton,
      refs_collapse]
    rfl
  | done => rw [refsAll, List.nil_append]
  | @more conn _ _ _ _ _ _ _ hkind _ _ ihitem ihothers =>
    have hother : conn.kind ≠ .ident := by cases conn <;> decide
    rw [pathTokens_other (by rw [hkind]; exact hother), ihitem, ihothers,
      ← List.append_assoc, ← refsAll_append]
    rfl
  | not hkind _ ih =>
    rw [pathTokens_other (by rw [hkind]; decide), ih, refsAll_singleton,
      refsAll_singleton, Node.refs]
  | plain _ ih => exact ih
  | paren hopening _ hclosing ih =>
    rw [pathTokens_other (by rw [hopening]; decide), ih,
      pathTokens_other (by rw [hclosing]; decide)]
  | condition hcondition => rw [refsAll_singleton, hcondition.pathTokens_eq]
  | comparison hlhs hop hrhs =>
    rw [hlhs.pathTokens_eq, pathTokens_other (by rw [hop]; decide), hrhs.pathTokens_eq,
      refsAll_singleton, Node.refs, List.append_assoc]

lemma ref_eq_written_iff (tok : Token) :
    tok.ref = tok.written ↔ numeral 10 digitOf tok.number < 2 ^ 63 := by
  rw [← elementNumber_eq_iff, Token.written, FieldRef.mk.injEq]
  exact and_iff_left ⟨rfl, rfl⟩

/-- The parser gives every tree back from its printed text.  What it accepts derives from
the documented grammar, all of it, without a lexical error, and the references it reports
are those the text writes exactly when every element number written fits an `int`. -/
theorem parser_exact_iff (tree : Tree) (src : Text) (expr : WhenExpr) :
    (tree.depth ≤ maxWhenDepth →
      ∃ parsed, parseWhen tree.print = .ok parsed ∧ parsed.root.unplaced = tree.node) ∧
    (parseWhen src = .ok expr → ∃ toks, Spells 0 src toks ∧
      (∃ levels, Derives (.chain .or) levels toks [expr.root] []) ∧
      (expr.refs = (pathTokens toks).map Token.written ↔
        ∀ tok ∈ pathTokens toks, numeral 10 digitOf tok.number < 2 ^ 63)) := by
  constructor
  · intro hdepth
    have htop := spoken_within (Nat.zero_le 3) tree.rank_le tree.spoken (maxWhenDepth + 1)
    rw [placed, within, if_pos (Nat.zero_le _), Nat.sub_zero] at htop
    rw [Tree.depth] at hdepth
    obtain ⟨toks, nodes, htoks, hderives, hnodes⟩ :=
      htop (by omega) 0 [] [] (by simp [Boundary]) (by simp [Spells])
    obtain ⟨root, rfl, hroot⟩ := unplacedAll_singleton hnodes
    rw [List.append_nil] at htoks
    exact ⟨⟨tree.print, root.refs, root⟩,
      parseWhen_iff.mpr ⟨toks, root, htoks, hderives, rfl⟩, hroot⟩
  · intro hok
    obtain ⟨toks, root, htoks, hderives, rfl⟩ := parseWhen_iff.mp hok
    have hrefs : (pathTokens toks).map Token.ref = root.refs ++ [] := by
      rw [← refsAll_singleton]
      exact hderives.pathTokens_eq
    rw [List.append_nil] at hrefs
    refine ⟨toks, htoks, ⟨_, hderives⟩, ?_⟩
    rw [← hrefs, List.map_inj_left]
    exact forall₂_congr fun tok _ => ref_eq_written_iff tok

/-- `field(4) == 100 && !(present(55.9F02) || mti != '0100')`. -/
def sampleTree : Tree :=
  .join .and
    (.compare (.field ⟨4, by decide, []⟩) .eq
      (.number ⟨utf8 "100", by decide +kernel, by decide +kernel⟩))
    (.not (.join .or
      (.present ⟨55, by decide,
        [⟨utf8 "9F02", by decide +kernel, by decide +kernel, by decide +kernel⟩]⟩)
      (.compare .mti .ne (.text ⟨utf8 "0100", by decide⟩)) []))
    []

theorem sampleTree_parses :
    sampleTree.print = utf8 "field(4) == 100 && !(present(55.9F02) || mti != '0100')" ∧
      ∃ expr, parseWhen sampleTree.print = .ok expr ∧ expr.root.unplaced = sampleTree.node ∧
        ∃ toks, Spells 0 sampleTree.print toks ∧
          (expr.refs = (pathTokens toks).map Token.written ↔
            ∀ tok ∈ pathTokens toks, numeral 10 digitOf tok.number < 2 ^ 63) := by
  have hdepth : sampleTree.depth ≤ maxWhenDepth := by decide
  obtain ⟨expr, hok, hroot⟩ := (parser_exact_iff sampleTree [] ⟨[], [], .mti⟩).1 hdepth
  obtain ⟨toks, htoks, -, hrefs⟩ := (parser_exact_iff sampleTree _ expr).2 hok
  exact ⟨by decide, expr, hok, hroot, toks, htoks, hrefs⟩

/-- A number beyond an `int` is reported as another data element. -/
theorem large_number_wraps :
    (parseWhen (utf8 "present(18446744073709551618)")).toOption.map WhenExpr.refs =
        some [⟨2, [], 8⟩] ∧
      numeral 10 digitOf (utf8 "18446744073709551618") = 18446744073709551618 := by
  decide +kernel

end Fluxrig.Sdl
