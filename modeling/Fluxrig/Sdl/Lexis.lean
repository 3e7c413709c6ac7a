import Fluxrig.Sdl.When

/-!
# The words of a condition

`Spells` says which tokens a text consists of, without the scanner: blanks may
stand between tokens, every token is spelt as its kind demands and none could go
on.  `next_holds_iff` proves that the scanner finds exactly these tokens, and no
error, in such a text and in no other.
-/

namespace Fluxrig.Sdl

open Fluxrig.Core Message

/-- How the tokens of a kind are spelt. -/
def Spelt : TokKind → Text → Prop
  | .eof, _ => False
  | .ident, text => text ≠ [] ∧ (∀ c ∈ text, isPathRune c = true) ∧ isAllDigits text = false
  | .number, text => text ≠ [] ∧ ∀ c ∈ text, isDigit c = true
  | .string, text => ∃ body : Text, 39 ∉ body ∧ text = 39 :: body ++ [39]
  | .op, text =>
      text ∈ [utf8 "==", utf8 "!=", utf8 "<", utf8 "<=", utf8 ">", utf8 ">="]
  | .and, text => text = utf8 "&&"
  | .or, text => text = utf8 "||"
  | .not, text => text = utf8 "!"
  | .lparen, text => text = utf8 "("
  | .rparen, text => text = utf8 ")"

/-- The text behind a token does not carry it on. -/
def EndsBefore : TokKind → Text → Text → Prop
  | .ident, _, more => ∀ c ∈ more.head?, isPathRune c = false
  | .number, _, more => ∀ c ∈ more.head?, isPathRune c = false
  | .op, text, more => text.length = 1 → more.head? ≠ some 61
  | .not, _, more => more.head? ≠ some 61
  | _, _, _ => True

/-- The text from offset `pos` on consists of these tokens and of blanks. -/
def Spells : ℕ → Text → List Token → Prop
  | _, text, [] => ∀ c ∈ text, isBlank c = true
  | pos, text, tok :: toks =>
      ∃ gap more, text = gap ++ (tok.text ++ more) ∧ (∀ c ∈ gap, isBlank c = true) ∧
        tok.pos = pos + gap.length ∧ Spelt tok.kind tok.text ∧
        EndsBefore tok.kind tok.text more ∧ Spells (tok.pos + tok.text.length) more toks

lemma takeWhile_span {Symbol : Type} {p : Symbol → Bool} {first rest : List Symbol}
    (hfirst : ∀ c ∈ first, p c = true) (hrest : ∀ c ∈ rest.head?, p c = false) :
    (first ++ rest).takeWhile p = first := by
  rw [List.takeWhile_append_of_pos hfirst]
  cases rest with
  | nil => simp
  | cons c => simp [hrest c rfl]

lemma dropWhile_span {Symbol : Type} {p : Symbol → Bool} {first rest : List Symbol}
    (hfirst : ∀ c ∈ first, p c = true) (hrest : ∀ c ∈ rest.head?, p c = false) :
    (first ++ rest).dropWhile p = rest := by
  rw [List.dropWhile_append_of_pos hfirst]
  cases rest with
  | nil => rfl
  | cons c => simp [hrest c rfl]

variable {c : UInt8} {text more : Text} {lexer : Lexer}

lemma isPathRune_of_isDigit (hdigit : isDigit c = true) : isPathRune c = true := by
  rw [isPathRune, hdigit, Bool.or_true]

lemma isAllDigits_iff : isAllDigits text = true ↔ text ≠ [] ∧ ∀ c ∈ text, isDigit c = true := by
  simp [isAllDigits, and_comm]

/-- A path rune opens no other token. -/
lemma scan_pathRune (hrune : isPathRune c = true) (more : Text) :
    scan (c :: more) = scanWord (c :: more) := by
  have hne : ∀ d : UInt8, isPathRune d = false → c ≠ d := by
    rintro d hd rfl
    nomatch hrune.symm.trans hd
  rw [scan, if_neg (hne 40 rfl), if_neg (hne 41 rfl), if_neg (hne 39 rfl),
    if_neg (not_or.mpr ⟨hne 38 rfl, hne 124 rfl⟩), if_neg (hne 33 rfl),
    if_neg (not_or.mpr ⟨hne 61 rfl, not_or.mpr ⟨hne 60 rfl, hne 62 rfl⟩⟩), if_pos hrune]

lemma scan_word {word : Text} (hne : word ≠ []) (hword : ∀ c ∈ word, isPathRune c = true)
    (hends : ∀ c ∈ more.head?, isPathRune c = false) :
    scan (word ++ more) = ⟨if isAllDigits word then .number else .ident, word, more, none⟩ := by
  cases word with
  | nil => exact absurd rfl hne
  | cons c =>
    rw [List.cons_append, scan_pathRune (hword c List.mem_cons_self), ← List.cons_append, scanWord,
      takeWhile_span hword hends, dropWhile_span hword hends]

lemma scanString_append {body : Text} (hbody : 39 ∉ body) (more : Text) :
    scanString (body ++ 39 :: more) = ⟨.string, 39 :: body ++ [39], more, none⟩ := by
  have hkept : ∀ c ∈ body, decide (c ≠ 39) = true := by
    intro c hc
    apply decide_eq_true
    rintro rfl
    exact hbody hc
  have hquote : ∀ c ∈ (39 :: more : Text).head?, decide (c ≠ 39) = false := by simp
  rw [scanString, takeWhile_span hkept hquote, dropWhile_span hkept hquote]

/-- The scanner finds a token that is spelt by the rules. -/
lemma scan_of_spelt {kind : TokKind} (hspelt : Spelt kind text)
    (hends : EndsBefore kind text more) : scan (text ++ more) = ⟨kind, text, more, none⟩ := by
  cases kind with
  | eof => exact absurd hspelt id
  | ident =>
    obtain ⟨hne, hword, hdigits⟩ := hspelt
    rw [scan_word hne hword hends, if_neg (by simp [hdigits])]
  | number =>
    obtain ⟨hne, hdigits⟩ := hspelt
    rw [scan_word hne (fun c hc => isPathRune_of_isDigit (hdigits c hc)) hends,
      if_pos (isAllDigits_iff.mpr ⟨hne, hdigits⟩)]
  | string =>
    obtain ⟨body, hbody, rfl⟩ := hspelt
    have hscan := scanString_append hbody more
    rw [show (39 :: body ++ [39]) ++ more = 39 :: (body ++ 39 :: more) by simp]
    exact hscan
  | op =>
    simp only [Spelt, List.mem_cons, List.not_mem_nil, or_false] at hspelt
    rcases hspelt with rfl | rfl | rfl | rfl | rfl | rfl
    · rfl
    · rfl
    · change scanCompare 60 more = _
      rw [scanCompare, if_neg (hends rfl)]
      rfl
    · rfl
    · change scanCompare 62 more = _
      rw [scanCompare, if_neg (hends rfl)]
      rfl
    · rfl
  | and | or | lparen | rparen =>
    subst hspelt
    rfl
  | not =>
    subst hspelt
    change scanBang more = _
    rw [scanBang, if_neg hends]
    rfl

/-- What the scanner returns: the end of the text, an error, or a token spelt by the
rules. -/
inductive Scanned (text : Text) : Scan → Prop where
  | ended : text = [] → Scanned text ⟨.eof, [], [], none⟩
  | failed (word rest : Text) (reason : Reason) : Scanned text ⟨.eof, word, rest, some reason⟩
  | token {kind : TokKind} {word rest : Text} (htext : text = word ++ rest)
      (hspelt : Spelt kind word) (hends : EndsBefore kind word rest) :
      Scanned text ⟨kind, word, rest, none⟩

lemma scanned_string (more : Text) : Scanned (39 :: more) (scanString more) := by
  rw [scanString]
  have hsplit := List.takeWhile_append_dropWhile (p := fun c : UInt8 => decide (c ≠ 39))
    (l := more)
  split
  · exact .failed _ _ _
  · rename_i c after hdrop
    have hquote : c = 39 := by
      have hhead := List.head?_dropWhile_not (fun c : UInt8 => decide (c ≠ 39)) more
      rw [hdrop] at hhead
      simpa using hhead
    rw [hdrop, hquote] at hsplit
    refine .token ?_ ⟨_, ?_, rfl⟩ trivial
    · conv_lhs => rw [← hsplit]
      simp
    · intro hmem
      simpa using List.mem_takeWhile_imp hmem

lemma head_tail (hhead : more.head? = some c) : more = c :: more.tail := by
  cases more with
  | nil => nomatch hhead
  | cons => rw [Option.some.inj hhead, List.tail_cons]

lemma scanned_pair (hc : c = 38 ∨ c = 124) (more : Text) :
    Scanned (c :: more) (scanPair c more) := by
  rw [scanPair]
  split
  · rename_i hhead
    have hmore := head_tail hhead
    refine .token (by rw [hmore]; rfl) ?_ ?_
    · rcases hc with rfl | rfl <;> rfl
    · rcases hc with rfl | rfl <;> trivial
  · exact .failed _ _ _

lemma scanned_bang (more : Text) : Scanned (33 :: more) (scanBang more) := by
  rw [scanBang]
  split
  · rename_i hhead
    refine .token (by rw [head_tail hhead]; rfl) (by rw [Spelt]; decide) ?_
    intro hlength
    exact absurd hlength (by decide)
  · rename_i hhead
    exact .token rfl rfl hhead

lemma scanned_compare (hc : c = 61 ∨ c = 60 ∨ c = 62) (more : Text) :
    Scanned (c :: more) (scanCompare c more) := by
  rw [scanCompare]
  split
  · rename_i hhead
    refine .token (by rw [head_tail hhead]; rfl) ?_ ?_
    · rw [Spelt]
      rcases hc with rfl | rfl | rfl <;> decide
    · intro hlength
      exact absurd hlength (by simp)
  · rename_i hhead
    split
    · exact .failed _ _ _
    · rename_i hne
      refine .token rfl ?_ fun _ => hhead
      rw [Spelt]
      rcases hc with rfl | rfl | rfl
      · exact absurd rfl hne
      · decide
      · decide

lemma scanned_word (hrune : isPathRune c = true) (more : Text) :
    Scanned (c :: more) (scanWord (c :: more)) := by
  have hword : ∀ d ∈ (c :: more).takeWhile isPathRune, isPathRune d = true :=
    fun d hd => List.mem_takeWhile_imp hd
  have hne : (c :: more).takeWhile isPathRune ≠ [] := by simp [hrune]
  have hends : ∀ d ∈ ((c :: more).dropWhile isPathRune).head?, isPathRune d = false := by
    intro d hd
    have hhead := List.head?_dropWhile_not isPathRune (c :: more)
    rw [Option.mem_def.mp hd] at hhead
    exact hhead
  refine .token List.takeWhile_append_dropWhile.symm ?_ ?_
  · cases hdigits : isAllDigits ((c :: more).takeWhile isPathRune) with
    | true => exact isAllDigits_iff.mp hdigits
    | false => exact ⟨hne, hword, hdigits⟩
  · cases isAllDigits ((c :: more).takeWhile isPathRune) with
    | true | false => exact hends

lemma scanned_scan (text : Text) : Scanned text (scan text) := by
  cases text with
  | nil => exact .ended rfl
  | cons c more =>
    rw [scan]
    split
    · rename_i hc
      subst hc
      exact .token rfl rfl trivial
    split
    · rename_i hc
      subst hc
      exact .token rfl rfl trivial
    split
    · rename_i hc
      subst hc
      exact scanned_string more
    split
    · rename_i hc
      exact scanned_pair hc more
    split
    · rename_i hc
      subst hc
      exact scanned_bang more
    split
    · rename_i hc
      exact scanned_compare hc more
    split
    · rename_i hc
      exact scanned_word hc more
    · exact .failed _ _ _

/-- The tokens the scanner has before it, the current one included, when it meets no
error. -/
def Lexer.Holds : Lexer → List Token → Prop
  | lexer, [] => lexer.tok.kind = .eof ∧ lexer.err = none
  | lexer, tok :: toks => lexer.tok = tok ∧ tok.kind ≠ .eof ∧ lexer.next.Holds toks

/-- No token begins with a blank. -/
lemma Spelt.head {kind : TokKind} (hspelt : Spelt kind text) :
    ∃ c more, text = c :: more ∧ isBlank c = false := by
  have hrune : ∀ c, isPathRune c = true → isBlank c = false := by
    intro c hrune
    by_contra hblank
    rw [Bool.not_eq_false, isBlank, Bool.or_eq_true, Bool.or_eq_true, decide_eq_true_iff,
      decide_eq_true_iff, decide_eq_true_iff] at hblank
    rcases hblank with (rfl | rfl) | rfl <;> exact absurd hrune (by decide)
  have hfirst : text ≠ [] → (∀ c ∈ text, isPathRune c = true) →
      ∃ c more, text = c :: more ∧ isBlank c = false := by
    intro hne hword
    cases text with
    | nil => exact absurd rfl hne
    | cons c more => exact ⟨c, more, rfl, hrune c (hword c List.mem_cons_self)⟩
  cases kind with
  | eof => exact absurd hspelt id
  | ident => exact hfirst hspelt.1 hspelt.2.1
  | number => exact hfirst hspelt.1 fun c hc => isPathRune_of_isDigit (hspelt.2 c hc)
  | string =>
    obtain ⟨body, -, rfl⟩ := hspelt
    exact ⟨39, body ++ [39], rfl, rfl⟩
  | op =>
    simp only [Spelt, List.mem_cons, List.not_mem_nil, or_false] at hspelt
    rcases hspelt with rfl | rfl | rfl | rfl | rfl | rfl <;> exact ⟨_, _, rfl, rfl⟩
  | and | or | not | lparen | rparen => exact ⟨_, _, hspelt, rfl⟩

/-- The scanner in front of a token that is spelt by the rules. -/
lemma next_of_spelt {gap : Text} {tok : Token}
    (hrest : lexer.rest = gap ++ (tok.text ++ more)) (hgap : ∀ c ∈ gap, isBlank c = true)
    (hpos : tok.pos = lexer.pos + gap.length) (hspelt : Spelt tok.kind tok.text)
    (hends : EndsBefore tok.kind tok.text more) :
    lexer.next = ⟨more, tok.pos + tok.text.length, tok, lexer.err⟩ := by
  have hblank : lexer.rest.dropWhile isBlank = tok.text ++ more := by
    rw [hrest]
    apply dropWhile_span hgap
    obtain ⟨c, word, htext, hc⟩ := hspelt.head
    rw [htext]
    intro d hd
    rw [← Option.some.inj hd]
    exact hc
  have hstart : lexer.pos + (lexer.rest.length - (tok.text ++ more).length) = tok.pos := by
    rw [hrest, List.length_append]
    omega
  have hsize : (tok.text ++ more).length - more.length = tok.text.length := by
    rw [List.length_append]
    omega
  rw [Lexer.next, hblank, hstart, scan_of_spelt hspelt hends, hsize, Option.map_none,
    Option.or_none]

/-- The scanner in front of an end, an error or a token. -/
lemma next_cases (lexer : Lexer) : (lexer.next.tok.kind = .eof ∧ lexer.next.err = lexer.err ∧
      ∀ c ∈ lexer.rest, isBlank c = true) ∨
    (lexer.next.tok.kind = .eof ∧ lexer.next.err ≠ none) ∨
    ∃ gap, lexer.rest = gap ++ (lexer.next.tok.text ++ lexer.next.rest) ∧
      (∀ c ∈ gap, isBlank c = true) ∧ lexer.next.tok.pos = lexer.pos + gap.length ∧
      Spelt lexer.next.tok.kind lexer.next.tok.text ∧
      EndsBefore lexer.next.tok.kind lexer.next.tok.text lexer.next.rest := by
  have hsplit := List.takeWhile_append_dropWhile (p := isBlank) (l := lexer.rest)
  have hgap : ∀ c ∈ lexer.rest.takeWhile isBlank, isBlank c = true :=
    fun c hc => List.mem_takeWhile_imp hc
  have hscan := scanned_scan (lexer.rest.dropWhile isBlank)
  rw [Lexer.next]
  dsimp only
  cases hfound : scan (lexer.rest.dropWhile isBlank) with
  | mk kind word rest problem =>
    rw [hfound] at hscan
    cases hscan with
    | ended hnil =>
      refine Or.inl ⟨rfl, Option.or_none, ?_⟩
      rw [hnil, List.append_nil] at hsplit
      rw [← hsplit]
      exact hgap
    | failed _ _ =>
      refine Or.inr (Or.inl ⟨rfl, ?_⟩)
      cases lexer.err with
      | none | some => exact nofun
    | token htext hspelt hends =>
      refine Or.inr (Or.inr ⟨lexer.rest.takeWhile isBlank, ?_, hgap, ?_, hspelt, hends⟩)
      · rw [← htext, hsplit]
      · have hlength := congrArg List.length hsplit
        rw [List.length_append] at hlength
        omega

lemma err_of_next (hnext : lexer.next.err = none) : lexer.err = none := by
  rw [Lexer.next] at hnext
  cases herr : lexer.err with
  | none => rfl
  | some =>
    rw [herr] at hnext
    nomatch hnext

/-- The scanner finds the tokens a text consists of, and only those. -/
lemma next_holds_iff {toks : List Token} :
    lexer.next.Holds toks ↔ lexer.err = none ∧ Spells lexer.pos lexer.rest toks := by
  induction toks generalizing lexer with
  | nil =>
    constructor
    · intro hholds
      refine ⟨err_of_next hholds.2, ?_⟩
      rcases next_cases lexer with hend | hfail | ⟨gap, -, -, -, hspelt, -⟩
      · exact hend.2.2
      · exact absurd hholds.2 hfail.2
      · rw [hholds.1] at hspelt
        exact absurd hspelt id
    · rintro ⟨herr, hblank⟩
      rw [Lexer.next, List.dropWhile_eq_nil_iff.mpr hblank]
      exact ⟨rfl, by simp [scan, herr]⟩
  | cons tok _ ih =>
    constructor
    · intro hholds
      obtain ⟨htok, hkind, hrest⟩ := hholds
      subst htok
      have hspells := (ih.mp hrest)
      refine ⟨err_of_next hspells.1, ?_⟩
      rcases next_cases lexer with hend | hfail | ⟨gap, hsplit, hgap, hpos, hspelt, hends⟩
      · exact absurd hend.1 hkind
      · exact absurd hfail.1 hkind
      · refine ⟨gap, lexer.next.rest, hsplit, hgap, hpos, hspelt, hends, ?_⟩
        have hpos : lexer.next.pos = lexer.next.tok.pos + lexer.next.tok.text.length :=
          congrArg Lexer.pos (next_of_spelt hsplit hgap hpos hspelt hends)
        rw [← hpos]
        exact hspells.2
    · rintro ⟨herr, gap, more, hsplit, hgap, hpos, hspelt, hends, hmore⟩
      have hnext := next_of_spelt hsplit hgap hpos hspelt hends
      have hkind : tok.kind ≠ .eof := by
        intro heof
        rw [heof] at hspelt
        exact hspelt
      refine ⟨by rw [hnext], hkind, ih.mpr ?_⟩
      rw [hnext]
      exact ⟨herr, hmore⟩

end Fluxrig.Sdl
