import Fluxrig.Message.FluxMsg

/-!
# Card numbers in a trace

`MaskPAN` looks at every window of 13 to 19 bytes of its input.  A window of digits that
starts with 2 to 6 and passes the Luhn check is taken for a card number, and its bytes
after the first six and before the last four become asterisks.  Windows overlap, and all
of them are windows of the input, whatever has been masked before.
-/

namespace Fluxrig.Logger

open Message

def minPANLen : ℕ := 13
def maxPANLen : ℕ := 19
def maskKeepFirst : ℕ := 6
def maskKeepLast : ℕ := 4
def firstPANDigit : UInt8 := 50
def lastFirstDigit : UInt8 := 54

/-- The byte `'*'`. -/
def asterisk : UInt8 := 42

def allDigits (b : Text) : Bool := b.all fun c => 48 ≤ c ∧ c ≤ 57

/-- One turn of the loop of `luhnValid`, which starts at the last digit: the sum so far and
whether the digit is doubled. -/
def luhnTurn (c : UInt8) (state : ℕ × Bool) : ℕ × Bool :=
  let d := (c - 48).toNat
  let doubled := if 9 < d * 2 then d * 2 - 9 else d * 2
  (state.1 + (if state.2 then doubled else d), !state.2)

def luhnValid (digits : Text) : Bool := (digits.foldr luhnTurn (0, false)).1 % 10 = 0

def window (b : Text) (i l : ℕ) : Text := (b.drop i).take l

/-- The body of the loop over `l`. -/
def maskWindow (b : Text) (i : ℕ) (out : Text) (l : ℕ) : Text :=
  if b.length < i + l then out
  else if !allDigits (window b i l) || !luhnValid (window b i l) then out
  else
    (List.range' (i + maskKeepFirst) (l - maskKeepFirst - maskKeepLast)).foldl
      (fun out k => out.set k asterisk) out

/-- The body of the loop over `i`.  The lengths are tried from the longest down. -/
def maskFrom (b out : Text) (i : ℕ) : Text :=
  match b[i]? with
  | none => out
  | some c =>
      if c < firstPANDigit ∨ lastFirstDigit < c then out
      else (List.range' minPANLen (maxPANLen + 1 - minPANLen)).reverse.foldl (maskWindow b i) out

def maskPAN (b : Text) : Text := (List.range b.length).foldl (maskFrom b) b

/-- The `l` bytes at `i` are a card number. -/
structure CardNumber (b : Text) (i l : ℕ) : Prop where
  least : minPANLen ≤ l
  most : l ≤ maxPANLen
  fits : i + l ≤ b.length
  first : ∃ c, b[i]? = some c ∧ firstPANDigit ≤ c ∧ c ≤ lastFirstDigit
  digits : allDigits (window b i l) = true
  luhn : luhnValid (window b i l) = true

/-- A place in the middle of a card number. -/
def Hidden (b : Text) (k : ℕ) : Prop :=
  ∃ i l, CardNumber b i l ∧ i + maskKeepFirst ≤ k ∧ k + maskKeepLast < i + l

/-- `after` is `out` with asterisks at some places. -/
structure Marks (places : ℕ → Prop) (out after : Text) : Prop where
  length_eq : after.length = out.length
  hit : ∀ k < out.length, places k → after[k]? = some asterisk
  miss : ∀ k, ¬ places k → after[k]? = out[k]?

section

variable {b out mid after : Text} {places others : ℕ → Prop} {i l k : ℕ}

lemma marks_nothing (hnone : ∀ k, ¬ places k) : Marks places out out :=
  ⟨rfl, fun k _ hplace => absurd hplace (hnone k), fun _ _ => rfl⟩

lemma Marks.congr (hmarks : Marks places out after) (hiff : ∀ k, places k ↔ others k) :
    Marks others out after := by
  have heq : places = others := by
    funext k
    exact propext (hiff k)
  rwa [heq] at hmarks

/-- Marks of two steps add up. -/
lemma Marks.trans (hfirst : Marks places out mid) (hsecond : Marks others mid after) :
    Marks (fun k => places k ∨ others k) out after where
  length_eq := hsecond.length_eq.trans hfirst.length_eq
  hit k hk hplace := by
    by_cases hother : others k
    · exact hsecond.hit k (hfirst.length_eq ▸ hk) hother
    · rw [hsecond.miss k hother]
      exact hfirst.hit k hk (hplace.resolve_right hother)
  miss k hplace := by
    rw [not_or] at hplace
    rw [hsecond.miss k hplace.2, hfirst.miss k hplace.1]

/-- A loop marks what its turns mark. -/
lemma marks_foldl {Item : Type*} {turn : Text → Item → Text} {marked : Item → ℕ → Prop}
    (items : List Item) (hturn : ∀ item ∈ items, ∀ out, Marks (marked item) out (turn out item))
    (out : Text) : Marks (fun k => ∃ item ∈ items, marked item k) out (items.foldl turn out) := by
  induction items generalizing out with
  | nil => exact marks_nothing fun k hmem => absurd hmem (by simp)
  | cons item _ ih =>
    have hhead := hturn item List.mem_cons_self out
    have htail := ih (fun other hother => hturn other (List.mem_cons_of_mem item hother))
      (turn out item)
    apply (hhead.trans htail).congr
    intro k
    simp only [List.mem_cons, exists_eq_or_imp]

lemma marks_set : Marks (· = i) out (out.set i asterisk) where
  length_eq := List.length_set
  hit k hk hplace := by rw [hplace, List.getElem?_set_self (hplace ▸ hk)]
  miss k hplace := List.getElem?_set_ne (Ne.symm hplace)

lemma marks_maskWindow (hfirst : ∃ c, b[i]? = some c ∧ firstPANDigit ≤ c ∧ c ≤ lastFirstDigit)
    (hlength : minPANLen ≤ l ∧ l ≤ maxPANLen) (out : Text) :
    Marks (fun k => CardNumber b i l ∧ i + maskKeepFirst ≤ k ∧ k + maskKeepLast < i + l) out
      (maskWindow b i out l) := by
  rw [maskWindow]
  by_cases hfits : b.length < i + l
  · rw [if_pos hfits]
    exact marks_nothing fun k hplace => absurd hplace.1.fits (not_le.mpr hfits)
  rw [if_neg hfits]
  cases hskip : !allDigits (window b i l) || !luhnValid (window b i l) with
  | true =>
    apply marks_nothing
    intro k hplace
    rw [hplace.1.digits, hplace.1.luhn] at hskip
    exact Bool.false_ne_true hskip
  | false =>
    have hcard : CardNumber b i l := by
      simp only [Bool.or_eq_false_iff, Bool.not_eq_false'] at hskip
      exact ⟨hlength.1, hlength.2, not_lt.mp hfits, hfirst, hskip.1, hskip.2⟩
    apply (marks_foldl _ (fun k _ out => @marks_set out k) out).congr
    intro k
    simp only [List.mem_range'_1, exists_eq_right', hcard, true_and]
    omega

lemma marks_maskFrom (out : Text) :
    Marks (fun k => ∃ l, CardNumber b i l ∧ i + maskKeepFirst ≤ k ∧ k + maskKeepLast < i + l) out
      (maskFrom b out i) := by
  simp only [maskFrom]
  cases hbyte : b[i]? with
  | none =>
    apply marks_nothing
    intro k ⟨l, hcard, _⟩
    obtain ⟨c, hc, _⟩ := hcard.first
    nomatch hbyte.symm.trans hc
  | some c =>
    simp only []
    by_cases hdigit : c < firstPANDigit ∨ lastFirstDigit < c
    · rw [if_pos hdigit]
      apply marks_nothing
      intro k ⟨l, hcard, _⟩
      obtain ⟨same, hsame, hlow, hhigh⟩ := hcard.first
      rw [hbyte, Option.some.injEq] at hsame
      rw [hsame] at hdigit
      exact hdigit.elim (UInt8.not_lt.mpr hlow) (UInt8.not_lt.mpr hhigh)
    · rw [if_neg hdigit]
      rw [not_or, UInt8.not_lt, UInt8.not_lt] at hdigit
      have hlengths : ∀ l, l ∈ (List.range' minPANLen (maxPANLen + 1 - minPANLen)).reverse ↔
          minPANLen ≤ l ∧ l ≤ maxPANLen := by
        intro l
        simp only [List.mem_reverse, List.mem_range'_1, minPANLen, maxPANLen]
        omega
      apply (marks_foldl _ (fun l hl out =>
        marks_maskWindow ⟨c, hbyte, hdigit⟩ ((hlengths l).mp hl) out) out).congr
      intro k
      constructor
      · intro ⟨l, _, hplace⟩
        exact ⟨l, hplace⟩
      · intro ⟨l, hplace⟩
        exact ⟨l, (hlengths l).mpr ⟨hplace.1.least, hplace.1.most⟩, hplace⟩

/-- `MaskPAN` writes asterisks into the middle of the card numbers of its input. -/
lemma marks_maskPAN (b : Text) : Marks (Hidden b) b (maskPAN b) := by
  apply (marks_foldl _ (fun i _ out => @marks_maskFrom b i out) b).congr
  intro k
  constructor
  · intro ⟨i, _, l, hplace⟩
    exact ⟨i, l, hplace⟩
  · intro ⟨i, l, hplace⟩
    have hfits := hplace.1.fits
    have hleast := hplace.1.least
    exact ⟨i, List.mem_range.mpr (by omega), l, hplace⟩

lemma getElem?_window (hk : i ≤ k ∧ k < i + l) : (window b i l)[k - i]? = b[k]? := by
  rw [window, List.getElem?_take_of_lt (by omega), List.getElem?_drop, Nat.add_sub_cancel' hk.1]

/-- No place of a card number holds an asterisk. -/
lemma CardNumber.ne_asterisk (hcard : CardNumber b i l) (hk : i ≤ k ∧ k < i + l) :
    b[k]? ≠ some asterisk := by
  intro hbyte
  rw [← getElem?_window hk] at hbyte
  have hdigit := List.all_eq_true.mp hcard.digits asterisk (List.mem_of_getElem? hbyte)
  exact absurd hdigit (by decide)

/-- A card number that is left after the marks was there before, unmarked. -/
lemma CardNumber.of_marks (hmarks : Marks places b after) (hcard : CardNumber after i l) :
    CardNumber b i l ∧ ∀ k, i ≤ k ∧ k < i + l → ¬ places k := by
  have hfits := hcard.fits
  have hplain : ∀ k, i ≤ k ∧ k < i + l → ¬ places k := by
    intro k hk hplace
    exact hcard.ne_asterisk hk (hmarks.hit k (hmarks.length_eq ▸ by omega) hplace)
  have hwindow : window after i l = window b i l := by
    apply List.ext_getElem?
    intro k
    simp only [window, List.getElem?_take, List.getElem?_drop]
    by_cases hk : k < l
    · rw [if_pos hk, if_pos hk, hmarks.miss _ (hplain _ (by omega))]
    · rw [if_neg hk, if_neg hk]
  obtain ⟨c, hc, hrange⟩ := hcard.first
  have hleast := hcard.least
  rw [minPANLen] at hleast
  rw [hmarks.miss i (hplain i (by omega))] at hc
  exact ⟨⟨hcard.least, hcard.most, hmarks.length_eq ▸ hfits, ⟨c, hc, hrange⟩,
    hwindow ▸ hcard.digits, hwindow ▸ hcard.luhn⟩, hplain⟩

lemma not_cardNumber_maskPAN : ¬ CardNumber (maskPAN b) i l := by
  intro hcard
  obtain ⟨hbefore, hplain⟩ := hcard.of_marks (marks_maskPAN b)
  have hleast := hbefore.least
  rw [minPANLen] at hleast
  apply hplain (i + maskKeepFirst)
  · rw [maskKeepFirst]
    omega
  · refine ⟨i, l, hbefore, le_rfl, ?_⟩
    rw [maskKeepFirst, maskKeepLast]
    omega

end

/-- No card number survives masking.  The result has the length of the input, differs from
it only by asterisks in the middle of the input's card numbers, and is masked already. -/
theorem maskPAN_hides (b : Text) :
    (maskPAN b).length = b.length ∧ (∀ i l, ¬ CardNumber (maskPAN b) i l) ∧
      (∀ k, (maskPAN b)[k]? ≠ b[k]? → Hidden b k ∧ (maskPAN b)[k]? = some asterisk) ∧
      maskPAN (maskPAN b) = maskPAN b := by
  have hmarks := marks_maskPAN b
  refine ⟨hmarks.length_eq, fun i l => not_cardNumber_maskPAN, fun k hdiffers => ?_, ?_⟩
  · have hhidden : Hidden b k := not_imp_comm.mp (hmarks.miss k) hdiffers
    obtain ⟨i, l, hcard, _, hend⟩ := id hhidden
    have hfits := hcard.fits
    exact ⟨hhidden, hmarks.hit k (by omega) hhidden⟩
  · apply List.ext_getElem?
    intro k
    apply (marks_maskPAN (maskPAN b)).miss
    intro ⟨i, l, hcard, _⟩
    exact not_cardNumber_maskPAN hcard

end Fluxrig.Logger
