import Mathlib.Data.List.Basic
import Mathlib.Tactic

/-!
# Base-128 numbers of variable length

The unsigned variable-length numbers of Go's `encoding/binary`: seven bits a byte,
the lowest first, with the high bit set on every byte but the last.  `uvarint` reads
one from the front of a buffer and `putUvarint` writes one.

* `uvarint_reads`: a successful read looks at the bytes it counts and at no others.
* `spells_putUvarint`: what is written is read as the number it was written for.
-/

namespace Fluxrig.Core

/-- The loop of `binary.Uvarint` at byte `i`, with the bits read so far in `x`. -/
def uvarintFrom (i : ℕ) (x : UInt64) : List UInt8 → UInt64 × ℤ
  | [] => (0, 0)
  | b :: rest =>
      if i = 10 then (0, -(i + 1))
      else if b < 0x80 then
        if i = 9 ∧ 1 < b then (0, -(i + 1))
        else (x ||| b.toUInt64 <<< UInt64.ofNat (7 * i), i + 1)
      else uvarintFrom (i + 1) (x ||| (b &&& 0x7f).toUInt64 <<< UInt64.ofNat (7 * i)) rest

/-- `binary.Uvarint`: the number and how many bytes it takes.  The count is zero for
a buffer that ends too early and negative for a number of more than 64 bits. -/
def uvarint (buffer : List UInt8) : UInt64 × ℤ := uvarintFrom 0 0 buffer

/-- The bytes `binary.PutUvarint` writes for `x`.  Ten bytes hold any 64-bit number,
so that the recursion is on the bytes that may still follow. -/
def putUvarintFrom : ℕ → UInt64 → List UInt8
  | 0, x => [x.toUInt8]
  | more + 1, x =>
      if x < 0x80 then [x.toUInt8]
      else (x.toUInt8 ||| 0x80) :: putUvarintFrom more (x >>> 7)

def putUvarint (x : UInt64) : List UInt8 := putUvarintFrom 9 x

variable {i : ℕ} {value : UInt64} {buffer spelling : List UInt8} {count : ℤ}

lemma uvarintFrom_reads {x : UInt64} (hread : uvarintFrom i x buffer = (value, count))
    (hcount : 0 < count) :
    ∃ taken, 0 < taken ∧ taken ≤ buffer.length ∧ count = i + taken ∧
      ∀ more, uvarintFrom i x (buffer.take taken ++ more) = (value, count) := by
  induction buffer generalizing i x with
  | nil =>
    rw [uvarintFrom, Prod.mk.injEq] at hread
    omega
  | cons b rest ih =>
    rw [uvarintFrom] at hread
    split_ifs at hread with hlong hlast hover
    · rw [Prod.mk.injEq] at hread
      omega
    · rw [Prod.mk.injEq] at hread
      omega
    · rw [Prod.mk.injEq] at hread
      refine ⟨1, Nat.one_pos, by simp, by simpa using hread.2.symm, fun more => ?_⟩
      rw [List.take_succ_cons, List.take_zero, List.singleton_append, uvarintFrom, if_neg hlong,
        if_pos hlast, if_neg hover, hread.1, hread.2]
    · obtain ⟨taken, hpos, hle, hsum, hsame⟩ := ih hread
      refine ⟨taken + 1, Nat.succ_pos taken, by simpa using hle, by push_cast at hsum ⊢; omega,
        fun more => ?_⟩
      rw [List.take_succ_cons, List.cons_append, uvarintFrom, if_neg hlong, if_neg hlast,
        hsame more]

/-- A successful read counts at least one byte and no more than there are, and any
other buffer that starts with these bytes is read in the same way. -/
lemma uvarint_reads (hread : uvarint buffer = (value, count)) (hcount : 0 < count) :
    ∃ taken : ℕ, count = taken ∧ 0 < taken ∧ taken ≤ buffer.length ∧
      ∀ more, uvarint (buffer.take taken ++ more) = (value, count) := by
  obtain ⟨taken, hpos, hle, hsum, hsame⟩ := uvarintFrom_reads hread hcount
  exact ⟨taken, by simpa using hsum, hpos, hle, hsame⟩

/-- The bytes are one number and nothing else.  They need not be the shortest that
spell it. -/
structure Spells (spelling : List UInt8) (value : ℕ) : Prop where
  ne_nil : spelling ≠ []
  reads : ∃ word : UInt64, uvarint spelling = (word, (spelling.length : ℤ)) ∧ word.toNat = value

lemma Spells.length_pos {value : ℕ} (hspells : Spells spelling value) : 0 < spelling.length :=
  List.length_pos_of_ne_nil hspells.ne_nil

lemma Spells.lt {value : ℕ} (hspells : Spells spelling value) : value < 2 ^ 64 := by
  obtain ⟨word, _, hvalue⟩ := hspells.reads
  rw [← hvalue]
  exact word.toNat_lt

/-- A spelled number is read as that number, whatever follows it. -/
lemma Spells.uvarint_append {value : ℕ} (hspells : Spells spelling value) (after : List UInt8) :
    ∃ word : UInt64, uvarint (spelling ++ after) = (word, (spelling.length : ℤ)) ∧
      word.toNat = value := by
  obtain ⟨word, hread, hvalue⟩ := hspells.reads
  obtain ⟨taken, hcount, _, _, hsame⟩ :=
    uvarint_reads hread (by exact_mod_cast hspells.length_pos)
  have htaken : taken = spelling.length := by exact_mod_cast hcount.symm
  have hall := hsame after
  rw [htaken, List.take_length] at hall
  exact ⟨word, hall, hvalue⟩

/-- What a successful read has read. -/
lemma spells_of_uvarint {word : UInt64} (hread : uvarint buffer = (word, count))
    (hcount : 0 < count) :
    ∃ spelling after, buffer = spelling ++ after ∧ count = spelling.length ∧
      Spells spelling word.toNat := by
  obtain ⟨taken, htaken, hpos, hle, hsame⟩ := uvarint_reads hread hcount
  have hlength : (buffer.take taken).length = taken := List.length_take_of_le hle
  have hwhole := hsame []
  rw [List.append_nil] at hwhole
  refine ⟨buffer.take taken, buffer.drop taken, (List.take_append_drop taken buffer).symm,
    by rw [hlength, htaken], ?_, word, by rw [hwhole, hlength, htaken], rfl⟩
  exact List.ne_nil_of_length_pos (hlength.symm ▸ hpos)

section

private lemma getLsbD_seven (bit : ℕ) :
    (UInt64.toBitVec 0x7f).getLsbD bit = decide (bit < 7) := by
  have hones : UInt64.toBitVec 0x7f = BitVec.ofNat 64 (2 ^ 7 - 1) := rfl
  rw [hones, BitVec.getLsbD_ofNat, Nat.testBit_two_pow_sub_one, ← Bool.decide_and,
    decide_eq_decide]
  omega

private lemma getLsbD_shiftLeft (x : UInt64) {shift : ℕ} (hshift : shift < 64) (bit : ℕ) :
    (x <<< UInt64.ofNat shift).toBitVec.getLsbD bit =
      (decide (bit < 64) && !decide (bit < shift) && x.toBitVec.getLsbD (bit - shift)) := by
  have hamount : ((UInt64.ofNat shift).toBitVec % 64).toNat = shift := by
    simp
    omega
  rw [UInt64.toBitVec_shiftLeft, BitVec.shiftLeft_eq', hamount, BitVec.getLsbD_shiftLeft]

/-- The low seven bits of a number and the bits above them make up the number. -/
private lemma low_or_high (x : UInt64) {shift : ℕ} (hshift : shift + 7 < 64) :
    (x &&& 0x7f) <<< UInt64.ofNat shift ||| (x >>> 7) <<< UInt64.ofNat (shift + 7) =
      x <<< UInt64.ofNat shift := by
  apply UInt64.toBitVec_inj.mp
  apply BitVec.eq_of_getLsbD_eq
  intro bit hbit
  have hseven : (x >>> 7).toBitVec = x.toBitVec >>> 7 := rfl
  rw [UInt64.toBitVec_or, BitVec.getLsbD_or, getLsbD_shiftLeft _ (by omega),
    getLsbD_shiftLeft _ hshift, getLsbD_shiftLeft _ (by omega), UInt64.toBitVec_and,
      BitVec.getLsbD_and, getLsbD_seven, hseven]
  by_cases hlow : bit < shift + 7
  · grind
  · have hbits : 7 + (bit - (shift + 7)) = bit - shift := by omega
    grind

/-- The continuation bit is masked out again. -/
private lemma continued_byte (x : UInt64) :
    ((x.toUInt8 ||| 0x80) &&& 0x7f).toUInt64 = x &&& 0x7f := by
  have hlow : UInt8.toBitVec 0x7f = BitVec.ofNat 8 (2 ^ 7 - 1) := rfl
  have hhigh : UInt8.toBitVec 0x80 = BitVec.twoPow 8 7 := rfl
  apply UInt64.toBitVec_inj.mp
  apply BitVec.eq_of_getLsbD_eq
  intro bit hbit
  rw [UInt64.toBitVec_and, BitVec.getLsbD_and, getLsbD_seven, UInt8.toBitVec_toUInt64,
    UInt8.toBitVec_and, UInt8.toBitVec_or, hlow, hhigh, UInt64.toBitVec_toUInt8,
      BitVec.getLsbD_setWidth, BitVec.getLsbD_and, BitVec.getLsbD_or, BitVec.getLsbD_ofNat,
        Nat.testBit_two_pow_sub_one, BitVec.getLsbD_twoPow]
  grind

private lemma not_continued_lt (x : UInt64) : ¬ (x.toUInt8 ||| 0x80) < 0x80 := by
  rw [UInt8.lt_iff_toNat_lt, not_lt]
  exact Nat.right_le_or

private lemma toNat_toUInt8 {x : UInt64} (hsmall : x < 0x80) : x.toUInt8.toNat = x.toNat := by
  have hlt : x.toNat < 128 := hsmall
  rw [UInt64.toNat_toUInt8]
  omega

end

lemma putUvarintFrom_ne_nil (more : ℕ) (x : UInt64) : putUvarintFrom more x ≠ [] := by
  cases more with
  | zero => exact List.cons_ne_nil _ _
  | succ =>
    rw [putUvarintFrom]
    split_ifs
    · exact List.cons_ne_nil _ _
    · exact List.cons_ne_nil _ _

/-- The last byte of a number is read as it was written. -/
lemma uvarintFrom_last {x : UInt64} (hi : i ≤ 9) (hsmall : value < 0x80)
    (hfits : i = 9 → value.toNat < 2) (after : List UInt8) :
    uvarintFrom i x (value.toUInt8 :: after) =
      (x ||| value <<< UInt64.ofNat (7 * i), (i : ℤ) + 1) := by
  have hlow : value.toUInt8 < 0x80 := by
    rw [UInt8.lt_iff_toNat_lt, toNat_toUInt8 hsmall]
    exact hsmall
  have hfit : ¬ (i = 9 ∧ 1 < value.toUInt8) := by
    intro hover
    have hlt := UInt8.lt_iff_toNat_lt.mp hover.2
    rw [toNat_toUInt8 hsmall] at hlt
    have hone : (1 : UInt8).toNat = 1 := rfl
    omega
  have hback : value.toUInt8.toUInt64 = value := by
    apply UInt64.toNat_inj.mp
    rw [UInt8.toNat_toUInt64, toNat_toUInt8 hsmall]
  rw [uvarintFrom, if_neg (by omega), if_pos hlow, if_neg hfit, hback]

/-- From byte `i` on, a number of at most `more` further bytes is read as it was
written.  The bits left at byte `i` fit into the word: that bounds the number. -/
lemma uvarintFrom_putUvarintFrom (more : ℕ) (hi : i + more = 9) (x : UInt64)
    (hvalue : value.toNat < 2 ^ (7 * more + 1)) (after : List UInt8) :
    uvarintFrom i x (putUvarintFrom more value ++ after) =
      (x ||| value <<< UInt64.ofNat (7 * i), (i : ℤ) + (putUvarintFrom more value).length) := by
  induction more generalizing i x value with
  | zero =>
    have hlt : value.toNat < 2 := by simpa using hvalue
    have hsmall : value < 0x80 := UInt64.lt_iff_toNat_lt.mpr (by
      have : UInt64.toNat 0x80 = 128 := rfl
      omega)
    exact uvarintFrom_last (by omega) hsmall (fun _ => hlt) after
  | succ more ih =>
    rw [putUvarintFrom]
    by_cases hsmall : value < 0x80
    · rw [if_pos hsmall]
      exact uvarintFrom_last (by omega) hsmall (by omega) after
    · have hnext : (value >>> 7).toNat < 2 ^ (7 * more + 1) := by
        have hseven : (value >>> 7).toNat = value.toNat / 2 ^ 7 := by
          rw [UInt64.toNat_shiftRight, Nat.shiftRight_eq_div_pow]
          rfl
        rw [hseven, Nat.div_lt_iff_lt_mul (by norm_num), ← pow_add]
        exact lt_of_lt_of_eq hvalue (congrArg _ (by omega))
      rw [if_neg hsmall, List.cons_append, uvarintFrom, if_neg (by omega),
        if_neg (not_continued_lt value), ih (by omega) _ hnext, continued_byte,
        UInt64.or_assoc, Nat.mul_succ, low_or_high value (by omega), List.length_cons]
      push_cast
      ring_nf

/-- What is written spells the number. -/
lemma spells_putUvarint (value : UInt64) : Spells (putUvarint value) value.toNat := by
  have hvalue : value.toNat < 2 ^ (7 * 9 + 1) := value.toNat_lt
  have hread := uvarintFrom_putUvarintFrom 9 rfl 0 hvalue []
  have hzero : (0 : UInt64) ||| value <<< UInt64.ofNat (7 * 0) = value := by simp
  rw [List.append_nil, hzero, Nat.cast_zero, zero_add] at hread
  exact ⟨putUvarintFrom_ne_nil 9 value, value, hread, rfl⟩

end Fluxrig.Core
