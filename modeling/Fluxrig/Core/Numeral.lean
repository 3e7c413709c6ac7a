import Mathlib.Data.Nat.Digits.Lemmas
import Mathlib.Data.List.DropRight
import Mathlib.Tactic

/-!
# Positional numerals

A numeral is a list of symbols, the most significant one first.  Padding it,
cutting leading zeros off it and keeping a fixed number of places after the
point act on its value as arithmetic says they should.
-/

namespace Fluxrig.Core

section

variable {Symbol : Type*} (base : ℕ) (digit : Symbol → ℕ)

/-- The number a list of symbols stands for. -/
def numeral (symbols : List Symbol) : ℕ :=
  Nat.ofDigits base (symbols.reverse.map digit)

@[simp]
lemma numeral_nil : numeral base digit [] = 0 := rfl

lemma numeral_append (high low : List Symbol) : numeral base digit (high ++ low) =
      numeral base digit high * base ^ low.length + numeral base digit low := by
  rw [numeral, List.reverse_append, List.map_append, Nat.ofDigits_append,
    List.length_map, List.length_reverse]
  change numeral base digit low + base ^ low.length * numeral base digit high = _
  ring

variable {base digit}

lemma numeral_of_zeros {symbols : List Symbol}
    (hzeros : ∀ symbol ∈ symbols, digit symbol = 0) : numeral base digit symbols = 0 := by
  induction symbols with
  | nil => rfl
  | cons symbol _ ih =>
    have hsymbol : numeral base digit [symbol] = 0 := by
      simp [numeral, hzeros symbol List.mem_cons_self]
    rw [← List.singleton_append, numeral_append, hsymbol,
      ih fun other hother => hzeros other (List.mem_cons_of_mem _ hother)]
    simp

lemma numeral_replicate {zero : Symbol} (hzero : digit zero = 0) (count : ℕ) :
    numeral base digit (List.replicate count zero) = 0 :=
  numeral_of_zeros fun symbol hsymbol => by rw [List.eq_of_mem_replicate hsymbol, hzero]

/-- Zeros in front of a numeral do not count. -/
lemma numeral_zeros_append {zero : Symbol} (hzero : digit zero = 0) (count : ℕ)
    (symbols : List Symbol) :
    numeral base digit (List.replicate count zero ++ symbols) = numeral base digit symbols := by
  rw [numeral_append, numeral_replicate hzero]
  ring

lemma numeral_dropWhile {isZero : Symbol → Bool}
    (hzero : ∀ symbol, isZero symbol = true → digit symbol = 0) (symbols : List Symbol) :
    numeral base digit (symbols.dropWhile isZero) = numeral base digit symbols := by
  have hleading : numeral base digit (symbols.takeWhile isZero) = 0 :=
    numeral_of_zeros fun symbol hsymbol => hzero symbol (List.mem_takeWhile_imp hsymbol)
  calc numeral base digit (symbols.dropWhile isZero)
      = numeral base digit (symbols.takeWhile isZero ++ symbols.dropWhile isZero) := by
        rw [numeral_append, hleading, Nat.zero_mul, Nat.zero_add]
    _ = numeral base digit symbols := by rw [List.takeWhile_append_dropWhile]

/-- Keep exactly `places` symbols of a fraction, where only zeros are cut off. -/
lemma numeral_take_places {zero : Symbol} (hzero : digit zero = 0) {places : ℕ}
    {fraction : List Symbol} (hcut : ∀ symbol ∈ fraction.drop places, digit symbol = 0) :
    numeral base digit ((fraction ++ List.replicate places zero).take places) *
        base ^ fraction.length =
      numeral base digit fraction * base ^ places := by
  rcases Nat.le_total places fraction.length with hshort | hlong
  · rw [List.take_append_of_le_length hshort]
    have hwhole : numeral base digit fraction =
        numeral base digit (fraction.take places) * base ^ (fraction.length - places) := by
      conv_lhs => rw [← List.take_append_drop places fraction, numeral_append,
        numeral_of_zeros hcut, List.length_drop]
      ring
    rw [hwhole, mul_assoc, ← pow_add, Nat.sub_add_cancel hshort]
  · have hpad : (fraction ++ List.replicate places zero).take places =
        fraction ++ List.replicate (places - fraction.length) zero := by
      rw [List.take_append, List.take_of_length_le hlong, List.take_replicate,
        Nat.min_eq_left (Nat.sub_le _ _)]
    rw [hpad, numeral_append, numeral_replicate hzero, List.length_replicate, Nat.add_zero,
      mul_assoc, ← pow_add, Nat.sub_add_cancel hlong]

end

section

variable {Symbol : Type*} (base : ℕ) (symbol : ℕ → Symbol)

/-- The numeral of a number, where `bound` exceeds the number. -/
def symbolsWithin : ℕ → ℕ → List Symbol
  | 0, _ => []
  | bound + 1, number =>
      if number < base then [symbol number]
      else symbolsWithin bound (number / base) ++ [symbol (number % base)]

/-- The shortest numeral of a number. -/
def symbolsOf (number : ℕ) : List Symbol := symbolsWithin base symbol (number + 1) number

variable {base symbol}

variable {digit : Symbol → ℕ}

lemma numeral_singleton (place : Symbol) : numeral base digit [place] = digit place := by
  simp [numeral]

lemma numeral_symbolsWithin (hbase : 1 < base)
    (hdigit : ∀ place < base, digit (symbol place) = place) {bound number : ℕ}
    (hbound : number < bound) :
    numeral base digit (symbolsWithin base symbol bound number) = number := by
  induction bound generalizing number with
  | zero => exact absurd hbound (Nat.not_lt_zero _)
  | succ bound ih =>
    rw [symbolsWithin]
    split
    · rename_i hsmall
      rw [numeral_singleton, hdigit number hsmall]
    · rename_i hlarge
      have hshrinks : number / base < bound := by
        have hless := Nat.div_lt_self (Nat.lt_of_lt_of_le (Nat.zero_lt_of_lt hbase)
          (Nat.le_of_not_lt hlarge)) hbase
        omega
      have hplace := hdigit _ (Nat.mod_lt number (Nat.zero_lt_of_lt hbase))
      rw [numeral_append, ih hshrinks, numeral_singleton, hplace, List.length_singleton,
        pow_one, Nat.div_add_mod']

lemma symbolsOf_ne_nil (number : ℕ) : symbolsOf base symbol number ≠ [] := by
  rw [symbolsOf, symbolsWithin]
  split
  · exact List.cons_ne_nil _ _
  · exact List.append_ne_nil_of_right_ne_nil _ (List.cons_ne_nil _ _)

lemma mem_symbolsWithin (hbase : 0 < base) {bound number : ℕ} {place : Symbol}
    (hplace : place ∈ symbolsWithin base symbol bound number) :
    ∃ value < base, place = symbol value := by
  induction bound generalizing number with
  | zero => nomatch hplace
  | succ bound ih =>
    rw [symbolsWithin] at hplace
    split at hplace
    · rename_i hsmall
      exact ⟨number, hsmall, List.mem_singleton.mp hplace⟩
    · rcases List.mem_append.mp hplace with hhigh | hlow
      · exact ih hhigh
      · exact ⟨_, Nat.mod_lt number hbase, List.mem_singleton.mp hlow⟩

end

/-- The last `width` bytes of a number, the most significant one first. -/
def bytesOf : ℕ → ℕ → List UInt8
  | 0, _ => []
  | width + 1, number => bytesOf width (number / 256) ++ [UInt8.ofNat number]

@[simp]
lemma length_bytesOf (width number : ℕ) : (bytesOf width number).length = width := by
  induction width generalizing number with
  | zero => rfl
  | succ _ ih => rw [bytesOf, List.length_append, ih, List.length_singleton]

lemma numeral_bytesOf (width number : ℕ) :
    numeral 256 UInt8.toNat (bytesOf width number) = number % 256 ^ width := by
  induction width generalizing number with
  | zero => rw [pow_zero, Nat.mod_one, bytesOf, numeral_nil]
  | succ width ih =>
    have hlast : numeral 256 UInt8.toNat [UInt8.ofNat number] = number % 256 := by
      rw [numeral_singleton, UInt8.toNat_ofNat']
    calc numeral 256 UInt8.toNat (bytesOf (width + 1) number)
        = number / 256 % 256 ^ width * 256 ^ 1 + number % 256 := by
          rw [bytesOf, numeral_append, ih, hlast, List.length_singleton]
      _ = number % 256 ^ (width + 1) := by
          rw [pow_succ' 256 width, Nat.mod_mul]
          ring

/-- A text that ends in dropped symbols is as short as these let it be. -/
lemma length_rdropWhile_le_iff {Symbol : Type*} {drops : Symbol → Bool}
    {symbols : List Symbol} {places : ℕ} :
    (symbols.rdropWhile drops).length ≤ places ↔
      ∀ symbol ∈ symbols.drop places, drops symbol = true := by
  constructor
  · intro hlength symbol hsymbol
    rw [← @List.rdropWhile_append_rtakeWhile _ drops symbols, List.drop_append,
      List.drop_of_length_le hlength] at hsymbol
    exact List.mem_rtakeWhile_imp (List.mem_of_mem_drop hsymbol)
  · intro hdrops
    by_contra hlong
    have hne : (symbols.rdropWhile drops).drop places ≠ [] := by
      rwa [ne_eq, List.drop_eq_nil_iff]
    have hlast := List.getLast_mem hne
    rw [List.getLast_drop] at hlast
    exact List.rdropWhile_last_not drops symbols _
      (hdrops _ (((List.rdropWhile_prefix drops symbols).drop places).subset hlast))

end Fluxrig.Core
