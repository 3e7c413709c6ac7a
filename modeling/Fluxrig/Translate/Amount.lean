import Fluxrig.Core.Checks
import Fluxrig.Core.Numeral
import Fluxrig.Message.FluxMsg

/-!
# Amounts

An ISO 8583 amount is a number of minor units, an ISO 20022 amount a decimal
numeral.  `convertAmount` turns one into the other by the exponent of the
currency; it looks at the target only and takes the other notation for granted.
`denote` says which quantity a text stands for in each notation, and
`readAmount` which one `convertAmount` takes it for.
-/

namespace Fluxrig.Translate

open Fluxrig.Core Message

/-- What `Protocol.Kind` returns. -/
inductive ProtocolKind where
  | iso8583
  | iso20022
  deriving DecidableEq

structure Currency where
  alpha : Text
  numeric : Text
  exponent : ℕ
  deriving DecidableEq

def currencies : List Currency := [
  ⟨utf8 "ARS", utf8 "032", 2⟩, ⟨utf8 "AUD", utf8 "036", 2⟩, ⟨utf8 "BHD", utf8 "048", 3⟩,
  ⟨utf8 "BRL", utf8 "986", 2⟩, ⟨utf8 "CAD", utf8 "124", 2⟩, ⟨utf8 "CHF", utf8 "756", 2⟩,
  ⟨utf8 "CLP", utf8 "152", 0⟩, ⟨utf8 "CNY", utf8 "156", 2⟩, ⟨utf8 "COP", utf8 "170", 2⟩,
  ⟨utf8 "CZK", utf8 "203", 2⟩, ⟨utf8 "DKK", utf8 "208", 2⟩, ⟨utf8 "EUR", utf8 "978", 2⟩,
  ⟨utf8 "GBP", utf8 "826", 2⟩, ⟨utf8 "HKD", utf8 "344", 2⟩, ⟨utf8 "INR", utf8 "356", 2⟩,
  ⟨utf8 "JOD", utf8 "400", 3⟩, ⟨utf8 "JPY", utf8 "392", 0⟩, ⟨utf8 "KRW", utf8 "410", 0⟩,
  ⟨utf8 "KWD", utf8 "414", 3⟩, ⟨utf8 "MXN", utf8 "484", 2⟩, ⟨utf8 "NOK", utf8 "578", 2⟩,
  ⟨utf8 "NZD", utf8 "554", 2⟩, ⟨utf8 "OMR", utf8 "512", 3⟩, ⟨utf8 "PEN", utf8 "604", 2⟩,
  ⟨utf8 "PLN", utf8 "985", 2⟩, ⟨utf8 "PYG", utf8 "600", 0⟩, ⟨utf8 "SEK", utf8 "752", 2⟩,
  ⟨utf8 "SGD", utf8 "702", 2⟩, ⟨utf8 "TND", utf8 "788", 3⟩, ⟨utf8 "USD", utf8 "840", 2⟩,
  ⟨utf8 "UYU", utf8 "858", 2⟩, ⟨utf8 "ZAR", utf8 "710", 2⟩]

/-- The code points of `unicode.IsSpace`, encoded. -/
def spaces : List Text := [
  [9], [10], [11], [12], [13], [32], [0xC2, 0x85], [0xC2, 0xA0], [0xE1, 0x9A, 0x80],
  [0xE2, 0x80, 0x80], [0xE2, 0x80, 0x81], [0xE2, 0x80, 0x82], [0xE2, 0x80, 0x83],
  [0xE2, 0x80, 0x84], [0xE2, 0x80, 0x85], [0xE2, 0x80, 0x86], [0xE2, 0x80, 0x87],
  [0xE2, 0x80, 0x88], [0xE2, 0x80, 0x89], [0xE2, 0x80, 0x8A], [0xE2, 0x80, 0xA8],
  [0xE2, 0x80, 0xA9], [0xE2, 0x80, 0xAF], [0xE2, 0x81, 0x9F], [0xE3, 0x80, 0x80]]

/-- Cut encodings off the front, at most `count` of them. -/
def trimFront (encodings : List Text) : ℕ → Text → Text
  | 0, text => text
  | count + 1, text =>
      match encodings.find? fun encoding => encoding.isPrefixOf text with
      | none => text
      | some encoding => trimFront encodings count (text.drop encoding.length)

/-- `strings.TrimSpace`.  The length of a text bounds what can be cut off it. -/
def trimSpace (text : Text) : Text :=
  let front := trimFront spaces text.length text
  (trimFront (spaces.map List.reverse) front.length front.reverse).reverse

/-- `strings.ToUpper`, as far as the result can be an ASCII text: the dotless i and
the long s become ASCII letters, any other letter outside ASCII stays outside. -/
def toUpper : Text → Text
  | [] => []
  | 0xC4 :: 0xB1 :: rest => 73 :: toUpper rest
  | 0xC5 :: 0xBF :: rest => 83 :: toUpper rest
  | byte :: rest => (if 97 ≤ byte ∧ byte ≤ 122 then byte - 32 else byte) :: toUpper rest

def findCurrency (code : Text) : Option Currency :=
  currencies.find? fun currency =>
    currency.alpha = toUpper (trimSpace code) ∨ currency.numeric = toUpper (trimSpace code)

def isDigit (byte : UInt8) : Bool := 48 ≤ byte && byte ≤ 57

def isZero (byte : UInt8) : Bool := byte = 48

def digitsOnly (text : Text) : Bool := !text.isEmpty && text.all isDigit

/-- The two parts `strings.Cut` returns: without the separator, all and nothing. -/
def cut (separator : UInt8) (text : Text) : Text × Text :=
  (text.takeWhile fun byte => byte ≠ separator,
    (text.dropWhile fun byte => byte ≠ separator).tail)

def cutDot (text : Text) : Text × Text := cut 46 text

/-- Why an amount is refused, with what the message names. -/
inductive AmountErr where
  | unknownCurrency (code : Text)
  | notMinorUnits (amount : Text)
  | notDecimal (amount : Text)
  | tooManyDecimals (amount : Text) (exp : ℕ)
  | tooManyDigits (amount : Text)
  deriving DecidableEq

def iso8583AmountDigits : ℕ := 12

/-- Cut leading zeros off, then add as many as leave a digit before the point. -/
def padMinor (minor : Text) (exp : ℕ) : Text :=
  let trimmed := minor.dropWhile isZero
  if trimmed.length ≤ exp then
    List.replicate (exp - trimmed.length + 1) 48 ++ trimmed
  else trimmed

def minorToDecimal (minor : Text) (exp : ℕ) : Text :=
  let padded := padMinor minor exp
  if exp = 0 then padded
  else padded.take (padded.length - exp) ++ 46 :: padded.drop (padded.length - exp)

def decimalToMinor (dec : Text) (exp : ℕ) : Except AmountErr Text :=
  let whole := if (cutDot dec).1 = [] then [48] else (cutDot dec).1
  let frac := (cutDot dec).2
  if digitsOnly whole = false ∨ (frac ≠ [] ∧ digitsOnly frac = false) then
    .error (.notDecimal dec)
  else if exp < (frac.rdropWhile isZero).length then
    .error (.tooManyDecimals dec exp)
  else
    let minor := (whole ++ (frac ++ List.replicate exp 48).take exp).dropWhile isZero
    .ok (if minor = [] then [48] else minor)

/-- The amount and the currency code in the form of the target. -/
def convertAmount (amount code : Text) (targetKind : ProtocolKind) :
    Except AmountErr (Text × Text) :=
  match findCurrency code with
  | none => .error (.unknownCurrency code)
  | some currency =>
      match targetKind with
      | .iso20022 =>
          if digitsOnly (trimSpace amount) = false then
            .error (.notMinorUnits (trimSpace amount))
          else .ok (minorToDecimal (trimSpace amount) currency.exponent, currency.alpha)
      | .iso8583 => do
          let minor ← decimalToMinor (trimSpace amount) currency.exponent
          if iso8583AmountDigits < minor.length then .error (.tooManyDigits (trimSpace amount))
          else
            .ok (List.replicate (iso8583AmountDigits - minor.length) 48 ++ minor,
              currency.numeric)

/-- The number a digit string stands for. -/
def units (text : Text) : ℕ := numeral 10 (fun byte => byte.toNat - 48) text

/-- The quantity of an unsigned decimal numeral: digits with at most one point among
them, and at least one digit. -/
def decimalValue (text : Text) : Option ℚ :=
  if digitsOnly ((cutDot text).1 ++ (cutDot text).2) = true then
    some (units ((cutDot text).1 ++ (cutDot text).2) / 10 ^ (cutDot text).2.length)
  else none

/-- The quantity of a digit string in minor units. -/
def minorValue (exp : ℕ) (text : Text) : Option ℚ :=
  if digitsOnly text = true then some (units text / 10 ^ exp) else none

/-- The quantity a text stands for as an amount of a protocol, in a currency with the
given exponent. -/
def denote : ProtocolKind → ℕ → Text → Option ℚ
  | .iso8583, exp, text => minorValue exp text
  | .iso20022, _, text => decimalValue text

/-- The quantity of a field; space around the amount does not count. -/
def amountValue (kind : ProtocolKind) (exp : ℕ) (field : Text) : Option ℚ :=
  denote kind exp (trimSpace field)

/-- The quantity `convertAmount` takes a trimmed text for, which depends on the target
only: minor units on the way to ISO 20022, and else a decimal numeral, where a text
without digits counts as zero. -/
def readAmount : ProtocolKind → ℕ → Text → Option ℚ
  | .iso20022, exp, text => minorValue exp text
  | .iso8583, _, text => if cutDot text = ([], []) then some 0 else decimalValue text

variable {text minor : Text} {exp : ℕ} {value : ℚ}

lemma digitsOnly_iff :
    digitsOnly text = true ↔ text ≠ [] ∧ ∀ byte ∈ text, isDigit byte = true := by
  simp [digitsOnly]

lemma digitOf_zero : ∀ byte, isZero byte = true → byte.toNat - 48 = 0 := by
  intro byte hzero
  rw [of_decide_eq_true hzero]
  rfl

lemma isDigit_ne_dot {byte : UInt8} (hdigit : isDigit byte = true) : byte ≠ 46 := by
  rintro rfl
  exact absurd hdigit (by decide)

section

variable (hdigits : ∀ byte ∈ text, isDigit byte = true)

include hdigits

lemma digits_undotted : ∀ byte ∈ text, decide (byte ≠ 46) = true :=
  fun byte hbyte => decide_eq_true (isDigit_ne_dot (hdigits byte hbyte))

lemma cutDot_append (frac : Text) : cutDot (text ++ 46 :: frac) = (text, frac) := by
  have hkept := digits_undotted hdigits
  rw [cutDot, cut, List.takeWhile_append_of_pos hkept, List.dropWhile_append_of_pos hkept]
  simp

lemma cutDot_digits : cutDot text = (text, []) := by
  have hkept := digits_undotted hdigits
  rw [cutDot, cut, List.takeWhile_eq_self_iff.mpr hkept, List.dropWhile_eq_nil_iff.mpr hkept]
  rfl

end

lemma decimalValue_digits (hdigits : digitsOnly text = true) :
    decimalValue text = some (units text : ℚ) := by
  have hcut : cutDot text = (text, []) := cutDot_digits (digitsOnly_iff.mp hdigits).2
  rw [decimalValue, hcut, List.append_nil, if_pos hdigits]
  simp

lemma trimFront_of_digit {encodings : List Text}
    (hencodings : ∀ encoding ∈ encodings, encoding.head?.map isDigit = some false)
    (hdigit : text.head?.map isDigit = some true) (count : ℕ) :
    trimFront encodings count text = text := by
  have hnone : (encodings.find? fun encoding => encoding.isPrefixOf text) = none := by
    rw [List.find?_eq_none]
    intro encoding hencoding hfits
    have hspace := hencodings encoding hencoding
    obtain ⟨rest, rfl⟩ := List.isPrefixOf_iff_prefix.mp hfits
    cases encoding with
    | nil => simp at hspace
    | cons =>
      rw [List.cons_append, List.head?_cons] at hdigit
      rw [List.head?_cons, hdigit] at hspace
      simp at hspace
  cases count with
  | zero => rfl
  | succ => rw [trimFront, hnone]

/-- An amount that starts and ends with a digit has no space around it. -/
lemma trimSpace_of_digit (hfirst : text.head?.map isDigit = some true)
    (hlast : text.getLast?.map isDigit = some true) : trimSpace text = text := by
  have hfront : trimFront spaces text.length text = text :=
    trimFront_of_digit (by decide) hfirst _
  rw [trimSpace, hfront, trimFront_of_digit (by decide), List.reverse_reverse]
  rw [List.head?_reverse]
  exact hlast

lemma trimSpace_digits (hdigits : digitsOnly text = true) : trimSpace text = text := by
  obtain ⟨hne, hall⟩ := digitsOnly_iff.mp hdigits
  apply trimSpace_of_digit
  · rw [List.head?_eq_some_head hne, Option.map_some, hall _ (List.head_mem hne)]
  · rw [List.getLast?_eq_some_getLast hne, Option.map_some, hall _ (List.getLast_mem hne)]

lemma units_append (high low : Text) :
    units (high ++ low) = units high * 10 ^ low.length + units low :=
  numeral_append 10 _ high low

lemma units_zeros_append (count : ℕ) (text : Text) :
    units (List.replicate count 48 ++ text) = units text :=
  @numeral_zeros_append UInt8 10 (fun byte => byte.toNat - 48) 48 rfl count text

lemma units_dropWhile (text : Text) : units (text.dropWhile isZero) = units text :=
  numeral_dropWhile digitOf_zero text

lemma isDigit_replicate {count : ℕ} : ∀ byte ∈ List.replicate count (48 : UInt8),
    isDigit byte = true := by
  intro byte hbyte
  rw [List.eq_of_mem_replicate hbyte]
  rfl

lemma units_padMinor (minor : Text) (exp : ℕ) :
    units (padMinor minor exp) = units minor := by
  rw [padMinor]
  split
  · rw [units_zeros_append, units_dropWhile]
  · rw [units_dropWhile]

lemma length_padMinor (minor : Text) (exp : ℕ) :
    exp < (padMinor minor exp).length := by
  rw [padMinor]
  split
  · rw [List.length_append, List.length_replicate]
    omega
  · omega

lemma isDigit_padMinor (hminor : ∀ byte ∈ minor, isDigit byte = true) (exp : ℕ) :
    ∀ byte ∈ padMinor minor exp, isDigit byte = true := by
  have htrimmed : ∀ byte ∈ minor.dropWhile isZero, isDigit byte = true := by
    intro byte hbyte
    exact hminor byte ((List.dropWhile_sublist _).mem hbyte)
  rw [padMinor]
  split
  · exact List.forall_mem_append.mpr ⟨isDigit_replicate, htrimmed⟩
  · exact htrimmed

lemma digitsOnly_padMinor (hminor : digitsOnly minor = true) (exp : ℕ) :
    digitsOnly (padMinor minor exp) = true := by
  rw [digitsOnly_iff]
  refine ⟨?_, isDigit_padMinor (digitsOnly_iff.mp hminor).2 exp⟩
  rw [← List.length_pos_iff]
  exact Nat.zero_lt_of_lt (length_padMinor minor exp)

lemma dropWhile_padMinor (minor : Text) (exp : ℕ) :
    (padMinor minor exp).dropWhile isZero = minor.dropWhile isZero := by
  rw [padMinor]
  split
  · rw [List.dropWhile_append_of_pos (by simp [isZero]), List.dropWhile_idempotent]
  · rw [List.dropWhile_idempotent]

/-- The decimal numeral: digits before the point, and as many behind it as the exponent
says. -/
lemma minorToDecimal_parts (hminor : digitsOnly minor = true) (exp : ℕ) :
    ∃ whole frac, padMinor minor exp = whole ++ frac ∧ digitsOnly whole = true ∧
      frac.length = exp ∧ (∀ byte ∈ frac, isDigit byte = true) ∧
      minorToDecimal minor exp = (if exp = 0 then whole else whole ++ 46 :: frac) ∧
      cutDot (minorToDecimal minor exp) = (whole, frac) := by
  have hdigits := isDigit_padMinor (digitsOnly_iff.mp hminor).2 exp
  have hlength := length_padMinor minor exp
  let places := (padMinor minor exp).length - exp
  have hwhole : digitsOnly ((padMinor minor exp).take places) = true := by
    rw [digitsOnly_iff, ← List.length_pos_iff, List.length_take]
    exact ⟨by omega, fun byte hbyte => hdigits byte (List.mem_of_mem_take hbyte)⟩
  refine ⟨_, _, (List.take_append_drop places _).symm, hwhole, ?_,
    fun byte hbyte => hdigits byte (List.mem_of_mem_drop hbyte), ?_⟩
  · rw [List.length_drop, Nat.sub_sub_self hlength.le]
  · rw [minorToDecimal]
    by_cases hexponent : exp = 0
    · simp [places, hexponent, cutDot_digits (hexponent ▸ hdigits)]
    · rw [if_neg hexponent, if_neg hexponent, cutDot_append (digitsOnly_iff.mp hwhole).2]
      exact ⟨rfl, rfl⟩

lemma minorToDecimal_value (hminor : digitsOnly minor = true) (exp : ℕ) :
    decimalValue (minorToDecimal minor exp) = minorValue exp minor := by
  obtain ⟨whole, frac, hpadded, -, hfrac, -, -, hcut⟩ := minorToDecimal_parts hminor exp
  rw [decimalValue, hcut, ← hpadded, if_pos (digitsOnly_padMinor hminor exp),
    units_padMinor, hfrac, minorValue, if_pos hminor]

/-- The digits `decimalToMinor` builds, before it cuts leading zeros off. -/
lemma units_fixedPoint {whole frac : Text}
    (hplaces : ∀ byte ∈ frac.drop exp, isZero byte = true) :
    (units (whole ++ (frac ++ List.replicate exp 48).take exp) : ℚ) / 10 ^ exp =
      units (whole ++ frac) / 10 ^ frac.length := by
  have hlength : ((frac ++ List.replicate exp (48 : UInt8)).take exp).length =
      exp := by
    rw [List.length_take, List.length_append, List.length_replicate]
    omega
  have hfrac : units ((frac ++ List.replicate exp 48).take exp) * 10 ^ frac.length =
      units frac * 10 ^ exp :=
    @numeral_take_places UInt8 10 (fun byte => byte.toNat - 48) 48 rfl exp frac
      fun byte hbyte => digitOf_zero byte (hplaces byte hbyte)
  have hcast : (units ((frac ++ List.replicate exp 48).take exp) : ℚ) *
      10 ^ frac.length = units frac * 10 ^ exp := by
    exact_mod_cast hfrac
  rw [units_append, units_append, hlength, div_eq_div_iff (by positivity) (by positivity)]
  push_cast
  rw [add_mul, hcast]
  ring

/-- A zero that stands for an empty text changes no number. -/
lemma units_orZero (text : Text) : units (if text = [] then [48] else text) = units text := by
  by_cases hempty : text = []
  · rw [hempty]
    rfl
  · rw [if_neg hempty]

lemma digitsOnly_orZero :
    digitsOnly (if text = [] then [48] else text) = true ↔ ∀ byte ∈ text, isDigit byte = true := by
  by_cases hempty : text = []
  · rw [hempty]
    simp [digitsOnly, isDigit]
  · rw [if_neg hempty, digitsOnly_iff, and_iff_right hempty]

lemma decimalToMinor_eq_ok_iff {dec : Text} : decimalToMinor dec exp = .ok minor ↔
      (∀ byte ∈ (cutDot dec).1 ++ (cutDot dec).2, isDigit byte = true) ∧
      (∀ byte ∈ (cutDot dec).2.drop exp, isZero byte = true) ∧
      let kept := ((cutDot dec).1 ++
        ((cutDot dec).2 ++ List.replicate exp 48).take exp).dropWhile isZero
      (if kept = [] then [48] else kept) = minor := by
  have hfrac : ((cutDot dec).2 ≠ [] → digitsOnly (cutDot dec).2 = true) ↔
      ∀ byte ∈ (cutDot dec).2, isDigit byte = true := by
    by_cases hempty : (cutDot dec).2 = []
    · simp [hempty]
    · simp [hempty, digitsOnly_iff]
  have hkept (low : Text) : ((if (cutDot dec).1 = [] then [48] else (cutDot dec).1) ++
      low).dropWhile isZero = ((cutDot dec).1 ++ low).dropWhile isZero := by
    by_cases hempty : (cutDot dec).1 = []
    · simp [hempty, isZero]
    · rw [if_neg hempty]
  simp only [decimalToMinor, guard_eq_ok, not_or, not_and, not_lt, Bool.not_eq_false,
    Except.ok.injEq, digitsOnly_orZero, hfrac, hkept, List.forall_mem_append,
    length_rdropWhile_le_iff]

/-- The minor units denote what the decimal numeral was read as. -/
lemma decimalToMinor_value {dec : Text} (hok : decimalToMinor dec exp = .ok minor) :
    digitsOnly minor = true ∧ minorValue exp minor = readAmount .iso8583 exp dec := by
  obtain ⟨hparts, hplaces, hminor⟩ := decimalToMinor_eq_ok_iff.mp hok
  obtain ⟨hwhole, hfrac⟩ := List.forall_mem_append.mp hparts
  have hdigits : digitsOnly minor = true := by
    rw [← hminor, digitsOnly_orZero]
    have hlow := List.forall_mem_append.mpr ⟨hfrac, @isDigit_replicate exp⟩
    intro byte hbyte
    refine List.forall_mem_append.mpr ⟨hwhole, ?_⟩ byte ((List.dropWhile_sublist _).mem hbyte)
    exact fun digit hdigit => hlow digit (List.mem_of_mem_take hdigit)
  have hvalue : (units minor : ℚ) / 10 ^ exp =
      units ((cutDot dec).1 ++ (cutDot dec).2) / 10 ^ (cutDot dec).2.length := by
    rw [← hminor, units_orZero, units_dropWhile, units_fixedPoint hplaces]
  refine ⟨hdigits, ?_⟩
  rw [minorValue, if_pos hdigits, hvalue, readAmount]
  by_cases hcut : cutDot dec = ([], [])
  · rw [hcut]
    simp [units]
  · rw [if_neg hcut, decimalValue, if_pos]
    refine digitsOnly_iff.mpr ⟨?_, hparts⟩
    intro hempty
    exact hcut (Prod.ext (List.append_eq_nil_iff.mp hempty).1
      (List.append_eq_nil_iff.mp hempty).2)

/-- The code of a currency in the form of the target. -/
def Currency.codeFor (currency : Currency) : ProtocolKind → Text
  | .iso20022 => currency.alpha
  | .iso8583 => currency.numeric

lemma minorToDecimal_trimmed (hminor : digitsOnly minor = true) (exp : ℕ) :
    trimSpace (minorToDecimal minor exp) = minorToDecimal minor exp := by
  obtain ⟨whole, frac, -, hwhole, hlength, hfrac, hdecimal, -⟩ :=
    minorToDecimal_parts hminor exp
  rw [hdecimal]
  by_cases hexponent : exp = 0
  · rw [if_pos hexponent, trimSpace_digits hwhole]
  · obtain ⟨hne, hall⟩ := digitsOnly_iff.mp hwhole
    have hfracNe : frac ≠ [] := fun hnil => hexponent (hlength ▸ congrArg List.length hnil)
    rw [if_neg hexponent]
    apply trimSpace_of_digit
    · rw [List.head?_append_of_ne_nil _ hne, List.head?_eq_some_head hne, Option.map_some,
        hall _ (List.head_mem hne)]
    · rw [List.getLast?_append_cons, List.getLast?_cons_of_ne_nil hfracNe,
        List.getLast?_eq_some_getLast hfracNe, Option.map_some,
        hfrac _ (List.getLast_mem hfracNe)]

/-- The converted amount denotes in the target what the conversion read, and there is
such a quantity. -/
lemma convertAmount_ok {amount code written targetCode : Text} {kind : ProtocolKind}
    (hok : convertAmount amount code kind = .ok (written, targetCode)) :
    ∃ currency value, findCurrency code = some currency ∧ targetCode = currency.codeFor kind ∧
      readAmount kind currency.exponent (trimSpace amount) = some value ∧
      amountValue kind currency.exponent written = some value := by
  rw [convertAmount] at hok
  cases hcurrency : findCurrency code with
  | none => simp [hcurrency] at hok
  | some currency =>
    rw [hcurrency] at hok
    cases kind with
    | iso20022 =>
      simp only [guard_eq_ok, Bool.not_eq_false, Except.ok.injEq, Prod.mk.injEq] at hok
      obtain ⟨hdigits, hwritten, hcode⟩ := hok
      have hread : readAmount .iso20022 currency.exponent (trimSpace amount) =
          some (units (trimSpace amount) / 10 ^ currency.exponent : ℚ) := by
        rw [readAmount, minorValue, if_pos hdigits]
      refine ⟨currency, _, rfl, hcode.symm, hread, ?_⟩
      rw [← hwritten, amountValue, minorToDecimal_trimmed hdigits, denote,
        minorToDecimal_value hdigits]
      exact hread
    | iso8583 =>
      simp only [bind_eq_ok, guard_eq_ok, Except.ok.injEq, Prod.mk.injEq] at hok
      obtain ⟨minor, hminor, -, hwritten, hcode⟩ := hok
      obtain ⟨hdigits, hread⟩ := decimalToMinor_value hminor
      have hpadded : digitsOnly written = true := by
        rw [← hwritten, digitsOnly_iff]
        exact ⟨List.append_ne_nil_of_right_ne_nil _ (digitsOnly_iff.mp hdigits).1,
          List.forall_mem_append.mpr ⟨isDigit_replicate, (digitsOnly_iff.mp hdigits).2⟩⟩
      rw [minorValue, if_pos hdigits] at hread
      refine ⟨currency, _, rfl, hcode.symm, hread.symm, ?_⟩
      rw [amountValue, trimSpace_digits hpadded, denote, minorValue, if_pos hpadded,
        ← hwritten, units_zeros_append]

/-- Scaling by the exponent changes a quantity unless one of the two is zero. -/
lemma div_pow_eq_self_iff : value / 10 ^ exp = value ↔ exp = 0 ∨ value = 0 := by
  by_cases hvalue : value = 0
  · simp [hvalue]
  · rw [div_eq_iff (by positivity), left_eq_mul₀ hvalue, or_iff_left hvalue]
    constructor
    · intro hone
      by_contra hexponent
      have hlarge : (1 : ℚ) < 10 ^ exp := one_lt_pow₀ (by norm_num) hexponent
      exact hlarge.ne' hone
    · intro hexponent
      rw [hexponent, pow_zero]

lemma minorValue_eq_some (hvalue : minorValue exp text = some value) :
    digitsOnly text = true ∧ (units text : ℚ) / 10 ^ exp = value := by
  rw [minorValue, Option.ite_none_right_eq_some, Option.some.injEq] at hvalue
  exact hvalue

lemma readAmount_digits (hdigits : digitsOnly text = true) (exp : ℕ) :
    readAmount .iso8583 exp text = some (units text : ℚ) := by
  obtain ⟨hne, hall⟩ := digitsOnly_iff.mp hdigits
  have hcut : cutDot text ≠ ([], []) := by
    rw [cutDot_digits hall]
    intro hempty
    exact hne (congrArg Prod.fst hempty)
  rw [readAmount, if_neg hcut, decimalValue_digits hdigits]

lemma readAmount_decimal (hvalue : decimalValue text = some value) (exp : ℕ) :
    readAmount .iso8583 exp text = some value := by
  have hcut : cutDot text ≠ ([], []) := by
    intro hempty
    rw [decimalValue, hempty] at hvalue
    nomatch hvalue
  rw [readAmount, if_neg hcut, hvalue]

/-- The reading of the conversion is that of the source where the two kinds differ;
where they agree it is off by the exponent. -/
lemma readAmount_eq_iff {source target : ProtocolKind} {read : ℚ}
    (hvalue : denote source exp text = some value)
    (hread : readAmount target exp text = some read) :
    read = value ↔ source ≠ target ∨ exp = 0 ∨ value = 0 := by
  cases source with
  | iso8583 =>
    cases target with
    | iso8583 =>
      obtain ⟨hdigits, hunits⟩ := minorValue_eq_some hvalue
      rw [readAmount_digits hdigits, Option.some.injEq] at hread
      rw [← hread, ← hunits, eq_comm, div_pow_eq_self_iff]
      simp
    | iso20022 =>
      have hsame : read = value := Option.some.inj (hread.symm.trans hvalue)
      simp [hsame]
  | iso20022 =>
    cases target with
    | iso8583 =>
      have hsame : read = value :=
        Option.some.inj (hread.symm.trans (readAmount_decimal hvalue exp))
      simp [hsame]
    | iso20022 =>
      obtain ⟨hdigits, hunits⟩ := minorValue_eq_some hread
      rw [denote, decimalValue_digits hdigits, Option.some.injEq] at hvalue
      rw [← hunits, hvalue, div_pow_eq_self_iff]
      simp

lemma findCurrency_codeFor {currency : Currency} (hlisted : currency ∈ currencies)
    (kind : ProtocolKind) : findCurrency (currency.codeFor kind) = some currency := by
  have hcodes : ∀ currency ∈ currencies, findCurrency currency.alpha = some currency ∧
      findCurrency currency.numeric = some currency := by
    decide +kernel
  cases kind with
  | iso8583 => exact (hcodes currency hlisted).2
  | iso20022 => exact (hcodes currency hlisted).1

lemma decimalToMinor_minorToDecimal (hminor : digitsOnly minor = true) (exp : ℕ) :
    decimalToMinor (minorToDecimal minor exp) exp =
      .ok (if minor.dropWhile isZero = [] then [48] else minor.dropWhile isZero) := by
  obtain ⟨whole, frac, hpadded, hwhole, hlength, hfrac, -, hcut⟩ :=
    minorToDecimal_parts hminor exp
  rw [decimalToMinor_eq_ok_iff, hcut]
  refine ⟨List.forall_mem_append.mpr ⟨(digitsOnly_iff.mp hwhole).2, hfrac⟩, ?_, ?_⟩
  · rw [← hlength, List.drop_length]
    exact nofun
  · rw [List.take_left' hlength, ← hpadded, dropWhile_padMinor]

lemma parts_ne_nil (hdigit : ∃ byte ∈ text, isDigit byte = true) :
    (cutDot text).1 ++ (cutDot text).2 ≠ [] := by
  obtain ⟨byte, hbyte, hdigit⟩ := hdigit
  cases text with
  | nil => nomatch hbyte
  | cons head tail =>
    by_cases hhead : head = 46
    · have htail : byte ∈ tail :=
        (List.mem_cons.mp hbyte).resolve_left (hhead ▸ isDigit_ne_dot hdigit)
      simp [cutDot, cut, hhead, List.ne_nil_of_mem htail]
    · simp [cutDot, cut, hhead]

/-- Amounts convert exactly both ways: the decimal numeral of some minor units denotes
them; it converts back to the same number with twelve digits; and what converts to
minor units is the decimal numerals with zeros alone behind the places of the currency. -/
theorem amounts_exact (text : Text) : (digitsOnly text = true → ∀ exp,
      decimalValue (minorToDecimal text exp) = some (units text / 10 ^ exp : ℚ)) ∧
    (digitsOnly text = true → (text.dropWhile isZero).length ≤ iso8583AmountDigits →
      ∀ code currency, findCurrency code = some currency →
        convertAmount text code .iso20022 =
          .ok (minorToDecimal text currency.exponent, currency.alpha) ∧
        convertAmount (minorToDecimal text currency.exponent) currency.alpha .iso8583 =
          .ok (List.replicate (iso8583AmountDigits - (text.dropWhile isZero).length) 48 ++
            text.dropWhile isZero, currency.numeric)) ∧
    ((∃ byte ∈ text, isDigit byte = true) → ∀ exp, match decimalToMinor text exp with
      | .ok minor => (∃ value, decimalValue text = some value ∧
          minorValue exp minor = some value) ∧
          ∀ byte ∈ (cutDot text).2.drop exp, isZero byte = true
      | .error _ => decimalValue text = none ∨
          ∃ byte ∈ (cutDot text).2.drop exp, isZero byte = false) := by
  refine ⟨fun hdigits exp => ?_, fun hdigits hshort code currency hfound => ?_,
    fun hdigit exp => ?_⟩
  · rw [minorToDecimal_value hdigits, minorValue, if_pos hdigits]
  · have halpha : findCurrency currency.alpha = some currency :=
      findCurrency_codeFor (List.mem_of_find?_eq_some hfound) .iso20022
    refine ⟨?_, ?_⟩
    · simp only [convertAmount, hfound, trimSpace_digits hdigits, hdigits, Bool.true_eq_false,
        if_false]
    · simp only [convertAmount, halpha, minorToDecimal_trimmed hdigits,
        decimalToMinor_minorToDecimal hdigits]
      by_cases hzeros : text.dropWhile isZero = []
      · rw [hzeros]
        rfl
      · simp only [if_neg hzeros, bind, Except.bind, if_neg (not_lt.mpr hshort)]
  · cases hminor : decimalToMinor text exp with
    | ok minor =>
      obtain ⟨hparts, hplaces, -⟩ := decimalToMinor_eq_ok_iff.mp hminor
      have hdecimal : decimalValue text = some _ :=
        if_pos (digitsOnly_iff.mpr ⟨parts_ne_nil hdigit, hparts⟩)
      exact ⟨⟨_, hdecimal, (decimalToMinor_value hminor).2.trans
        (readAmount_decimal hdecimal exp)⟩, hplaces⟩
    | error refusal =>
      by_cases hparts : digitsOnly ((cutDot text).1 ++ (cutDot text).2) = true
      · right
        by_contra hplaces
        have hok := decimalToMinor_eq_ok_iff.mpr ⟨(digitsOnly_iff.mp hparts).2,
          fun byte hbyte => eq_true_of_ne_false fun hother => hplaces ⟨byte, hbyte, hother⟩, rfl⟩
        nomatch hminor.symm.trans hok
      · exact Or.inl (if_neg hparts)

theorem amounts_exact_dollar :
    convertAmount (utf8 "000000004250") (utf8 "USD") .iso20022 = .ok (utf8 "42.50", utf8 "USD") ∧
    convertAmount (utf8 "42.50") (utf8 "USD") .iso8583 = .ok (utf8 "000000004250", utf8 "840") :=
  (amounts_exact (utf8 "000000004250")).2.1 (by decide) (by decide) (utf8 "USD")
    ⟨utf8 "USD", utf8 "840", 2⟩ (by decide +kernel)

end Fluxrig.Translate
