import Fluxrig.Core.Loop
import Fluxrig.Core.Varint
import Fluxrig.Message.FluxMsg

/-!
# Custom sections of a Wasm module

`ExtractCustomSection` walks over the sections of a module.  The length of a section
and of its name are 64-bit numbers that the module chooses, and they are converted
to machine integers before they are added to the position, so that a sum may wrap.

The header at a position is described without machine arithmetic by `number`,
`Passes` and `Measured`, and `turn_of_measured` and `panics_of_not_measured` say what
one turn of the loop makes of it.
-/

namespace Fluxrig.Wasm

open Relation
open Fluxrig.Core
open Message (Text utf8)

abbrev Bytes := List UInt8

/-- A byte slice of Go: its length is a machine integer. -/
structure ByteSlice where
  bytes : Bytes
  fits : bytes.length < 2 ^ 63

def wasmMagic : Bytes := [0x00, 0x61, 0x73, 0x6d, 0x01, 0x00, 0x00, 0x00]

/-- Conversion to Go's `int`, and its addition: 64 bits in two's complement. -/
def int (n : ℤ) : ℤ := n.bmod (2 ^ 64)

variable (wasm : Bytes)

/-- `wasmBytes[i]`; `none` is the run-time panic. -/
def index (i : ℤ) : Option UInt8 :=
  if 0 ≤ i then wasm[i.toNat]? else none

/-- `wasmBytes[low:high]`; `none` is the run-time panic. -/
def slice (low high : ℤ) : Option Bytes :=
  if 0 ≤ low ∧ low ≤ high ∧ high ≤ wasm.length then
    some ((wasm.take high.toNat).drop low.toNat)
  else none

/-- How a call of `ExtractCustomSection` ends. -/
inductive Extraction where
  | found (customData stripped : Bytes)
  | invalidWasm
  | sectionNotFound
  | panicked
  deriving DecidableEq

/-- The inner part of the loop, for a section with id 0 that ends at `offset`: the
next position or the result. -/
def readCustom (target : Text) (sectionStart payloadStart offset : ℤ) :
    Option (ℤ ⊕ Extraction) := do
  let tail ← slice wasm payloadStart wasm.length
  let (nameLen, nn) := uvarint tail
  if 0 < nn ∧ int (payloadStart + nn + int nameLen.toNat) ≤ offset then
    let nameStart := payloadStart + nn
    let customDataStart := int (nameStart + int nameLen.toNat)
    let name ← slice wasm nameStart customDataStart
    if name = target then
      let customData ← slice wasm customDataStart offset
      let before ← slice wasm 0 sectionStart
      let after ← slice wasm offset wasm.length
      return .inr (.found customData (before ++ after))
    else return .inl offset
  else return .inl offset

/-- The body of the loop. -/
def readSection (target : Text) (sectionStart : ℤ) : Option (ℤ ⊕ Extraction) :=
  match index wasm sectionStart, slice wasm (sectionStart + 1) wasm.length with
  | some id, some tail =>
      let (size, n) := uvarint tail
      if n ≤ 0 then some (.inr .invalidWasm)
      else
        let payloadStart := sectionStart + 1 + n
        let offset := int (payloadStart + int size.toNat)
        if wasm.length < offset then some (.inr .invalidWasm)
        else if id = 0 then readCustom wasm target sectionStart payloadStart offset
        else some (.inl offset)
  | _, _ => none

/-- One turn of the loop, with its condition. -/
def turn (target : Text) (offset : ℤ) : ℤ ⊕ Extraction :=
  if offset < wasm.length then
    (readSection wasm target offset).getD (.inr .panicked)
  else .inr .sectionNotFound

/-- `ExtractCustomSection`, cut off after `fuel` turns of its loop. -/
def extractWithin (fuel : ℕ) (wasm : ByteSlice) (target : Text) : Option Extraction :=
  if wasm.bytes.length < 8 ∨ wasm.bytes.take 8 ≠ wasmMagic then some .invalidWasm
  else loop (turn wasm.bytes target) fuel 8

/-- `ExtractCustomSection`.  `none` is a call that never returns: as many turns as the
module has bytes, and one more, are enough for a call that does. -/
def extractCustomSection (wasm : ByteSlice) (target : Text) : Option Extraction :=
  extractWithin (wasm.bytes.length + 1) wasm target

variable (wasm : Bytes)

/-- The number spelled at a position, and the position after it. -/
def number (pos : ℕ) : Option (ℕ × ℕ) :=
  let read := uvarint (wasm.drop pos)
  if 0 < read.2 then some (read.1.toNat, pos + read.2.toNat) else none

/-- A custom section that starts with the wanted name, from `start` to `finish`. -/
def Named (target : Text) (start finish : ℕ) : Prop :=
  ∃ length nameStart, number wasm start = some (length, nameStart) ∧
    nameStart + length ≤ finish ∧
    (wasm.take (nameStart + length)).drop nameStart = target

/-- The section at `pos` ends at `finish`, inside the module, and is not the
wanted one. -/
def Passes (target : Text) (pos finish : ℕ) : Prop :=
  ∃ id size start, wasm[pos]? = some id ∧
    number wasm (pos + 1) = some (size, start) ∧
    finish = (start + size) % 2 ^ 64 ∧ finish ≤ wasm.length ∧
    ¬ (id = 0 ∧ Named wasm target start finish)

/-- The lengths in the header at `pos` are harmless.  The end of the section,
as an unsigned sum, is not in the upper half of the 64-bit numbers; neither is the
end of the name of a custom section, unless it wraps to behind the section's end. -/
structure Measured (wasm : Bytes) (pos : ℕ) : Prop where
  size : ∀ size start, pos < wasm.length →
    number wasm (pos + 1) = some (size, start) →
    start + size < 2 ^ 63 ∨ 2 ^ 64 ≤ start + size
  name : ∀ size start length nameStart, wasm[pos]? = some 0 →
    number wasm (pos + 1) = some (size, start) →
    (start + size) % 2 ^ 64 ≤ wasm.length →
    number wasm start = some (length, nameStart) →
    nameStart + length < 2 ^ 63 ∨ 2 ^ 64 + (start + size) % 2 ^ 64 < nameStart + length

/-- Following the section headers from the first one, every header is harmless and
none leads back to itself. -/
def Sane (target : Text) : Prop :=
  wasm.take 8 = wasmMagic →
    ∀ pos, ReflTransGen (Passes wasm target) 8 pos →
      Measured wasm pos ∧ ¬ TransGen (Passes wasm target) pos pos

/-- The header of a custom section: its id, the length of what follows, and its name
with the length of the name. -/
def IsHeader (header : Bytes) (name : Text) (payloadLength : ℕ) : Prop :=
  ∃ sizeBytes nameLenBytes, header = 0 :: (sizeBytes ++ (nameLenBytes ++ name)) ∧
    Spells sizeBytes (nameLenBytes.length + name.length + payloadLength) ∧
    Spells nameLenBytes name.length

/-- An error, or a payload and a remainder that make up the input with one header. -/
def Exact (wasm : Bytes) (target : Text) : Extraction → Prop
  | .found customData stripped =>
      ∃ before header after, wasm = before ++ (header ++ (customData ++ after)) ∧
        stripped = before ++ after ∧ IsHeader header target customData.length
  | .invalidWasm => True
  | .sectionNotFound => True
  | .panicked => False

lemma int_of_lt {n : ℕ} (hn : n < 2 ^ 63) : int n = n := by
  rw [int, Int.bmod_def]
  omega

lemma int_of_ge {n : ℕ} (hge : 2 ^ 63 ≤ n) (hlt : n < 2 ^ 64 + 2 ^ 63) : int n = n - 2 ^ 64 := by
  rw [int, Int.bmod_def]
  omega

lemma int_add_int (a b : ℤ) : int (a + int b) = int (a + b) := by
  rw [int, int, int, Int.add_bmod_bmod]

variable {wasm : Bytes} {pos value : ℕ} {target : Text}

lemma slice_of_le {low high : ℕ} (hlow : low ≤ high) (hhigh : high ≤ wasm.length) :
    slice wasm low high = some ((wasm.take high).drop low) := by
  rw [slice, if_pos ⟨by omega, by omega, by omega⟩, Int.toNat_natCast, Int.toNat_natCast]

lemma slice_of_gt {low high : ℤ} (hlow : high < low) : slice wasm low high = none := by
  rw [slice, if_neg (by omega)]

lemma slice_tail {low : ℕ} (hlow : low ≤ wasm.length) :
    slice wasm low wasm.length = some (wasm.drop low) := by
  rw [slice_of_le hlow le_rfl, List.take_length]

lemma index_of_lt {i : ℕ} : index wasm i = wasm[i]? := by
  rw [index, if_pos (by omega), Int.toNat_natCast]

/-- What stands at a position where a number is read. -/
lemma number_spells {after : ℕ} (hnumber : number wasm pos = some (value, after)) :
    ∃ spelling, Spells spelling value ∧ after = pos + spelling.length ∧
      wasm.drop pos = spelling ++ wasm.drop after := by
  cases hread : uvarint (wasm.drop pos) with
  | mk =>
    simp only [number, hread] at hnumber
    split_ifs at hnumber with hcount
    obtain ⟨spelling, rest, hsplit, hlength, hspells⟩ := spells_of_uvarint hread hcount
    rw [Option.some.injEq, Prod.mk.injEq, hlength, Int.toNat_natCast] at hnumber
    refine ⟨spelling, hnumber.1 ▸ hspells, hnumber.2.symm, ?_⟩
    rw [← hnumber.2, ← List.drop_drop, hsplit, List.drop_left]

lemma number_of_spells {spelling rest : Bytes} (hspells : Spells spelling value)
    (hdrop : wasm.drop pos = spelling ++ rest) :
    number wasm pos = some (value, pos + spelling.length) := by
  obtain ⟨word, hread, hvalue⟩ := hspells.uvarint_append rest
  have hcount : (0 : ℤ) < spelling.length := by exact_mod_cast hspells.length_pos
  simp only [number, hdrop, hread, if_pos hcount, hvalue, Int.toNat_natCast]

/-- A number that is read lies inside the module. -/
lemma number_bounds {after : ℕ} (hnumber : number wasm pos = some (value, after)) :
    pos < after ∧ after ≤ wasm.length ∧ value < 2 ^ 64 := by
  obtain ⟨spelling, hspells, hafter, hdrop⟩ := number_spells hnumber
  have hpos := hspells.length_pos
  have hlength := congrArg List.length hdrop
  rw [List.length_append, List.length_drop] at hlength
  exact ⟨by omega, by omega, hspells.lt⟩

/-- The loop's body at a position inside the module. -/
lemma readSection_eq {id : UInt8} (hid : wasm[pos]? = some id) :
    readSection wasm target pos = match number wasm (pos + 1) with
      | none => some (.inr .invalidWasm)
      | some (size, start) =>
        if wasm.length < int (start + size : ℕ) then some (.inr .invalidWasm)
        else if id = 0 then
          readCustom wasm target pos start (int (start + size : ℕ))
        else some (.inl (int (start + size : ℕ))) := by
  have hlt : pos < wasm.length := (List.getElem?_eq_some_iff.mp hid).1
  have htail : slice wasm ((pos : ℤ) + 1) wasm.length = some (wasm.drop (pos + 1)) := by
    exact_mod_cast slice_tail hlt
  cases hread : uvarint (wasm.drop (pos + 1)) with
  | mk word count =>
    by_cases hcount : 0 < count
    · have hstart : (pos : ℤ) + 1 + count = (pos + 1 + count.toNat : ℕ) := by
        push_cast
        omega
      simp only [readSection, index_of_lt, hid, htail, number, hread, if_pos hcount,
        if_neg (not_le.mpr hcount), int_add_int, hstart, Nat.cast_add]
    · simp only [readSection, index_of_lt, hid, htail, number, hread, if_neg hcount,
        if_pos (not_lt.mp hcount)]

/-- The part of the body that is about custom sections. -/
lemma readCustom_eq {start : ℕ} {offset : ℤ} (hstart : start ≤ wasm.length) :
    readCustom wasm target pos start offset = match number wasm start with
      | none => some (.inl offset)
      | some (length, nameStart) =>
        if int (nameStart + length : ℕ) ≤ offset then do
          let name ← slice wasm nameStart (int (nameStart + length : ℕ))
          if name = target then
            let customData ← slice wasm (int (nameStart + length : ℕ)) offset
            let before ← slice wasm 0 pos
            let after ← slice wasm offset wasm.length
            return .inr (.found customData (before ++ after))
          else return .inl offset
        else some (.inl offset) := by
  rw [readCustom, slice_tail hstart, number]
  by_cases hcount : 0 < (uvarint (wasm.drop start)).2
  · have hname : (start : ℤ) + (uvarint (wasm.drop start)).2 =
        (start + (uvarint (wasm.drop start)).2.toNat : ℕ) := by
      push_cast
      omega
    simp only [Option.bind_eq_bind, Option.bind_some, hcount, true_and, int_add_int, hname,
      Nat.cast_add]
    rfl
  · simp only [Option.bind_eq_bind, Option.bind_some, hcount, false_and, if_false]
    rfl

lemma turn_of_getElem? {id : UInt8} (hid : wasm[pos]? = some id) : turn wasm target pos =
      (readSection wasm target pos).getD (.inr .panicked) := by
  have hlt : pos < wasm.length := (List.getElem?_eq_some_iff.mp hid).1
  rw [turn, if_pos (by exact_mod_cast hlt)]

lemma turn_of_neg {offset : ℤ} (hneg : offset < 0) :
    turn wasm target offset = .inr .panicked := by
  rw [turn, if_pos (by omega), readSection, index, if_neg (by omega)]
  rfl

/-- A section end that is harmless is what unsigned arithmetic gives. -/
lemma int_of_measured {total : ℕ} (hmeasured : total < 2 ^ 63 ∨ 2 ^ 64 ≤ total)
    (hlt : total < 2 ^ 64 + 2 ^ 63) : int total = (total % 2 ^ 64 : ℕ) := by
  rcases hmeasured with hsmall | hlarge
  · rw [int_of_lt hsmall]
    omega
  · rw [int_of_ge (by omega) hlt]
    omega

section

variable {wasm : Bytes} {target : Text} {pos start finish length nameStart : ℕ}
  {offset : ℤ}

/-- A name that ends before it starts is sliced all the same. -/
lemma readCustom_panics (hnumber : number wasm start = some (length, nameStart))
    (hstart : start ≤ wasm.length) (hle : int (nameStart + length : ℕ) ≤ offset)
    (hlt : int (nameStart + length : ℕ) < nameStart) :
    readCustom wasm target pos start offset = none := by
  rw [readCustom_eq hstart, hnumber]
  simp only [if_pos hle, slice_of_gt hlt]
  rfl

/-- A custom section with another name is passed over. -/
lemma readCustom_passes (hstart : start ≤ wasm.length)
    (hlength : wasm.length < 2 ^ 63) (hfinish : finish ≤ wasm.length)
    (hmeasured : ∀ length nameStart, number wasm start = some (length, nameStart) →
      nameStart + length < 2 ^ 63 ∨ 2 ^ 64 + finish < nameStart + length)
    (hnamed : ¬ Named wasm target start finish) :
    readCustom wasm target pos start finish = some (.inl (finish : ℤ)) := by
  rw [readCustom_eq hstart]
  cases hnumber : number wasm start with
  | none => rfl
  | some read =>
    obtain ⟨length, nameStart⟩ := read
    have hbounds := number_bounds hnumber
    simp only
    rcases hmeasured length nameStart hnumber with hsmall | hlarge
    · rw [int_of_lt hsmall]
      by_cases hinside : nameStart + length ≤ finish
      · have hother : (wasm.take (nameStart + length)).drop nameStart ≠ target :=
          fun hname => hnamed ⟨length, nameStart, hnumber, hinside, hname⟩
        rw [if_pos (by exact_mod_cast hinside),
          slice_of_le (Nat.le_add_right _ _) (hinside.trans hfinish)]
        exact if_neg hother
      · rw [if_neg (by exact_mod_cast hinside)]
    · rw [int_of_ge (by omega) (by omega), if_neg (by omega)]

/-- The wanted section is cut out. -/
lemma readCustom_finds (hstart : start ≤ wasm.length)
    (hlength : wasm.length < 2 ^ 63) (hposition : pos ≤ wasm.length)
    (hfinish : finish ≤ wasm.length)
    (hnumber : number wasm start = some (length, nameStart))
    (hinside : nameStart + length ≤ finish)
    (hname : (wasm.take (nameStart + length)).drop nameStart = target) :
    readCustom wasm target pos start finish =
      some (.inr (.found ((wasm.take finish).drop (nameStart + length))
        (wasm.take pos ++ wasm.drop finish))) := by
  have hbefore : slice wasm 0 pos = some (wasm.take pos) := by
    have hzero := slice_of_le (Nat.zero_le pos) hposition
    rwa [List.drop_zero] at hzero
  rw [readCustom_eq hstart, hnumber]
  simp only
  rw [int_of_lt (by omega), if_pos (by exact_mod_cast hinside),
    slice_of_le (Nat.le_add_right _ _) (hinside.trans hfinish), slice_of_le hinside hfinish,
    hbefore, slice_tail hfinish]
  exact if_pos hname

/-- What is cut out is one section: its header and its payload. -/
lemma exact_found {size : ℕ} (hid : wasm[pos]? = some 0)
    (hsize : number wasm (pos + 1) = some (size, start))
    (hfinish : finish = (start + size) % 2 ^ 64) (hlength : wasm.length < 2 ^ 63)
    (hinside : finish ≤ wasm.length)
    (hnumber : number wasm start = some (length, nameStart))
    (hend : nameStart + length ≤ finish)
    (hname : (wasm.take (nameStart + length)).drop nameStart = target) :
    Exact wasm target (.found ((wasm.take finish).drop (nameStart + length))
      (wasm.take pos ++ wasm.drop finish)) := by
  obtain ⟨sizeBytes, hsizeBytes, hstart, hdropStart⟩ := number_spells hsize
  obtain ⟨nameLenBytes, hnameLen, hnameStart, hdropName⟩ := number_spells hnumber
  have hposition : pos < wasm.length := (List.getElem?_eq_some_iff.mp hid).1
  have hbounds := number_bounds hsize
  have hnameLength : target.length = length := by
    rw [← hname, List.length_drop, List.length_take]
    omega
  have hdataLength : ((wasm.take finish).drop (nameStart + length)).length =
      finish - (nameStart + length) := by
    rw [List.length_drop, List.length_take]
    omega
  -- A size that wraps would put the end of the section before its start.
  refine ⟨wasm.take pos, 0 :: (sizeBytes ++ (nameLenBytes ++ target)),
    wasm.drop finish, ?_, rfl, sizeBytes, nameLenBytes, rfl, ?_, hnameLength ▸ hnameLen⟩
  · have hdata : wasm.drop (nameStart + length) =
        (wasm.take finish).drop (nameStart + length) ++ wasm.drop finish := by
      rw [← List.drop_append_of_le_length (by rw [List.length_take]; omega),
        List.take_append_drop]
    have hcalled : wasm.drop nameStart = target ++ wasm.drop (nameStart + length) := by
      rw [← hname, ← List.drop_append_of_le_length (by rw [List.length_take]; omega),
        List.take_append_drop]
    calc wasm = wasm.take pos ++ wasm.drop pos := (List.take_append_drop _ _).symm
      _ = wasm.take pos ++ (0 :: wasm.drop (pos + 1)) := by
          rw [List.drop_eq_getElem_cons hposition, (List.getElem?_eq_some_iff.mp hid).2]
      _ = _ := by
          rw [hdropStart, hdropName, hcalled, hdata]
          simp only [List.cons_append, List.append_assoc]
  · have hsum : nameLenBytes.length + target.length +
        ((wasm.take finish).drop (nameStart + length)).length = size := by
      omega
    rw [hsum]
    exact hsizeBytes

section

variable (hlength : wasm.length < 2 ^ 63) (hmeasured : Measured wasm pos)

include hlength hmeasured

/-- A harmless header that is passed over takes the loop to the section's end. -/
lemma turn_passes (hpasses : Passes wasm target pos finish) :
    turn wasm target pos = .inl (finish : ℤ) := by
  obtain ⟨id, size, start, hid, hsize, hfinish, hinside, hnamed⟩ := hpasses
  have hposition : pos < wasm.length := (List.getElem?_eq_some_iff.mp hid).1
  have hbounds := number_bounds hsize
  have hend : int (start + size : ℕ) = finish := by
    rw [hfinish]
    exact int_of_measured (hmeasured.size size start hposition hsize) (by omega)
  rw [turn_of_getElem? hid, readSection_eq hid, hsize]
  simp only [hend]
  rw [if_neg (by exact_mod_cast not_lt.mpr hinside)]
  by_cases hcustom : id = 0
  · have hnames : ∀ length nameStart, number wasm start = some (length, nameStart) →
        nameStart + length < 2 ^ 63 ∨ 2 ^ 64 + finish < nameStart + length := by
      intro length nameStart hnumber
      rw [hfinish]
      exact hmeasured.name size start length nameStart (hcustom ▸ hid) hsize (hfinish ▸ hinside)
        hnumber
    rw [if_pos hcustom, readCustom_passes hbounds.2.1 hlength hinside hnames
      fun hother => hnamed ⟨hcustom, hother⟩]
    rfl
  · rw [if_neg hcustom]
    rfl

/-- A harmless header is passed over, or the loop ends there with a proper result. -/
lemma turn_of_measured : (∃ finish, Passes wasm target pos finish) ∨
      ∃ result, turn wasm target pos = .inr result ∧ Exact wasm target result := by
  cases hid : wasm[pos]? with
  | none =>
    have hbehind : wasm.length ≤ pos := List.getElem?_eq_none_iff.mp hid
    refine .inr ⟨.sectionNotFound, ?_, trivial⟩
    rw [turn, if_neg (by exact_mod_cast not_lt.mpr hbehind)]
  | some id =>
    have hposition : pos < wasm.length := (List.getElem?_eq_some_iff.mp hid).1
    rw [turn_of_getElem? hid, readSection_eq hid]
    cases hsize : number wasm (pos + 1) with
    | none => exact .inr ⟨.invalidWasm, rfl, trivial⟩
    | some read =>
      obtain ⟨size, start⟩ := read
      have hbounds := number_bounds hsize
      have hend := int_of_measured (hmeasured.size size start hposition hsize) (by omega)
      simp only [hend]
      by_cases hinside : (start + size) % 2 ^ 64 ≤ wasm.length
      · by_cases hwanted : id = 0 ∧ Named wasm target start ((start + size) % 2 ^ 64)
        · obtain ⟨hcustom, length, nameStart, hnumber, hle, hname⟩ := hwanted
          rw [if_neg (by exact_mod_cast not_lt.mpr hinside), if_pos hcustom,
            readCustom_finds hbounds.2.1 hlength hposition.le hinside hnumber hle hname]
          exact .inr ⟨_, rfl, exact_found (hcustom ▸ hid) hsize rfl hlength hinside hnumber
            hle hname⟩
        · exact .inl ⟨_, id, size, start, hid, hsize, rfl, hinside, hwanted⟩
      · rw [if_pos (by exact_mod_cast not_le.mp hinside)]
        exact .inr ⟨.invalidWasm, rfl, trivial⟩

end

/-- A header whose section ends in the upper half sends the loop to a negative
position, if slicing the name does not already panic. -/
lemma panics_of_size {size : ℕ} {id : UInt8} (hid : wasm[pos]? = some id)
    (hsize : number wasm (pos + 1) = some (size, start))
    (hge : 2 ^ 63 ≤ start + size) (hlt : start + size < 2 ^ 64) :
    ∃ fuel, loop (turn wasm target) fuel pos = some .panicked := by
  have hbounds := number_bounds hsize
  have hend : int (start + size : ℕ) = (start + size : ℕ) - 2 ^ 64 := int_of_ge hge (by omega)
  have hneg : int (start + size : ℕ) < 0 := by omega
  have hgoes : (turn wasm target pos = .inr .panicked) ∨
      turn wasm target pos = .inl (int (start + size : ℕ)) := by
    rw [turn_of_getElem? hid, readSection_eq hid, hsize]
    simp only
    rw [if_neg (by omega)]
    by_cases hcustom : id = 0
    · rw [if_pos hcustom]
      cases hnumber : number wasm start with
      | none =>
        right
        rw [readCustom_eq hbounds.2.1, hnumber]
        rfl
      | some read =>
        obtain ⟨length, nameStart⟩ := read
        by_cases hle : int (nameStart + length : ℕ) ≤ int (start + size : ℕ)
        · left
          rw [readCustom_panics hnumber hbounds.2.1 hle (by omega)]
          rfl
        · right
          rw [readCustom_eq hbounds.2.1, hnumber]
          simp only [if_neg hle]
          rfl
    · right
      rw [if_neg hcustom]
      rfl
  rcases hgoes with hpanics | hcontinues
  · exact ⟨1, loop_of_leaves hpanics⟩
  · exact ⟨2, (loop_of_continues hcontinues).trans (loop_of_leaves (turn_of_neg hneg))⟩

/-- A header that is not harmless makes the call panic. -/
lemma panics_of_not_measured (hlength : wasm.length < 2 ^ 63) (hmeasured : ¬ Measured wasm pos) :
    ∃ fuel, loop (turn wasm target) fuel pos = some .panicked := by
  by_contra hnever
  apply hmeasured
  have hsizes : ∀ size start, pos < wasm.length → number wasm (pos + 1) = some (size, start) →
      start + size < 2 ^ 63 ∨ 2 ^ 64 ≤ start + size := by
    intro size start hposition hsize
    by_contra! hends
    exact hnever (panics_of_size (List.getElem?_eq_getElem hposition) hsize hends.1 hends.2)
  refine ⟨hsizes, ?_⟩
  intro size start length nameStart hid hsize hinside hnumber
  by_contra! hends
  have hposition : pos < wasm.length := (List.getElem?_eq_some_iff.mp hid).1
  have hbounds := number_bounds hsize
  have hnameBounds := number_bounds hnumber
  have hend := int_of_measured (hsizes size start hposition hsize) (by omega)
  have hname : int (nameStart + length : ℕ) = (nameStart + length : ℕ) - 2 ^ 64 :=
    int_of_ge hends.1 (by omega)
  have hpanics : turn wasm target pos = .inr .panicked := by
    rw [turn_of_getElem? hid, readSection_eq hid, hsize]
    simp only [hend]
    rw [if_neg (by exact_mod_cast not_lt.mpr hinside),
      readCustom_panics hnumber hbounds.2.1 (by omega) (by omega)]
    rfl
  exact hnever ⟨1, loop_of_leaves hpanics⟩

end

section

variable {wasm : Bytes} {target : Text} {pos : ℕ} {offset : ℤ}

/-- The loop goes on from positions inside the module only. -/
lemma continues_inside {next : ℤ} (hcontinues : Continues (turn wasm target) offset next) :
    offset ∈ (Finset.range wasm.length).map Nat.castEmbedding := by
  have hinside : offset < wasm.length := by
    by_contra hbehind
    rw [Continues, turn, if_neg hbehind] at hcontinues
    exact Sum.inr_ne_inl hcontinues
  have hpos : 0 ≤ offset := by
    by_contra hneg
    rw [Continues, turn_of_neg (not_le.mp hneg)] at hcontinues
    exact Sum.inr_ne_inl hcontinues
  rw [Finset.mem_map]
  exact ⟨offset.toNat, Finset.mem_range.mpr (by omega), Int.toNat_of_nonneg hpos⟩

variable (hlength : wasm.length < 2 ^ 63)

include hlength

lemma passes_of_continues (hmeasured : Measured wasm pos)
    (hcontinues : Continues (turn wasm target) pos offset) :
    ∃ finish : ℕ, offset = finish ∧ Passes wasm target pos finish := by
  rcases turn_of_measured hlength hmeasured with ⟨finish, hpasses⟩ | ⟨result, hleaves, _⟩
  · have hgoes := turn_passes hlength hmeasured hpasses
    exact ⟨finish, Sum.inl.inj (hcontinues.symm.trans hgoes), hpasses⟩
  · exact absurd (hcontinues.symm.trans hleaves) Sum.inl_ne_inr

section

variable (hmeasured : ∀ pos, ReflTransGen (Passes wasm target) 8 pos → Measured wasm pos)

include hmeasured

/-- On a module whose headers are harmless the loop goes from header to header. -/
lemma reached_of_measured (hreached : ReflTransGen (Continues (turn wasm target)) 8 offset) :
    ∃ pos : ℕ, offset = pos ∧ ReflTransGen (Passes wasm target) 8 pos := by
  induction hreached with
  | refl => exact ⟨8, rfl, .refl⟩
  | tail _ hcontinues ih =>
    obtain ⟨pos, rfl, hreached⟩ := ih
    obtain ⟨finish, rfl, hpasses⟩ :=
      passes_of_continues hlength (hmeasured pos hreached) hcontinues
    exact ⟨finish, rfl, hreached.tail hpasses⟩

lemma transGen_passes (hreached : ReflTransGen (Passes wasm target) 8 pos)
    (hlater : TransGen (Continues (turn wasm target)) pos offset) :
    ∃ later : ℕ, offset = later ∧ TransGen (Passes wasm target) pos later := by
  induction hlater with
  | single hcontinues =>
    obtain ⟨finish, rfl, hpasses⟩ :=
      passes_of_continues hlength (hmeasured pos hreached) hcontinues
    exact ⟨finish, rfl, .single hpasses⟩
  | tail _ hcontinues ih =>
    obtain ⟨later, rfl, hpassed⟩ := ih
    obtain ⟨finish, rfl, hpasses⟩ := passes_of_continues hlength
      (hmeasured later (hreached.trans hpassed.to_reflTransGen)) hcontinues
    exact ⟨finish, rfl, hpassed.tail hpasses⟩

end

section

variable {result : Extraction}
  (hreturns : ∃ fuel, loop (turn wasm target) fuel 8 = some result)
  (hresult : result ≠ .panicked)

include hreturns hresult

/-- A loop that returns without a panic has only come to harmless headers. -/
lemma measured_of_returns (hreached : ReflTransGen (Continues (turn wasm target)) 8 (pos : ℤ)) :
    Measured wasm pos := by
  by_contra hmeasured
  obtain ⟨fuel, hpanics⟩ := panics_of_not_measured hlength hmeasured
  obtain ⟨turns, hloop⟩ := loop_returns_of_reaches hreturns hreached
  exact hresult (loop_unique hloop hpanics)

/-- So it has followed the headers. -/
lemma continues_of_reached (hreached : ReflTransGen (Passes wasm target) 8 pos) :
    ReflTransGen (Continues (turn wasm target)) 8 (pos : ℤ) := by
  induction hreached with
  | refl => exact .refl
  | tail _ hpasses ih =>
    have hmeasured := measured_of_returns hlength hreturns hresult ih
    exact ih.tail (turn_passes hlength hmeasured hpasses)

/-- A loop that returns without a panic comes to no header twice. -/
lemma acyclic_of_returns (hreached : ReflTransGen (Passes wasm target) 8 pos) :
    ¬ TransGen (Passes wasm target) pos pos := by
  have hpath : ∀ later, TransGen (Passes wasm target) pos later →
      TransGen (Continues (turn wasm target)) (pos : ℤ) (later : ℤ) := by
    intro later hlater
    have hstep : ∀ here there, ReflTransGen (Passes wasm target) pos here →
        Passes wasm target here there →
        Continues (turn wasm target) (here : ℤ) (there : ℤ) := by
      intro here there hhere hpasses
      have hfrom := continues_of_reached hlength hreturns hresult (hreached.trans hhere)
      exact turn_passes hlength (measured_of_returns hlength hreturns hresult hfrom) hpasses
    induction hlater with
    | single hpasses => exact .single (hstep _ _ .refl hpasses)
    | tail hpassed hpasses ih => exact ih.tail (hstep _ _ hpassed.to_reflTransGen hpasses)
  intro hcycle
  have hhere := continues_of_reached hlength hreturns hresult hreached
  exact not_returns_to_itself (loop_returns_of_reaches hreturns hhere) (hpath pos hcycle)

end

/-- On a sane module the loop ends with a proper result. -/
lemma returns_of_sane (hmagic : wasm.take 8 = wasmMagic) (hsane : Sane wasm target) :
    ∃ fuel result, loop (turn wasm target) fuel 8 = some result ∧ Exact wasm target result := by
  have hmeasured := fun pos hreached => (hsane hmagic pos hreached).1
  obtain ⟨result, hloop⟩ := loop_returns_of_acyclic
    ((Finset.range wasm.length).map Nat.castEmbedding)
    (fun here there _ hcontinues => continues_inside hcontinues)
    (fun here hreached hcycle => by
      obtain ⟨pos, rfl, hposition⟩ := reached_of_measured hlength hmeasured hreached
      obtain ⟨later, heq, hlater⟩ := transGen_passes hlength hmeasured hposition hcycle
      rw [← Nat.cast_injective heq] at hlater
      exact (hsane hmagic pos hposition).2 hlater)
  obtain ⟨last, hreached, hleaves⟩ := loop_returns_iff.mp ⟨_, hloop⟩
  obtain ⟨pos, rfl, hposition⟩ := reached_of_measured hlength hmeasured hreached
  have hhere := hmeasured pos hposition
  rcases turn_of_measured hlength hhere with ⟨finish, hpasses⟩ | ⟨proper, hends, hexact⟩
  · exact absurd ((turn_passes hlength hhere hpasses).symm.trans hleaves) Sum.inl_ne_inr
  · rw [Sum.inr.inj (hleaves.symm.trans hends)] at hloop
    exact ⟨_, proper, hloop, hexact⟩

end

lemma magic_length (hmagic : wasm.take 8 = wasmMagic) : ¬ wasm.length < 8 := by
  have hlength := congrArg List.length hmagic
  rw [List.length_take] at hlength
  change min 8 wasm.length = 8 at hlength
  omega

lemma extractWithin_of_magic {wasm : ByteSlice} {fuel : ℕ}
    (hmagic : wasm.bytes.take 8 = wasmMagic) :
    extractWithin fuel wasm target = loop (turn wasm.bytes target) fuel 8 := by
  rw [extractWithin, if_neg]
  intro hrefused
  exact hrefused.elim (magic_length hmagic) (fun hother => hother hmagic)

/-- The turns that `extractCustomSection` allows are enough. -/
lemma extractCustomSection_eq_some_iff {wasm : ByteSlice} {result : Extraction} :
    extractCustomSection wasm target = some result ↔
      ∃ fuel, extractWithin fuel wasm target = some result := by
  constructor
  · intro hcall
    exact ⟨_, hcall⟩
  · intro hcall
    obtain ⟨fuel, hcall⟩ := hcall
    by_cases hmagic : wasm.bytes.take 8 = wasmMagic
    · rw [extractWithin_of_magic hmagic] at hcall
      have hwithin := loop_returns_within ((Finset.range wasm.bytes.length).map Nat.castEmbedding)
        (fun here there _ hcontinues => continues_inside hcontinues) ⟨fuel, hcall⟩
      rw [Finset.card_map, Finset.card_range] at hwithin
      exact (extractWithin_of_magic hmagic).trans hwithin
    · rw [extractWithin, if_pos (.inr hmagic)] at hcall
      exact (if_pos (.inr hmagic)).trans hcall

/-- A call returns an error, or a payload and a remainder that make up the module with
one section header, exactly on the sane modules.  On every other it panics or does not
return. -/
theorem extractCustomSection_safe_iff (wasm : ByteSlice) (target : Text) :
    (∃ fuel result, extractWithin fuel wasm target = some result ∧
      Exact wasm.bytes target result) ↔ Sane wasm.bytes target := by
  constructor
  · intro hsafe hmagic pos hreached
    obtain ⟨fuel, result, hcall, hexact⟩ := hsafe
    rw [extractWithin_of_magic hmagic] at hcall
    have hresult : result ≠ .panicked := by
      intro heq
      rw [heq] at hexact
      exact hexact
    have hhere := continues_of_reached wasm.fits ⟨fuel, hcall⟩ hresult hreached
    exact ⟨measured_of_returns wasm.fits ⟨fuel, hcall⟩ hresult hhere,
      acyclic_of_returns wasm.fits ⟨fuel, hcall⟩ hresult hreached⟩
  · intro hsane
    by_cases hmagic : wasm.bytes.take 8 = wasmMagic
    · obtain ⟨fuel, result, hloop, hexact⟩ := returns_of_sane wasm.fits hmagic hsane
      exact ⟨fuel, result, (extractWithin_of_magic hmagic).trans hloop, hexact⟩
    · exact ⟨0, .invalidWasm, if_pos (.inr hmagic), trivial⟩

/-- A module of one section whose size leads back to that section. -/
def backwards : ByteSlice where
  bytes := wasmMagic ++ [1, 0xf5, 0xff, 0xff, 0xff, 0xff, 0xff, 0xff, 0xff, 0xff, 0x01]
  fits := by decide

/-- A module of one section whose size leads to a negative position. -/
def beyond : ByteSlice where
  bytes := wasmMagic ++ [1, 0xff, 0xff, 0xff, 0xff, 0xff, 0xff, 0xff, 0xff, 0x7f]
  fits := by decide

/-- On the first module the call never returns, and on the second it panics. -/
theorem hostile_sizes : (∀ fuel, extractWithin fuel backwards (utf8 "fluxrig.signature") = none) ∧
      extractCustomSection beyond (utf8 "fluxrig.signature") = some .panicked := by
  have hback : Continues (turn backwards.bytes (utf8 "fluxrig.signature")) 8 8 := by
    change turn backwards.bytes (utf8 "fluxrig.signature") 8 = .inl 8
    decide +kernel
  refine ⟨fun fuel => ?_, by decide +kernel⟩
  rw [extractWithin_of_magic rfl]
  induction fuel with
  | zero => rfl
  | succ _ ih => exact (loop_of_continues hback).trans ih

end Fluxrig.Wasm
