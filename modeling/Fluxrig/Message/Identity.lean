import Fluxrig.Message.FluxMsg

/-!
# Identities in print

`uuid.UUID.String` prints the 32 hexadecimal digits of an identity in five groups.
Different identities print differently.
-/

namespace Fluxrig.Message

def hexDigit (digit : BitVec 4) : UInt8 :=
  UInt8.ofNat (if digit.toNat < 10 then 48 + digit.toNat else 87 + digit.toNat)

/-- The digit at a place, counted from the most significant one. -/
def hexPlace (id : BitVec 128) (place : Fin 32) : BitVec 4 :=
  id.extractLsb' (4 * (31 - place.val)) 4

/-- The places of the digits, with `none` for a dash. -/
def uuidLayout : List (Option (Fin 32)) :=
  let places := List.finRange 32
  (places.take 8).map some ++ none :: (((places.drop 8).take 4).map some ++
    none :: (((places.drop 12).take 4).map some ++ none ::
      (((places.drop 16).take 4).map some ++ none :: (places.drop 20).map some)))

def uuidSymbol (id : BitVec 128) : Option (Fin 32) → UInt8
  | some place => hexDigit (hexPlace id place)
  | none => 45

/-- `uuid.UUID.String`. -/
def uuidString (id : BitVec 128) : Text := uuidLayout.map (uuidSymbol id)

lemma length_uuidString (id : BitVec 128) : (uuidString id).length = 36 := by
  rfl

lemma hexDigit_injective : Function.Injective hexDigit := by
  intro left right heq
  have hsame := congrArg UInt8.toNat heq
  rw [hexDigit, hexDigit, UInt8.toNat_ofNat', UInt8.toNat_ofNat'] at hsame
  apply BitVec.eq_of_toNat_eq
  split_ifs at hsame <;> omega

lemma mem_uuidLayout (place : Fin 32) : some place ∈ uuidLayout := by
  revert place
  decide

lemma uuidString_injective : Function.Injective uuidString := by
  intro left right heq
  have hplaces : ∀ place, hexPlace left place = hexPlace right place := by
    intro place
    have hsymbol := List.map_inj_left.mp heq (some place) (mem_uuidLayout place)
    exact hexDigit_injective hsymbol
  apply BitVec.eq_of_getLsbD_eq
  intro bit hbit
  have hplace := hplaces ⟨31 - bit / 4, by omega⟩
  have hdigit := congrArg (fun digit : BitVec 4 => digit.getLsbD (bit % 4)) hplace
  have hlow : bit % 4 < 4 := Nat.mod_lt bit (by decide)
  have hoffset : 4 * (31 - (31 - bit / 4)) + bit % 4 = bit := by omega
  simpa only [hexPlace, BitVec.getLsbD_extractLsb', hlow, decide_true, Bool.true_and, hoffset]
    using hdigit

end Fluxrig.Message
