import Fluxrig.Message.FluxMsg

/-!
# Texts as runes

A Go string is a sequence of bytes.  Ranging over it yields one rune for each well-formed
UTF-8 sequence and one replacement rune for each byte that belongs to none.
-/

namespace Fluxrig.Message

/-- The length of the UTF-8 sequence at the front, if there is one. -/
def runeLength (text : Text) : Option ℕ :=
  (ByteArray.utf8DecodeChar? ⟨text.toArray⟩ 0).map Char.utf8Size

/-- The runes of a text, as the bytes of each, with `none` for a byte that belongs to no
rune.  `fuel` bounds the number of runes. -/
def runesWithin : ℕ → Text → List (Option Text)
  | 0, _ => []
  | _ + 1, [] => []
  | fuel + 1, byte :: rest =>
      match runeLength (byte :: rest) with
      | some length =>
          some ((byte :: rest).take length) :: runesWithin fuel ((byte :: rest).drop length)
      | none => none :: runesWithin fuel rest

def runes (text : Text) : List (Option Text) := runesWithin text.length text

/-- U+FFFD. -/
def replacementRune : Text := [0xEF, 0xBF, 0xBD]

/-- `strings.ToValidUTF8` with one replacement rune for each bad byte. -/
def replaceInvalid (text : Text) : Text :=
  (runes text).flatMap fun rune => rune.getD replacementRune

end Fluxrig.Message
