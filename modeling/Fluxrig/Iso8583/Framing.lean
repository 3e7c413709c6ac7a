import Fluxrig.Core.Checks
import Fluxrig.Core.Numeral
import Fluxrig.Message.FluxMsg

/-!
# Length-prefixed frames

The I/O gear puts a length before every payload and cuts the stream of the peer
along those lengths.  A prefix has two or four bytes in either order and may count
itself.  Reading refuses more than 65535 bytes whatever the prefix can hold, and
building does not, so `frames_roundtrip_iff` needs payloads within that limit.
-/

namespace Fluxrig.Iso8583

open Fluxrig.Core Message

/-- The settings `Validate` and the frames read. -/
structure Config where
  mode : Text
  bind : Text
  connect : Text
  frameLengthSize : ℤ
  frameIncludesHeader : Bool
  frameLengthEndian : Text
  variant : Text
  encoding : Text
  protocolHeaderSize : ℤ
  onMissingConnection : Text

def modeServer : Text := utf8 "server"
def modeClient : Text := utf8 "client"
def endianBig : Text := utf8 "big"
def endianLittle : Text := utf8 "little"
def variantGeneric : Text := utf8 "generic"
def variantVisa : Text := utf8 "visa"
def variantMastercard : Text := utf8 "mastercard"
def encodingASCII : Text := utf8 "ascii"
def encodingEBCDIC : Text := utf8 "ebcdic"
def onMissingDrop : Text := utf8 "drop"
def onMissingSameIP : Text := utf8 "same_remote_ip"
def onMissingListener : Text := utf8 "same_listener"

namespace Config

/-- The value, or a default for the empty one. -/
def orDefault {Item : Type} [DecidableEq Item] (empty value default : Item) : Item :=
  if value = empty then default else value

/-- The settings the variant implies. -/
def applyVariant (cfg : Config) : Config :=
  if cfg.variant = variantVisa then
    { cfg with
      encoding := orDefault [] cfg.encoding encodingEBCDIC
      protocolHeaderSize := orDefault 0 cfg.protocolHeaderSize 22
      frameLengthSize := orDefault 0 cfg.frameLengthSize 2
      frameLengthEndian := orDefault [] cfg.frameLengthEndian endianBig }
  else if cfg.variant = variantMastercard then
    { cfg with encoding := orDefault [] cfg.encoding encodingASCII }
  else cfg

def applyDefaults (cfg : Config) : Config :=
  let named := { cfg with variant := orDefault [] cfg.variant variantGeneric }
  let preset := named.applyVariant
  { preset with
    onMissingConnection := orDefault [] preset.onMissingConnection onMissingDrop
    encoding := orDefault [] preset.encoding encodingASCII
    frameLengthEndian := orDefault [] preset.frameLengthEndian endianBig
    frameLengthSize := orDefault 0 preset.frameLengthSize 2 }

end Config

inductive ConfigErr where
  | bindRequired
  | connectRequired
  | invalidMode (mode : Text)
  | frameLengthSize (size : ℤ)
  | frameLengthEndian (endian : Text)
  | serverModeOnly (policy : Text)
  | onMissingConnection (policy : Text)
  deriving DecidableEq

namespace Config

variable (cfg : Config)

def checkMode : Except ConfigErr Unit :=
  if cfg.mode = modeServer then
    if cfg.bind = [] then .error .bindRequired else .ok ()
  else if cfg.mode = modeClient then
    if cfg.connect = [] then .error .connectRequired else .ok ()
  else .error (.invalidMode cfg.mode)

def checkFrame : Except ConfigErr Unit :=
  if cfg.frameLengthSize ≠ 2 ∧ cfg.frameLengthSize ≠ 4 then
    .error (.frameLengthSize cfg.frameLengthSize)
  else if cfg.frameLengthEndian ≠ endianBig ∧ cfg.frameLengthEndian ≠ endianLittle then
    .error (.frameLengthEndian cfg.frameLengthEndian)
  else .ok ()

def checkMissing : Except ConfigErr Unit :=
  if cfg.onMissingConnection = onMissingDrop then .ok ()
  else if cfg.onMissingConnection = onMissingSameIP ∨
      cfg.onMissingConnection = onMissingListener then
    if cfg.mode ≠ modeServer then .error (.serverModeOnly cfg.onMissingConnection)
    else .ok ()
  else .error (.onMissingConnection cfg.onMissingConnection)

/-- `Validate`, with the configuration it leaves behind. -/
def validate : Except ConfigErr Config := do
  let final := cfg.applyDefaults
  final.checkMode
  final.checkFrame
  final.checkMissing
  .ok final

end Config

inductive FrameErr where
  | payloadTooLarge (length : ℕ)

inductive ReadErr where
  | eof
  | unexpectedEOF
  | invalidLength (length : ℤ)
  deriving DecidableEq

/-- How many bytes the prefix has. -/
def Config.prefixSize (cfg : Config) : ℕ := cfg.frameLengthSize.toNat

/-- What the prefix counts besides the payload. -/
def Config.counted (cfg : Config) : ℕ :=
  if cfg.frameIncludesHeader then cfg.prefixSize else 0

/-- The prefix of a number: `PutUint16` for two bytes, otherwise `PutUint32`. -/
def Config.putLength (cfg : Config) (number : ℕ) : Text :=
  let bytes := bytesOf (if cfg.frameLengthSize = 2 then 2 else 4) number
  if cfg.frameLengthEndian = endianLittle then bytes.reverse else bytes

/-- `Uint16` and `Uint32`. -/
def Config.readLength (cfg : Config) (header : Text) : ℕ :=
  if cfg.frameLengthEndian = endianLittle then numeral 256 UInt8.toNat header.reverse
  else numeral 256 UInt8.toNat header

def buildFrame (cfg : Config) (payload : Text) : Except FrameErr Text :=
  let totalLen := payload.length + cfg.counted
  if cfg.frameLengthSize = 2 ∧ 65535 < totalLen then .error (.payloadTooLarge totalLen)
  else .ok (cfg.putLength totalLen ++ payload)

/-- `io.ReadFull` of `count` bytes, and what is left of the stream. -/
def readFull (count : ℕ) (input : Text) : Except ReadErr (Text × Text) :=
  if count ≤ input.length then .ok (input.take count, input.drop count)
  else if input = [] then .error .eof
  else .error .unexpectedEOF

def readFrame (cfg : Config) (input : Text) : Except ReadErr (Text × Text) := do
  let (header, body) ← readFull cfg.prefixSize input
  let length : ℤ := cfg.readLength header - cfg.counted
  if length ≤ 0 ∨ 65535 < length then .error (.invalidLength length)
  else readFull length.toNat body

namespace Server

def buildFrame (cfg : Config) (payload : Text) : Except FrameErr Text :=
  Iso8583.buildFrame cfg payload

def readFrame (cfg : Config) (input : Text) : Except ReadErr (Text × Text) :=
  Iso8583.readFrame cfg input

end Server

namespace Client

def buildFrame (cfg : Config) (payload : Text) : Except FrameErr Text :=
  Iso8583.buildFrame cfg payload

def readFrame (cfg : Config) (input : Text) : Except ReadErr (Text × Text) :=
  Iso8583.readFrame cfg input

end Client

/-- Which of the two gears is at one end of the connection. -/
inductive Side where
  | server
  | client

def Side.buildFrame : Side → Config → Text → Except FrameErr Text
  | .server => Server.buildFrame
  | .client => Client.buildFrame

def Side.readFrame : Side → Config → Text → Except ReadErr (Text × Text)
  | .server => Server.readFrame
  | .client => Client.readFrame

lemma Side.buildFrame_eq (side : Side) : side.buildFrame = Iso8583.buildFrame := by
  cases side <;> rfl

lemma Side.readFrame_eq (side : Side) : side.readFrame = Iso8583.readFrame := by
  cases side <;> rfl

variable {rest input payload : Text} {cfg raw : Config} {side : Side}

lemma readFull_append {bytes : Text} {count : ℕ} (hcount : bytes.length = count) :
    readFull count (bytes ++ rest) = .ok (bytes, rest) := by
  have hfits : count ≤ (bytes ++ rest).length := by
    rw [List.length_append, hcount]
    exact Nat.le_add_right _ _
  rw [readFull, if_pos hfits, ← hcount, List.take_left, List.drop_left]

lemma readFull_ok {count : ℕ} {bytes : Text} (hok : readFull count input = .ok (bytes, rest)) :
    bytes.length = count ∧ bytes ++ rest = input := by
  rw [readFull] at hok
  split at hok
  · rename_i hfits
    cases hok
    exact ⟨List.length_take_of_le hfits, List.take_append_drop _ _⟩
  · split at hok <;> nomatch hok

/-- What a successful read returns. -/
lemma readFrame_ok (hok : readFrame cfg input = .ok (payload, rest)) :
    ∃ header, header.length = cfg.prefixSize ∧ header ++ (payload ++ rest) = input ∧
      0 < payload.length ∧ payload.length ≤ 65535 := by
  rw [readFrame, bind_eq_ok] at hok
  obtain ⟨⟨header, body⟩, hheader, hbody⟩ := hok
  obtain ⟨hlength, hsplit⟩ := readFull_ok hheader
  rw [guard_eq_ok, not_or, not_lt] at hbody
  obtain ⟨hrange, hpayload⟩ := hbody
  obtain ⟨hcount, hrest⟩ := readFull_ok hpayload
  exact ⟨header, hlength, by rw [hrest, hsplit], by omega, by omega⟩

lemma readFrame_shrinks (hok : side.readFrame cfg input = .ok (payload, rest)) :
    rest.length < input.length := by
  rw [side.readFrame_eq] at hok
  obtain ⟨header, -, hsplit, hpositive, -⟩ := readFrame_ok hok
  rw [← hsplit, List.length_append, List.length_append]
  omega

/-- The payloads read one after the other, and the error that ends the reading. -/
def readFrames (side : Side) (cfg : Config) (input : Text) : List Text × ReadErr :=
  match hread : side.readFrame cfg input with
  | .error err => ([], err)
  | .ok (payload, rest) =>
      let more := readFrames side cfg rest
      (payload :: more.1, more.2)
termination_by input.length
decreasing_by exact readFrame_shrinks hread

lemma readFrames_of_error {err : ReadErr} (herror : readFrame cfg input = .error err) :
    readFrames side cfg input = ([], err) := by
  rw [← side.readFrame_eq] at herror
  rw [readFrames]
  split
  · rename_i hread
    rw [herror] at hread
    rw [Except.error.inj hread]
  · rename_i hread
    rw [herror] at hread
    nomatch hread

lemma readFrames_of_ok (hok : readFrame cfg input = .ok (payload, rest)) :
    readFrames side cfg input =
      (payload :: (readFrames side cfg rest).1, (readFrames side cfg rest).2) := by
  rw [← side.readFrame_eq] at hok
  rw [readFrames]
  split
  · rename_i hread
    rw [hok] at hread
    nomatch hread
  · rename_i hread
    rw [hok] at hread
    cases hread
    rfl

section

variable (hvalid : raw.validate = .ok cfg)

include hvalid

lemma Config.validate_ok : cfg.frameLengthSize = 2 ∨ cfg.frameLengthSize = 4 := by
  simp only [Config.validate, bind_eq_ok, Except.ok.injEq] at hvalid
  obtain ⟨_, -, _, hframe, _, -, hfinal⟩ := hvalid
  rw [Config.checkFrame, guard_eq_ok] at hframe
  rw [← hfinal]
  omega

lemma readFrames_nil (side : Side) : readFrames side cfg [] = ([], .eof) := by
  apply readFrames_of_error
  have hsize : ¬ cfg.prefixSize ≤ 0 := by
    have hcases := Config.validate_ok hvalid
    rw [Config.prefixSize]
    omega
  rw [readFrame, readFull, List.length_nil, if_neg hsize]
  rfl

lemma length_putLength (number : ℕ) : (cfg.putLength number).length = cfg.prefixSize := by
  have hwidth : (if cfg.frameLengthSize = 2 then 2 else 4) = cfg.prefixSize := by
    rw [Config.prefixSize]
    cases Config.validate_ok hvalid with
    | inl htwo => rw [htwo, if_pos rfl]; rfl
    | inr hfour => rw [hfour, if_neg (by decide)]; rfl
  rw [Config.putLength, hwidth]
  split
  · rw [List.length_reverse, length_bytesOf]
  · rw [length_bytesOf]

end

lemma readLength_putLength (cfg : Config) (number : ℕ) : cfg.readLength (cfg.putLength number) =
      number % 256 ^ (if cfg.frameLengthSize = 2 then 2 else 4) := by
  rw [Config.readLength, Config.putLength]
  by_cases hlittle : cfg.frameLengthEndian = endianLittle
  · rw [if_pos hlittle, if_pos hlittle, List.reverse_reverse, numeral_bytesOf]
  · rw [if_neg hlittle, if_neg hlittle, numeral_bytesOf]

section

variable (hvalid : raw.validate = .ok cfg)

include hvalid

/-- How the reader goes on behind the prefix of a number. -/
lemma readFrame_putLength (number : ℕ) (body : Text) {length : ℤ}
    (hlength : (cfg.readLength (cfg.putLength number) : ℤ) - cfg.counted = length) :
    readFrame cfg (cfg.putLength number ++ body) =
      if length ≤ 0 ∨ 65535 < length then .error (.invalidLength length)
      else readFull length.toNat body := by
  subst hlength
  rw [readFrame, readFull_append (length_putLength hvalid number)]
  rfl

/-- A prefix the builder writes for a payload within the limit says its length. -/
lemma readLength_of_limit {size : ℕ} (hlimit : size ≤ 65535)
    (hfits : ¬ (cfg.frameLengthSize = 2 ∧ 65535 < size + cfg.counted)) :
    (cfg.readLength (cfg.putLength (size + cfg.counted)) : ℤ) - cfg.counted = size := by
  have hcounted : cfg.counted ≤ cfg.prefixSize := by
    rw [Config.counted]
    split <;> omega
  rw [Config.prefixSize] at hcounted
  rw [readLength_putLength, Nat.mod_eq_of_lt]
  · push_cast
    ring
  · cases Config.validate_ok hvalid with
    | inl htwo =>
      rw [if_pos htwo]
      omega
    | inr hfour =>
      rw [if_neg (by omega)]
      omega

/-- A frame within the limit is read back, whatever follows it. -/
lemma readFrame_buildFrame {frame : Text} (hok : buildFrame cfg payload = .ok frame)
    (hnonempty : payload ≠ []) (hlimit : payload.length ≤ 65535) (rest : Text) :
    readFrame cfg (frame ++ rest) = .ok (payload, rest) := by
  rw [buildFrame, guard_eq_ok, Except.ok.injEq] at hok
  obtain ⟨hfits, rfl⟩ := hok
  have hpositive := List.length_pos_iff.mpr hnonempty
  rw [List.append_assoc, readFrame_putLength hvalid _ _ (readLength_of_limit hvalid hlimit hfits),
    if_neg (by omega), Int.toNat_natCast, readFull_append rfl]

end

/-- The frames of the payloads, if all of them can be built. -/
def buildFrames (side : Side) (cfg : Config) (payloads : List Text) :
    Except FrameErr (List Text) :=
  payloads.mapM (side.buildFrame cfg)

lemma buildFrames_cons {payloads frames : List Text}
    (hok : buildFrames side cfg (payload :: payloads) = .ok frames) :
    ∃ frame more, buildFrame cfg payload = .ok frame ∧
      buildFrames side cfg payloads = .ok more ∧ frames = frame :: more := by
  rw [buildFrames, List.mapM_cons, bind_eq_ok, side.buildFrame_eq] at hok
  obtain ⟨frame, hframe, hrest⟩ := hok
  obtain ⟨more, hmore, hframes⟩ := bind_eq_ok.mp hrest
  refine ⟨frame, more, hframe, ?_, (Except.ok.inj hframes).symm⟩
  rw [buildFrames, side.buildFrame_eq]
  exact hmore

/-- Exactly when the frames of some payloads are read back as those payloads: no payload
may exceed what `readFrame` admits. -/
theorem frames_roundtrip_iff {raw cfg : Config} (hvalid : raw.validate = .ok cfg)
    (builder reader : Side) {payloads frames : List Text}
    (hnonempty : ∀ payload ∈ payloads, payload ≠ [])
    (hframes : buildFrames builder cfg payloads = .ok frames) :
    readFrames reader cfg frames.flatten = (payloads, .eof) ↔
      ∀ payload ∈ payloads, payload.length ≤ 65535 := by
  induction payloads generalizing frames with
  | nil =>
    obtain rfl : [] = frames := Except.ok.inj hframes
    simp [readFrames_nil hvalid]
  | cons payload _ ih =>
    rw [List.forall_mem_cons] at hnonempty ⊢
    obtain ⟨frame, more, hframe, hmore, rfl⟩ := buildFrames_cons hframes
    rw [List.flatten_cons]
    by_cases hlimit : payload.length ≤ 65535
    · have hread := readFrame_buildFrame hvalid hframe hnonempty.1 hlimit more.flatten
      rw [readFrames_of_ok hread, ← ih hnonempty.2 hmore]
      constructor
      · intro hall
        obtain ⟨hpayloads, herr⟩ := Prod.mk.inj hall
        exact ⟨hlimit, Prod.ext (List.cons.inj hpayloads).2 herr⟩
      · rintro ⟨-, hrest⟩
        rw [hrest]
    · refine iff_of_false ?_ (fun hall => hlimit hall.1)
      intro hall
      cases hread : readFrame cfg (frame ++ more.flatten) with
      | error =>
        rw [readFrames_of_error hread] at hall
        nomatch congrArg Prod.fst hall
      | ok result =>
        rw [readFrames_of_ok hread] at hall
        have hfirst : result.1 = payload := (List.cons.inj (congrArg Prod.fst hall)).1
        obtain ⟨header, -, -, -, hshort⟩ := readFrame_ok hread
        rw [hfirst] at hshort
        exact hlimit hshort

/-- A server with a little-endian prefix of two bytes that counts itself. -/
def shortPrefix : Config where
  mode := modeServer
  bind := utf8 ":9000"
  connect := []
  frameLengthSize := 0
  frameIncludesHeader := true
  frameLengthEndian := endianLittle
  variant := []
  encoding := []
  protocolHeaderSize := 0
  onMissingConnection := []

/-- A client that asks for a prefix of four bytes. -/
def longPrefix : Config where
  mode := modeClient
  bind := []
  connect := utf8 "localhost:9000"
  frameLengthSize := 4
  frameIncludesHeader := false
  frameLengthEndian := []
  variant := []
  encoding := []
  protocolHeaderSize := 0
  onMissingConnection := []

theorem short_frames_read_back :
    readFrames .client shortPrefix.applyDefaults [5, 0, 1, 2, 3, 3, 0, 9] =
      ([[1, 2, 3], [9]], .eof) := by
  have hvalid : shortPrefix.validate = .ok shortPrefix.applyDefaults := rfl
  have hframes : buildFrames .server shortPrefix.applyDefaults [[1, 2, 3], [9]] =
      .ok [[5, 0, 1, 2, 3], [3, 0, 9]] := rfl
  exact (frames_roundtrip_iff hvalid .server .client (by decide) hframes).mpr (by decide)

/-- The builder frames 65536 bytes behind a prefix of four, and the reader refuses
the frame. -/
theorem long_frame_refused : longPrefix.validate = .ok longPrefix.applyDefaults ∧
      buildFrames .client longPrefix.applyDefaults [List.replicate 65536 0] =
        .ok [[0, 1, 0, 0] ++ List.replicate 65536 0] ∧
      readFrames .server longPrefix.applyDefaults
        [[0, 1, 0, 0] ++ List.replicate 65536 0].flatten = ([], .invalidLength 65536) := by
  have hvalid : longPrefix.validate = .ok longPrefix.applyDefaults := rfl
  have hprefix : longPrefix.applyDefaults.putLength 65536 = [0, 1, 0, 0] := by decide
  have hlength : (longPrefix.applyDefaults.readLength
      (longPrefix.applyDefaults.putLength 65536) : ℤ) -
        longPrefix.applyDefaults.counted = 65536 := by decide
  refine ⟨hvalid, ?_, ?_⟩
  · have hbuilt : buildFrame longPrefix.applyDefaults (List.replicate 65536 0) =
        .ok ([0, 1, 0, 0] ++ List.replicate 65536 0) := by
      rw [buildFrame, List.length_replicate, ← hprefix]
      rfl
    rw [buildFrames, Side.buildFrame_eq, List.mapM_cons, hbuilt]
    rfl
  · apply readFrames_of_error
    rw [List.flatten_cons, List.flatten_nil, List.append_nil, ← hprefix,
      readFrame_putLength hvalid 65536 _ hlength, if_pos (by decide)]

end Fluxrig.Iso8583
