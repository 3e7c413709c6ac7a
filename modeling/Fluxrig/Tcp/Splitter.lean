import Fluxrig.Core.Numeral
import Fluxrig.Core.Scanner
import Fluxrig.Message.FluxMsg

/-!
# The framing of the TCP gear

The gear puts a length before a payload or a delimiter after it, and the splitter cuts the
stream of the peer accordingly.  The sender checks a length against what two bytes can
hold and the splitter against one megabyte; the splitter cuts at the first delimiter it
finds, which may begin inside the payload although the payload does not contain it.
-/

namespace Fluxrig.Tcp

open Fluxrig.Core Message

/-- A framing that is not one of the three names is treated as delimiter framing, except
that nothing is appended. -/
inductive Framing where
  | delimiter
  | lengthPrefix2
  | lengthPrefix4
  | other
  deriving DecidableEq

structure Config where
  framing : Framing
  delimiter : Text
  isPrefixed : Bool
  delimiterInclude : Bool
  delimiterAppend : Bool

def maxScanTokenSize : ℕ := 4 + 1024 * 1024

inductive FrameErr where
  | tooLarge (length : ℕ)

def frameOutbound : Framing → Text → Except FrameErr Text
  | .lengthPrefix2, payload =>
      if 65535 < payload.length then .error (.tooLarge payload.length)
      else .ok (bytesOf 2 payload.length ++ payload)
  | .lengthPrefix4, payload => .ok (bytesOf 4 payload.length ++ payload)
  | _, payload => .ok payload

/-- What is written after the frame. -/
def Config.trailer (cfg : Config) : List Text :=
  if cfg.delimiterAppend ∧ cfg.framing = .delimiter then [cfg.delimiter] else []

inductive SplitErr where
  | incompleteHeader (got need : ℕ)
  | invalidLength (length : ℕ)
  | incompleteMessage (need got : ℕ)

/-- `bytes.Index`. -/
def index (sep : Text) : Text → Option ℕ
  | [] => if sep = [] then some 0 else none
  | byte :: rest =>
      if sep.isPrefixOf (byte :: rest) then some 0 else (index sep rest).map (· + 1)

def returnToken (chunk : Text) (keep : Bool) (delimLen : ℕ) (isPrefix : Bool) : Text :=
  if keep then chunk
  else if isPrefix then (if delimLen ≤ chunk.length then chunk.drop delimLen else chunk)
  else if delimLen ≤ chunk.length then chunk.take (chunk.length - delimLen)
  else chunk

def makeLengthPrefixSplitter (headerLen : ℕ) : SplitFunc UInt8 SplitErr := fun data atEOF =>
  if atEOF && data.isEmpty then .ok (0, none)
  else if data.length < headerLen then
    if atEOF then .error (.incompleteHeader data.length headerLen) else .ok (0, none)
  else
    let length := numeral 256 UInt8.toNat (data.take headerLen)
    if 1024 * 1024 < length then .error (.invalidLength length)
    else if data.length < headerLen + length then
      if atEOF then .error (.incompleteMessage (headerLen + length) data.length)
      else .ok (0, none)
    else .ok (headerLen + length, some ((data.take (headerLen + length)).drop headerLen))

/-- `bufio.ScanLines`. -/
def scanLines : SplitFunc UInt8 SplitErr := fun data atEOF =>
  let dropCR (line : Text) := if line.getLast? = some 13 then line.dropLast else line
  if atEOF && data.isEmpty then .ok (0, none)
  else
    match index [10] data with
    | some i => .ok (i + 1, some (dropCR (data.take i)))
    | none => if atEOF then .ok (data.length, some (dropCR data)) else .ok (0, none)

def prefixSplitter (delim : Text) (keep : Bool) : SplitFunc UInt8 SplitErr := fun data atEOF =>
  if atEOF && data.isEmpty then .ok (0, none)
  else
    match index delim data with
    | none => if atEOF then .ok (data.length, none) else .ok (0, none)
    | some (start + 1) => .ok (start + 1, none)
    | some 0 =>
        match index delim (data.drop delim.length) with
        | none =>
            if atEOF then .ok (data.length, some (returnToken data keep delim.length true))
            else .ok (0, none)
        | some next =>
            let totalLen := delim.length + next
            .ok (totalLen, some (returnToken (data.take totalLen) keep delim.length true))

def suffixSplitter (delim : Text) (keep : Bool) : SplitFunc UInt8 SplitErr := fun data atEOF =>
  if atEOF && data.isEmpty then .ok (0, none)
  else
    match index delim data with
    | some i =>
        let totalLen := i + delim.length
        .ok (totalLen, some (returnToken (data.take totalLen) keep delim.length false))
    | none => if atEOF then .ok (data.length, some data) else .ok (0, none)

variable (cfg : Config)

def makeSplitter : SplitFunc UInt8 SplitErr :=
  match cfg.framing with
  | .lengthPrefix2 => makeLengthPrefixSplitter 2
  | .lengthPrefix4 => makeLengthPrefixSplitter 4
  | _ =>
      if cfg.delimiter = [] then scanLines
      else if cfg.isPrefixed then prefixSplitter cfg.delimiter cfg.delimiterInclude
      else suffixSplitter cfg.delimiter cfg.delimiterInclude

/-- A length before the payload, or a delimiter after it that is not part of the token. -/
def Config.Symmetric : Prop :=
  match cfg.framing with
  | .lengthPrefix2 | .lengthPrefix4 => True
  | .delimiter => cfg.delimiter ≠ [] ∧ cfg.isPrefixed = false ∧
      cfg.delimiterInclude = false ∧ cfg.delimiterAppend = true
  | .other => False

/-- The gear sends the payload, and it does not contain the delimiter and fits the scanner
with it. -/
def Config.Accepts (payload : Text) : Prop :=
  match cfg.framing with
  | .lengthPrefix2 | .lengthPrefix4 => ∃ frame, frameOutbound cfg.framing payload = .ok frame
  | _ => ¬ cfg.delimiter <:+: payload ∧ payload.length + cfg.delimiter.length ≤ maxScanTokenSize

/-- The bytes of a payload on the connection. -/
def Config.frame (payload : Text) : Text :=
  match frameOutbound cfg.framing payload with
  | .ok frame => frame ++ cfg.trailer.flatten
  | .error _ => []

/-- The length is within the splitter's limit; the delimiter does not occur in the payload
with the delimiter after it, except at its end. -/
def Config.Recoverable (payload : Text) : Prop :=
  match cfg.framing with
  | .lengthPrefix2 | .lengthPrefix4 => payload.length ≤ 1024 * 1024
  | _ => ∀ i < payload.length, ¬ cfg.delimiter <+: (payload ++ cfg.delimiter).drop i

section

variable {headerLen : ℕ} {payload : Text}

lemma steady_lengthPrefix : Steady (makeLengthPrefixSplitter headerLen) := by
  intro held ended advance hsplit
  rw [makeLengthPrefixSplitter] at hsplit
  grind

lemma recovers_lengthPrefix (hheader : 0 < headerLen ∧ headerLen ≤ 4)
    (hfits : payload.length < 256 ^ headerLen) (hlimit : payload.length ≤ 1024 * 1024) :
    Recovers (makeLengthPrefixSplitter headerLen) maxScanTokenSize
      (bytesOf headerLen payload.length ++ payload) payload := by
  have hlength := length_bytesOf headerLen payload.length
  have hnumber : numeral 256 UInt8.toNat (bytesOf headerLen payload.length) = payload.length := by
    rw [numeral_bytesOf, Nat.mod_eq_of_lt hfits]
  have hne : bytesOf headerLen payload.length ≠ [] := by
    intro hnil
    rw [hnil, List.length_nil] at hlength
    omega
  refine ⟨fun more ended => ?_, fun held hheld hpart => ?_, ?_, by simp [hne]⟩
  · simp [makeLengthPrefixSplitter, hlength, hnumber, not_lt.mpr hlimit, hne, List.take_append]
  · rw [makeLengthPrefixSplitter]
    have hshort : held.length < headerLen + payload.length := by
      have hle := hheld.length_le
      have hlt := hle.lt_of_ne fun heq => hpart (hheld.eq_of_length heq)
      rwa [List.length_append, hlength] at hlt
    by_cases hsmall : held.length < headerLen
    · simp [hsmall]
    · have htake : held.take headerLen = bytesOf headerLen payload.length := by
        have hstart := hheld.take headerLen
        rw [List.take_left' hlength] at hstart
        exact hstart.eq_of_length (by simp [hlength]; omega)
      simp [hsmall, htake, hnumber, not_lt.mpr hlimit, hshort]
  · rw [List.length_append, maxScanTokenSize]
    omega

lemma length_of_lengthPrefix {held : Text} {ended : Bool} {advance : ℕ}
    (hsplit : makeLengthPrefixSplitter headerLen held ended = .ok (advance, some payload)) :
    payload.length ≤ 1024 * 1024 := by
  rw [makeLengthPrefixSplitter] at hsplit
  grind

end

section

variable {sep text payload : Text} {i : ℕ}

lemma index_eq_some_iff (hsep : sep ≠ []) :
    index sep text = some i ↔ sep <+: text.drop i ∧ ∀ j < i, ¬ sep <+: text.drop j := by
  induction text generalizing i with
  | nil => simp [index, hsep]
  | cons byte rest ih =>
    rw [index]
    by_cases hstart : sep <+: byte :: rest
    · rw [if_pos (List.isPrefixOf_iff_prefix.mpr hstart)]
      constructor
      · intro hzero
        cases hzero
        exact ⟨hstart, nofun⟩
      · intro hfirst
        cases i with
        | zero => rfl
        | succ i => exact absurd hstart (hfirst.2 0 i.succ_pos)
    · rw [if_neg (mt List.isPrefixOf_iff_prefix.mp hstart)]
      cases i with
      | zero => simp [hstart]
      | succ =>
        simp only [Option.map_eq_some_iff, Nat.add_right_cancel_iff, exists_eq_right, ih,
          List.drop_succ_cons]
        refine and_congr_right fun _ => ⟨fun hfirst j hj => ?_, fun hfirst j hj => ?_⟩
        · cases j with
          | zero => exact hstart
          | succ j => exact hfirst j (Nat.lt_of_succ_lt_succ hj)
        · exact hfirst (j + 1) (Nat.succ_lt_succ hj)

lemma steady_suffix {keep : Bool} : Steady (suffixSplitter sep keep) := by
  intro held ended advance hsplit
  rw [suffixSplitter] at hsplit
  grind

lemma suffixSplitter_of_index (hsep : sep ≠ []) (hindex : index sep text = some i)
    (ended : Bool) :
    suffixSplitter sep false text ended = .ok (i + sep.length, some (text.take i)) := by
  have hlength := ((index_eq_some_iff hsep).mp hindex).1.length_le
  have hpositive := List.length_pos_iff.mpr hsep
  rw [List.length_drop] at hlength
  have hne : text ≠ [] := by
    rintro rfl
    simp [hsep] at hlength
  have hwhole : i + sep.length ≤ text.length := by omega
  simp [suffixSplitter, hindex, hne, returnToken, List.take_take, min_eq_left hwhole]

/-- The delimiter after the payload is the first one. -/
def Clear (sep payload : Text) : Prop := ∀ i < payload.length, ¬ sep <+: (payload ++ sep).drop i

lemma index_of_clear (hsep : sep ≠ []) (hclear : Clear sep payload) (more : Text) :
    index sep (payload ++ sep ++ more) = some payload.length := by
  rw [index_eq_some_iff hsep]
  constructor
  · simp
  · intro j hj hstart
    apply hclear j hj
    rw [List.drop_append_of_le_length (by simp; omega)] at hstart
    exact List.prefix_of_prefix_length_le hstart (List.prefix_append _ _) (by simp; omega)

lemma recovers_suffix (hsep : sep ≠ []) (hclear : Clear sep payload)
    (hfits : payload.length + sep.length ≤ maxScanTokenSize) :
    Recovers (suffixSplitter sep false) maxScanTokenSize (payload ++ sep) payload := by
  refine ⟨fun more ended => ?_, fun held hheld hpart => ?_, by simpa using hfits, by simp [hsep]⟩
  · rw [suffixSplitter_of_index hsep (index_of_clear hsep hclear more)]
    simp
  · have hnone : index sep held = none := by
      by_contra hsome
      obtain ⟨i, hi⟩ := Option.ne_none_iff_exists'.mp hsome
      have hstart := ((index_eq_some_iff hsep).mp hi).1
      have hless := hheld.length_le.lt_of_ne fun heq => hpart (hheld.eq_of_length heq)
      have hlength := hstart.length_le
      rw [List.length_drop] at hlength
      rw [List.length_append] at hless
      have hpositive := List.length_pos_iff.mpr hsep
      exact hclear i (by omega) (hstart.trans (hheld.drop i))
    simp [suffixSplitter, hnone]

/-- A payload that the splitter finds at the start of its own frame is clear. -/
lemma clear_of_suffix (hsep : sep ≠ []) {held rest : Text} {ended : Bool} {advance : ℕ}
    (hheld : held <+: payload ++ sep ++ rest)
    (hwhole : ended = true → held = payload ++ sep ++ rest)
    (hsplit : suffixSplitter sep false held ended = .ok (advance, some payload)) :
    Clear sep payload := by
  cases hindex : index sep held with
  | none =>
    cases ended with
    | false =>
      rw [suffixSplitter] at hsplit
      simp [hindex] at hsplit
    | true =>
      have hthere : sep <+: held.drop payload.length := by
        rw [hwhole rfl]
        simp
      have hleast := Nat.find_spec (p := fun i => sep <+: held.drop i) ⟨_, hthere⟩
      have hfound := (index_eq_some_iff hsep).mpr ⟨hleast, fun j hj => Nat.find_min _ hj⟩
      nomatch hindex.symm.trans hfound
  | some i =>
    obtain ⟨hstart, hfirst⟩ := (index_eq_some_iff hsep).mp hindex
    have hlength := hstart.length_le
    have hpositive := List.length_pos_iff.mpr hsep
    rw [List.length_drop] at hlength
    rw [suffixSplitter_of_index hsep hindex, Except.ok.injEq, Prod.mk.injEq,
      Option.some.injEq] at hsplit
    have hi : payload.length = i := by
      rw [← hsplit.2, List.length_take]
      omega
    intro j hj hearly
    apply hfirst j (hi ▸ hj)
    apply hearly.trans
    apply List.IsPrefix.drop
    exact List.prefix_of_prefix_length_le (List.prefix_append _ rest) hheld (by simp; omega)

end

lemma scans_payloads_iff {cfg : Config} (hsymmetric : cfg.Symmetric)
    {payloads : List Text} (haccepts : ∀ payload ∈ payloads, cfg.Accepts payload)
    {reads : List Text} (hreads : reads.flatten = (payloads.map cfg.frame).flatten) :
    Scans (makeSplitter cfg) maxScanTokenSize (.new reads) (payloads, none) ↔
      ∀ payload ∈ payloads, cfg.Recoverable payload := by
  obtain ⟨framing, sep, isPrefixed, keep, append⟩ := cfg
  have hmost : 0 < maxScanTokenSize := by decide
  cases framing with
  | lengthPrefix2 =>
    refine scans_frames_iff steady_lengthPrefix rfl hmost ?_ ?_ rfl hreads
    · intro payload hpayload hlimit
      obtain ⟨frame, hframe⟩ := haccepts payload hpayload
      have hfits : ¬ 65535 < payload.length := by
        intro hlarge
        simp [frameOutbound, hlarge] at hframe
      have hrecovers := @recovers_lengthPrefix 2 payload (by decide) (by norm_num; omega) hlimit
      simpa [Config.frame, frameOutbound, hfits, Config.trailer] using hrecovers
    · intro payload _ rest held ended advance _ _ hsplit
      exact length_of_lengthPrefix hsplit
  | lengthPrefix4 =>
    refine scans_frames_iff steady_lengthPrefix rfl hmost ?_ ?_ rfl hreads
    · intro payload hpayload hlimit
      have hrecovers := @recovers_lengthPrefix 4 payload (by decide)
        (lt_of_le_of_lt hlimit (by norm_num)) hlimit
      simpa [Config.frame, frameOutbound, Config.trailer] using hrecovers
    · intro payload _ rest held ended advance _ _ hsplit
      exact length_of_lengthPrefix hsplit
  | delimiter =>
    obtain ⟨hsep, rfl, rfl, rfl⟩ := hsymmetric
    have hframe : ∀ payload, Config.frame ⟨.delimiter, sep, false, false, true⟩ payload =
        payload ++ sep := by
      intro payload
      simp [Config.frame, frameOutbound, Config.trailer]
    have hsplitter : makeSplitter ⟨.delimiter, sep, false, false, true⟩ =
        suffixSplitter sep false := by
      simp only [makeSplitter, if_neg hsep, if_neg Bool.false_ne_true]
    rw [hsplitter]
    refine scans_frames_iff steady_suffix rfl hmost ?_ ?_ rfl hreads
    · intro payload hpayload hclear
      rw [hframe]
      exact recovers_suffix hsep hclear (haccepts payload hpayload).2
    · intro payload _ rest held ended advance hheld hwhole hsplit
      rw [hframe] at hheld hwhole
      exact clear_of_suffix hsep hheld hwhole hsplit
  | other => exact absurd hsymmetric id

/-- However the stream of the sender is cut into reads, the splitter returns the payloads,
exactly if they are recoverable. -/
theorem tcp_roundtrip_iff (cfg : Config) (hsymmetric : cfg.Symmetric)
    (payloads : List Text) (haccepts : ∀ payload ∈ payloads, cfg.Accepts payload)
    (reads : List Text) (hreads : reads.flatten = (payloads.map cfg.frame).flatten) :
    Scans (makeSplitter cfg) maxScanTokenSize (.new reads) (payloads, none) ↔
      ∀ payload ∈ payloads, cfg.Recoverable payload :=
  scans_payloads_iff hsymmetric haccepts hreads

/-- Payloads that end with the delimiter given. -/
def delimited (sep : Text) : Config := ⟨.delimiter, sep, false, false, true⟩

theorem tcp_roundtrip_bar : Scans (makeSplitter (delimited (utf8 "|"))) maxScanTokenSize
      (.new [utf8 "ab|", utf8 "c", utf8 "|"]) ([utf8 "ab", utf8 "c"], none) :=
  (tcp_roundtrip_iff (delimited (utf8 "|")) ⟨by decide, rfl, rfl, rfl⟩ [utf8 "ab", utf8 "c"]
    (by simp only [Config.Accepts, delimited]; decide +kernel)
    [utf8 "ab|", utf8 "c", utf8 "|"] (by decide +kernel)).mpr
    (by simp only [Config.Recoverable, delimited]; decide +kernel)

/-- The delimiter `||` after the payload `a|` begins inside the payload. -/
theorem tcp_cut_inside_payload : (delimited (utf8 "||")).Accepts (utf8 "a|") ∧
      (delimited (utf8 "||")).frame (utf8 "a|") = utf8 "a|||" ∧
      Scans (makeSplitter (delimited (utf8 "||"))) maxScanTokenSize (.new [utf8 "a|||"])
        ([utf8 "a", utf8 "|"], none) := by
  refine ⟨?_, by decide +kernel, 6, by rfl⟩
  simp only [Config.Accepts, delimited]
  decide +kernel

end Fluxrig.Tcp
