import Fluxrig.Coatcheck.Gear
import Fluxrig.Conductor.Gear

/-!
# Correlation keys are told apart

`JoinKeys` writes every part behind its length and a colon.  The digits of a
length are no colons, so the first colon ends the length, the length ends the
part, and the parts can be read back whatever bytes they hold.  The conductor
uses the joined text as its key, the coat check its base64 form.
-/

namespace Fluxrig.Message

lemma toNat_of_mem_toDigits {number : ℕ} {char : Char} (hchar : char ∈ Nat.toDigits 10 number) :
    48 ≤ char.toNat ∧ char.toNat ≤ 57 := by
  have hdigit := Nat.isDigit_of_mem_toDigits (by norm_num) le_rfl hchar
  simp only [Char.isDigit, Bool.and_eq_true, decide_eq_true_eq, ge_iff_le,
    UInt32.le_iff_toNat_le] at hdigit
  exact hdigit

lemma colon_not_mem_itoa (number : ℕ) : 58 ∉ itoa number := by
  intro hcolon
  obtain ⟨char, hchar, hbyte⟩ := List.mem_map.mp hcolon
  have hrange := toNat_of_mem_toDigits hchar
  have hvalue : char.toNat % 256 = 58 := congrArg UInt8.toNat hbyte
  omega

lemma itoa_injective : Function.Injective itoa := by
  -- The digits of a number can be read off its bytes.
  have hdigits : ∀ number, (itoa number).map (fun byte => Char.ofNat byte.toNat) =
      Nat.toDigits 10 number := by
    intro number
    rw [itoa, List.map_map]
    conv_rhs => rw [← List.map_id (Nat.toDigits 10 number)]
    apply List.map_congr_left
    intro char hchar
    have hrange := toNat_of_mem_toDigits hchar
    have hbyte : (UInt8.ofNat char.toNat).toNat = char.toNat := by
      rw [UInt8.toNat_ofNat']
      omega
    rw [Function.comp_apply, hbyte, Char.ofNat_toNat, id]
  intro left right hsame
  have hvalue := congrArg (fun digits => Nat.ofDigitChars 10 digits 0)
    ((hdigits left).symm.trans ((congrArg _ hsame).trans (hdigits right)))
  simpa only [Nat.ofDigitChars_toDigits (by norm_num : 1 < 10) le_rfl] using hvalue

/-- The first colon is where the two texts part. -/
lemma append_colon_inj {left right restLeft restRight : Text} (hleft : 58 ∉ left)
    (hright : 58 ∉ right) (hsame : left ++ 58 :: restLeft = right ++ 58 :: restRight) :
    left = right ∧ restLeft = restRight := by
  induction left generalizing right with
  | nil => cases right <;> grind
  | cons => cases right <;> grind

lemma joinKeys_injective : Function.Injective joinKeys := by
  intro left right hsame
  induction left generalizing right with
  | nil =>
    by_contra hright
    exact joinKeys_ne_nil (Ne.symm hright) hsame.symm
  | cons part left ih =>
    cases right with
    | nil => exact absurd hsame (joinKeys_ne_nil (List.cons_ne_nil _ _))
    | cons other right =>
      simp only [joinKeys, List.flatMap_cons, List.append_assoc, List.cons_append] at hsame
      obtain ⟨hlength, hrest⟩ :=
        append_colon_inj (colon_not_mem_itoa _) (colon_not_mem_itoa _) hsame
      obtain ⟨hpart, htail⟩ := List.append_inj hrest (itoa_injective hlength)
      rw [hpart, ih htail]

end Fluxrig.Message

namespace Fluxrig.Coatcheck

lemma urlDigit_inj {left right : ℕ} (hleft : left < 64) (hright : right < 64)
    (hsame : urlDigit left = urlDigit right) : left = right := by
  have hvalue := congrArg UInt8.toNat hsame
  simp only [urlDigit, UInt8.toNat_ofNat'] at hvalue
  split_ifs at hvalue <;> omega

lemma encodeToString_injective : Function.Injective encodeToString := by
  have hbyte := UInt8.toNat_lt
  intro left right hsame
  -- Texts of different lengths modulo three have codes of different lengths.
  fun_induction encodeToString left generalizing right <;>
    rcases right with _ | ⟨x, _ | ⟨y, _ | ⟨z, others⟩⟩⟩ <;>
    simp only [encodeToString, List.cons.injEq, reduceCtorEq, and_false] at hsame
  case case1.nil => rfl
  case case2.cons.nil a =>
    have hhigh := urlDigit_inj (by grind) (by grind) hsame.1
    have hlow := urlDigit_inj (by grind) (by grind) hsame.2.1
    grind [UInt8.toNat_inj]
  case case3.cons.cons.nil a b =>
    have hhigh := urlDigit_inj (by grind) (by grind) hsame.1
    have hmiddle := urlDigit_inj (by grind) (by grind) hsame.2.1
    have hlow := urlDigit_inj (by grind) (by grind) hsame.2.2.1
    grind [UInt8.toNat_inj]
  case case4.cons.cons.cons a b c rest ih =>
    have hfirst := urlDigit_inj (by grind) (by grind) hsame.1
    have hsecond := urlDigit_inj (by grind) (by grind) hsame.2.1
    have hthird := urlDigit_inj (by grind) (by grind) hsame.2.2.1
    have hfourth := urlDigit_inj (by grind) (by grind) hsame.2.2.2.1
    grind [UInt8.toNat_inj]

open Message

variable {Blob : Type} {key : Text}

/-- The rendered parts of a conductor's key, in order. -/
def conductorParts (gear : Conductor.Gear) (msg : FluxMsg) : List (Option Text) :=
  gear.corrKey.map fun field => (msg.get field).map (fieldToKeyPart gear.sprint)

/-- The rendered and normalised parts of a coat-check key, in order. -/
def coatParts (lib : Library Blob) (cfg : Config) (msg : FluxMsg) : List (Option Text) :=
  cfg.keyFields.map fun field =>
    (getValue msg field).map fun value => normalizeKeyPart cfg (fieldToKeyPart lib.sprint value)

lemma map_of_mapM_option {Field : Type*} {fields : List Field} {render : Field → Option Text}
    {parts : List Text} (hparts : fields.mapM render = some parts) :
    fields.map render = parts.map some := by
  induction fields generalizing parts with
  | nil => simp_all
  | cons =>
    simp only [List.mapM_cons, Option.bind_eq_bind, Option.bind_eq_some_iff, Option.pure_def,
      Option.some.injEq] at hparts
    grind

lemma map_of_mapM_except {Field Err : Type*} {fields : List Field}
    {render : Field → Except Err Text} {parts : List Text}
    (hparts : fields.mapM render = .ok parts) :
    fields.map (fun field => (render field).toOption) = parts.map some := by
  induction fields generalizing parts with
  | nil => simp_all [pure, Except.pure]
  | cons field rest ih =>
    rw [List.mapM_cons] at hparts
    cases hfield : render field with
    | error => simp [hfield, bind, Except.bind] at hparts
    | ok part =>
      cases hrest : rest.mapM render with
      | error => simp [hfield, hrest, bind, Except.bind] at hparts
      | ok others =>
        simp only [hfield, hrest, bind, Except.bind, pure, Except.pure, Except.ok.injEq] at hparts
        rw [List.map_cons, ih hrest, hfield, ← hparts]
        rfl

lemma buildKey_eq_some {gear : Conductor.Gear} {msg : FluxMsg}
    (hkey : gear.buildKey msg = some key) :
    ∃ parts, key = joinKeys parts ∧ conductorParts gear msg = parts.map some := by
  rw [Conductor.Gear.buildKey] at hkey
  split at hkey
  · cases hkey
  · obtain ⟨parts, hparts, rfl⟩ := Option.map_eq_some_iff.mp hkey
    exact ⟨parts, rfl, map_of_mapM_option hparts⟩

lemma extractKey_eq_ok {lib : Library Blob} {cfg : Config} {msg : FluxMsg}
    (hkey : extractKey lib cfg msg = .ok key) :
    ∃ parts, key = encodeToString (joinKeys parts) ∧ coatParts lib cfg msg = parts.map some := by
  rw [extractKey] at hkey
  split at hkey
  · nomatch hkey
  · generalize hparts : @List.mapM (Except GearError) _ _ _ _ cfg.keyFields = rendered at hkey
    cases rendered with
    | error => nomatch hkey
    | ok parts =>
      rw [← Except.ok.inj hkey]
      refine ⟨parts, rfl, ?_⟩
      rw [← map_of_mapM_except hparts]
      apply List.map_congr_left
      intro field _
      cases getValue msg field <;> rfl

/-- **Keys never collide by concatenation.**  Joined texts are equal only for equal
parts, so two messages share a key, of the conductor or of the coat check, only if their
key parts are equal one by one.  The two gears need not be the same: the one that stores
and the one that restores each have their own key fields. -/
theorem correlation_keys_apart (gear otherGear : Conductor.Gear) (lib : Library Blob)
    (cfg otherConfig : Config) (left right : FluxMsg) :
    Function.Injective joinKeys ∧
      (∀ key, gear.buildKey left = some key → otherGear.buildKey right = some key →
        conductorParts gear left = conductorParts otherGear right) ∧
      ∀ key, extractKey lib cfg left = .ok key → extractKey lib otherConfig right = .ok key →
          coatParts lib cfg left = coatParts lib otherConfig right := by
  refine ⟨joinKeys_injective, ?_, ?_⟩
  · intro key hleft hright
    obtain ⟨parts, rfl, hparts⟩ := buildKey_eq_some hleft
    obtain ⟨others, hjoined, hothers⟩ := buildKey_eq_some hright
    rw [hparts, hothers, joinKeys_injective hjoined]
  · intro key hleft hright
    obtain ⟨parts, rfl, hparts⟩ := extractKey_eq_ok hleft
    obtain ⟨others, hjoined, hothers⟩ := extractKey_eq_ok hright
    rw [hparts, hothers, joinKeys_injective (encodeToString_injective hjoined)]

end Fluxrig.Coatcheck
