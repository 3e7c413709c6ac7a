import Fluxrig.Iso8583.Codec
import Fluxrig.Sdl.Tree

/-!
# The keys of the codec

The decoder's calls of `Set` as writes along paths, and what they leave whatever their
order: an attempt to write a key shuts every path below it for good.
-/

namespace Fluxrig.Iso8583

open Fluxrig.Core Message Sdl

def rawPath (id : ℤ) : List Text := [utf8 "iso8583", utf8 "field", sprintInt id]

lemma dot_not_mem_sprintInt (id : ℤ) : 46 ∉ sprintInt id := by
  have hdecimal : ∀ number, 46 ∉ decimal number := by
    intro number hdot
    exact absurd (isDigit_decimal 46 hdot) (by decide)
  rw [sprintInt]
  split
  · intro hdot
    rcases List.mem_cons.mp hdot with hsign | hdigits
    · exact absurd hsign (by decide)
    · exact hdecimal _ hdigits
  · exact hdecimal _

lemma splitDots_rawKey (id : ℤ) : splitDots (rawKey id) = rawPath id := by
  have hkey : rawKey id = [46].intercalate (rawPath id) := by
    simp [rawKey, rawPath, List.intercalate, List.intersperse]
    rfl
  rw [hkey]
  apply List.splitOn_intercalate
  · intro part hpart
    simp only [rawPath, List.mem_cons, List.not_mem_nil, or_false] at hpart
    rcases hpart with rfl | rfl | rfl
    · decide
    · decide
    · exact dot_not_mem_sprintInt id
  · exact List.cons_ne_nil _ _

lemma sprintInt_injective : Function.Injective sprintInt := by
  have hdecimal : ∀ {m n : ℕ}, decimal m = decimal n → m = n := by
    intro m n hsame
    rw [← numeral_decimal m, hsame, numeral_decimal]
  have hsign : ∀ {m n : ℕ}, 45 :: decimal m ≠ decimal n := by
    intro m n hsame
    have hmem : (45 : UInt8) ∈ decimal n := hsame ▸ List.mem_cons_self
    exact absurd (isDigit_decimal 45 hmem) (by decide)
  intro left right hsame
  rw [sprintInt, sprintInt] at hsame
  split at hsame
  · split at hsame
    · have hnumber := hdecimal (List.cons.inj hsame).2
      omega
    · exact absurd hsame hsign
  · split at hsame
    · exact absurd hsame.symm hsign
    · have hnumber := hdecimal hsame
      omega

lemma below_rawSubKey (id : ℤ) (key : Text) :
    Value.Below (rawPath id) (splitDots (rawSubKey id key)) := by
  have hsplit : splitDots (rawSubKey id key) = rawPath id ++ splitDots key := by
    rw [rawSubKey, List.append_assoc, ← splitDots_rawKey]
    exact splitDots_append _ _
  rw [hsplit]
  refine ⟨List.prefix_append _ _, ?_⟩
  intro hsame
  exact splitDots_ne_nil key (List.append_cancel_left (hsame.symm.trans (List.append_nil _).symm))

/-- The data after some calls of `Set`. -/
def applyCalls (root : Value) (calls : List (Text × Value)) : Value :=
  calls.foldl (fun root call => root.write (splitDots call.1) call.2) root

lemma root_foldl_set (msg : FluxMsg) (calls : List (Text × Value)) :
    (calls.foldl (fun msg call => (msg.set call.1 call.2).1) msg).root =
      applyCalls msg.root calls := by
  induction calls generalizing msg with
  | nil => rfl
  | cons _ _ ih =>
    rw [List.foldl_cons, ih, FluxMsg.root_set]
    rfl

/-- What is written is no map. -/
def Leaves (calls : List (Text × Value)) : Prop := ∀ call ∈ calls, call.2.isMap = false

section

variable {root : Value} {calls : List (Text × Value)} {path : List Text}

lemma applyCalls_cons (call : Text × Value) :
    applyCalls root (call :: calls) = applyCalls (root.write (splitDots call.1) call.2) calls :=
  rfl

lemma isMap_applyCalls : (applyCalls root calls).isMap = root.isMap := by
  induction calls generalizing root with
  | nil => rfl
  | cons _ _ ih => rw [applyCalls_cons, ih, Value.isMap_write]

lemma applyCalls_append (more : List (Text × Value)) :
    applyCalls root (calls ++ more) = applyCalls (applyCalls root calls) more :=
  List.foldl_append

section

variable (hmap : root.isMap = true)

include hmap

lemma not_open_applyCalls (hleaves : Leaves calls) (hshut : ¬ root.Open path) :
    ¬ (applyCalls root calls).Open path := by
  induction calls generalizing root with
  | nil => exact hshut
  | cons call _ ih =>
    apply ih
    · rw [Value.isMap_write, hmap]
    · exact fun later hlater => hleaves later (List.mem_cons_of_mem _ hlater)
    · exact Value.not_open_write hmap (splitDots_ne_nil _) (hleaves call List.mem_cons_self) hshut

variable {call : Text × Value}

/-- An attempt to write a key shuts what is below it for good. -/
lemma not_open_of_mem (hleaves : Leaves calls) (hcall : call ∈ calls)
    (hbelow : Value.Below (splitDots call.1) path) : ¬ (applyCalls root calls).Open path := by
  obtain ⟨before, after, rfl⟩ := List.append_of_mem hcall
  rw [applyCalls_append]
  have hmap' : (applyCalls root before).isMap = true := isMap_applyCalls.trans hmap
  have hafter : Leaves after := fun later hlater =>
    hleaves later (List.mem_append_right _ (List.mem_cons_of_mem _ hlater))
  apply not_open_applyCalls (Value.isMap_write.trans hmap') hafter
  exact Value.not_open_write_below hmap' (splitDots_ne_nil _) (hleaves call hcall) hbelow

lemma open_applyCalls (hleaves : Leaves calls)
    (hnot : ∀ call ∈ calls, ¬ Value.Below (splitDots call.1) path) (hopen : root.Open path) :
    (applyCalls root calls).Open path := by
  induction calls generalizing root with
  | nil => exact hopen
  | cons _ _ ih =>
    obtain ⟨hcall, hrest⟩ := List.forall_mem_cons.mp hnot
    obtain ⟨hleaf, hlater⟩ := List.forall_mem_cons.mp hleaves
    apply ih (Value.isMap_write.trans hmap) hlater hrest
    exact Value.open_write hmap (splitDots_ne_nil _) hleaf hopen hcall

lemma get_applyCalls_ne_none (hnot : ∀ call ∈ calls, ¬ Value.Below (splitDots call.1) path)
    (hget : root.get path ≠ none) : (applyCalls root calls).get path ≠ none := by
  induction calls generalizing root with
  | nil => exact hget
  | cons _ _ ih =>
    obtain ⟨hcall, hrest⟩ := List.forall_mem_cons.mp hnot
    apply ih (Value.isMap_write.trans hmap) hrest
    exact Value.get_write_ne_none hmap (splitDots_ne_nil _) hget hcall

/-- A key that is called, with no call above it, is there in the end. -/
lemma get_of_mem (hleaves : Leaves calls) (hopen : root.Open path)
    (hnot : ∀ call ∈ calls, ¬ Value.Below (splitDots call.1) path) (hcall : call ∈ calls)
    (hkey : splitDots call.1 = path) : (applyCalls root calls).get path ≠ none := by
  obtain ⟨before, after, rfl⟩ := List.append_of_mem hcall
  obtain ⟨hbefore, hafter⟩ := List.forall_mem_append.mp hnot
  rw [applyCalls_append, applyCalls_cons]
  have hmap' : (applyCalls root before).isMap = true := isMap_applyCalls.trans hmap
  have hopen' : (applyCalls root before).Open path :=
    open_applyCalls hmap (List.forall_mem_append.mp hleaves).1 hbefore hopen
  have hwritten : ((applyCalls root before).write (splitDots call.1) call.2).get path ≠ none := by
    rw [hkey, Value.get_write_self hmap' (hkey ▸ splitDots_ne_nil _) hopen']
    exact nofun
  exact get_applyCalls_ne_none (Value.isMap_write.trans hmap')
    (List.forall_mem_cons.mp hafter).2 hwritten

end

end

lemma isMap_storable (val : Text) (raw : Option Text) : (storable val raw).isMap = false := by
  cases raw with
  | none => rfl
  | some =>
    rw [storable]
    split <;> rfl

lemma SubField.isMap_extracted {subField : SubField} {value : Value}
    (hvalue : subField.extracted = some value) : value.isMap = false := by
  rw [extracted] at hvalue
  split at hvalue
  · split at hvalue
    · rw [← Option.some.inj hvalue]
      exact isMap_storable _ _
    · nomatch hvalue
  · nomatch hvalue

variable {wire : Unpacked}

lemma Unpacked.isMap_found {i : ℕ} {element : Element} {stored : Value}
    (hfound : wire.found i = some (element, stored)) : stored.isMap = false := by
  rw [found] at hfound
  split at hfound
  · obtain ⟨value, hvalue, hpair⟩ := Option.map_eq_some_iff.mp hfound
    obtain ⟨val, -, rfl⟩ := Option.map_eq_some_iff.mp hvalue
    rw [← (Prod.mk.inj hpair).2]
    exact isMap_storable _ _
  · nomatch hfound

section

variable (names : FieldMeta) (wire : Unpacked)

lemma leaves_subWrites (i : ℕ) (entry : Text × Option SubField) :
    Leaves (subWrites names i entry) := by
  intro call hcall
  rw [subWrites] at hcall
  cases hvalue : entry.2.bind SubField.extracted with
  | none =>
    rw [hvalue] at hcall
    nomatch hcall
  | some =>
    rw [hvalue] at hcall
    obtain ⟨subField, -, hextracted⟩ := Option.bind_eq_some_iff.mp hvalue
    have hleaf := SubField.isMap_extracted hextracted
    rcases List.mem_cons.mp hcall with rfl | haliased
    · exact hleaf
    · obtain ⟨aliasName, -, rfl⟩ := List.mem_map.mp haliased
      exact hleaf

lemma leaves_elementWrites (i : ℕ) : Leaves (elementWrites names wire i) := by
  intro call hcall
  rw [elementWrites] at hcall
  cases hfound : wire.found i with
  | none =>
    rw [hfound] at hcall
    nomatch hcall
  | some =>
    rw [hfound] at hcall
    have hleaf := Unpacked.isMap_found hfound
    rcases List.mem_append.mp hcall with haliased | hrest
    · obtain ⟨aliasName, -, rfl⟩ := List.mem_map.mp haliased
      exact hleaf
    · rcases List.mem_cons.mp hrest with rfl | hsub
      · exact hleaf
      · obtain ⟨entry, -, hentry⟩ := List.mem_flatMap.mp hsub
        exact leaves_subWrites names i entry call hentry

lemma leaves_tagWrites (tagMap : List (Text × Text) → ℕ) : Leaves (tagWrites tagMap wire) := by
  intro call hcall
  rw [tagWrites] at hcall
  split at hcall
  · rw [List.mem_singleton.mp hcall]
    rfl
  · nomatch hcall

lemma leaves_writes (tagMap : List (Text × Text) → ℕ) : Leaves (writes names tagMap wire) := by
  intro call hcall
  rcases List.mem_append.mp hcall with helement | htags
  · obtain ⟨i, -, hi⟩ := List.mem_flatMap.mp helement
    exact leaves_elementWrites names wire i call hi
  · exact leaves_tagWrites wire tagMap call htags

lemma mem_writes_of_element {tagMap : List (Text × Text) → ℕ} {i : ℕ} (hi : i ≤ 128)
    {call : Text × Value} (hcall : call ∈ elementWrites names wire i) :
    call ∈ writes names tagMap wire :=
  List.mem_append_left _ (List.mem_flatMap.mpr ⟨i, List.mem_range.mpr (by omega), hcall⟩)

end

lemma Unpacked.le_of_found {i : ℕ} {pair : Element × Value}
    (hfound : wire.found i = some pair) : i ≤ 128 := by
  rw [found] at hfound
  split at hfound
  · rename_i hpresent
    simp only [Bool.and_eq_true, decide_eq_true_eq] at hpresent
    exact hpresent.1.2
  · nomatch hfound

/-- The data after a message was decoded. -/
lemma root_decode {names : FieldMeta} {moov : Moov} {msg decoded : FluxMsg} {mti : Text}
    {fields : List ℕ} (hunpack : moov.unpack msg.rawPayload = some wire)
    (hdecode : decode names moov msg = .ok (mti, fields, decoded)) :
    decoded.root = applyCalls msg.root (writes names moov.tagMap wire) := by
  rw [decode, hunpack] at hdecode
  dsimp only at hdecode
  split at hdecode
  · nomatch hdecode
  · simp only [Except.ok.injEq, Prod.mk.injEq] at hdecode
    rw [← hdecode.2.2, root_foldl_set]

end Fluxrig.Iso8583
