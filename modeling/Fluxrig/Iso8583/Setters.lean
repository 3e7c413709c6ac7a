import Fluxrig.Iso8583.Codec

/-!
# The encoder's calls

What `encode` puts into the message as one list of calls, and which of them is the last
for an element.
-/

namespace Fluxrig.Iso8583

open Fluxrig.Core Message Sdl

/-- The bitmap shows an element that is set and that setting marks.  With `marks` true
everywhere bits are set at once, and with `marks` false only when the message is packed. -/
def Moov.Marks (moov : Moov) (marks : ℤ → Bool) : Prop :=
  ∀ sets id, moov.shows sets id = true ↔ marks id = true ∧ id ∈ sets.map Prod.fst

def Moov.settings (moov : Moov) (calls : List (ℤ × Value)) : List (ℤ × Setting) :=
  calls.map fun call => (call.1, moov.setting call.2)

/-- Calls one after another, until one is refused. -/
def Moov.putAll (moov : Moov) (sets : List (ℤ × Setting)) (calls : List (ℤ × Value)) :
    Except CodecError (List (ℤ × Setting)) :=
  calls.foldlM (fun sets call => moov.put sets call.1 call.2) sets

/-- No call is refused. -/
def Moov.AcceptsAll (moov : Moov) (calls : List (ℤ × Value)) : Prop :=
  ∀ call ∈ calls, moov.accepts call.1 (moov.setting call.2) = true

section

variable {moov : Moov} {sets result : List (ℤ × Setting)}

lemma put_eq_ok_iff {id : ℤ} {value : Value} : moov.put sets id value = .ok result ↔
      moov.accepts id (moov.setting value) = true ∧
        result = sets ++ [(id, moov.setting value)] := by
  rw [Moov.put]
  split
  · rename_i haccepts
    simp [haccepts, eq_comm]
  · rename_i hrefused
    simp [hrefused]

lemma putAll_eq_ok_iff {calls : List (ℤ × Value)} : moov.putAll sets calls = .ok result ↔
      moov.AcceptsAll calls ∧ result = sets ++ moov.settings calls := by
  induction calls generalizing sets with
  | nil =>
    have hnone : moov.AcceptsAll [] := fun call hcall => absurd hcall List.not_mem_nil
    simp [Moov.putAll, Moov.settings, hnone, pure, Except.pure, eq_comm]
  | cons _ _ ih =>
    rw [Moov.putAll, List.foldlM_cons, bind_eq_ok]
    constructor
    · rintro ⟨next, hput, hrest⟩
      obtain ⟨haccepts, rfl⟩ := put_eq_ok_iff.mp hput
      obtain ⟨hall, rfl⟩ := ih.mp hrest
      refine ⟨List.forall_mem_cons.mpr ⟨haccepts, hall⟩, ?_⟩
      rw [List.append_assoc]
      rfl
    · rintro ⟨hall, rfl⟩
      obtain ⟨haccepts, hrest⟩ := List.forall_mem_cons.mp hall
      refine ⟨_, put_eq_ok_iff.mpr ⟨haccepts, rfl⟩, ih.mpr ⟨hrest, ?_⟩⟩
      rw [List.append_assoc]
      rfl

lemma settings_append (calls more : List (ℤ × Value)) :
    moov.settings (calls ++ more) = moov.settings calls ++ moov.settings more :=
  List.map_append

lemma putAll_append {calls more : List (ℤ × Value)} :
    (moov.putAll sets calls >>= fun sets => moov.putAll sets more) =
      moov.putAll sets (calls ++ more) := by
  rw [Moov.putAll, Moov.putAll, List.foldlM_append]
  rfl

lemma mem_settings_iff {calls : List (ℤ × Value)} {id : ℤ} {setting : Setting} :
    (id, setting) ∈ moov.settings calls ↔
      ∃ value, (id, value) ∈ calls ∧ setting = moov.setting value := by
  rw [Moov.settings, List.mem_map]
  constructor
  · rintro ⟨call, hcall, hpair⟩
    cases hpair
    exact ⟨call.2, hcall, rfl⟩
  · rintro ⟨value, hcall, rfl⟩
    exact ⟨(id, value), hcall, rfl⟩

lemma ids_settings (calls : List (ℤ × Value)) :
    (moov.settings calls).map Prod.fst = calls.map Prod.fst := by
  rw [Moov.settings, List.map_map]
  rfl

end

/-- What the loop over the aliases sets for one of them. -/
def aliasCall (msg : FluxMsg) (entry : Sigma fun _ : ℤ => Text) : Option (ℤ × Value) :=
  if entry.1 = 0 then none else (msg.get entry.2).map fun value => (entry.1, value)

/-- What the loop over the raw fields sets for one of them, behind the elements `taken`. -/
def rawCall (marks : ℤ → Bool) (taken : List ℤ) (msg : FluxMsg) (i : ℕ) : Option (ℤ × Value) :=
  if marks i = true ∧ (i : ℤ) ∈ taken then none
  else (msg.get (rawKey i)).map fun value => ((i : ℤ), value)

section

variable {moov : Moov} {msg : FluxMsg}

lemma setAlias_eq (sets : List (ℤ × Setting)) (entry : Sigma fun _ : ℤ => Text) :
    moov.setAlias msg sets entry = moov.putAll sets (aliasCall msg entry).toList := by
  rw [Moov.setAlias, aliasCall]
  by_cases hmti : entry.1 = 0
  · rw [if_pos hmti, if_pos hmti]
    rfl
  · rw [if_neg hmti, if_neg hmti]
    cases msg.get entry.2 with
    | none => rfl
    | some => exact (bind_pure _).symm

lemma foldlM_setAlias (sets : List (ℤ × Setting)) (order : List (Sigma fun _ : ℤ => Text)) :
    order.foldlM (moov.setAlias msg) sets = moov.putAll sets (order.filterMap (aliasCall msg)) := by
  induction order generalizing sets with
  | nil => rfl
  | cons entry rest ih =>
    have hcalls : (entry :: rest).filterMap (aliasCall msg) =
        (aliasCall msg entry).toList ++ rest.filterMap (aliasCall msg) := by
      rw [List.filterMap_cons]
      cases aliasCall msg entry <;> rfl
    rw [List.foldlM_cons, setAlias_eq, hcalls, ← putAll_append]
    exact congrArg _ (funext ih)

variable {marks : ℤ → Bool} (hmarks : moov.Marks marks)

include hmarks

lemma setRaw_eq (sets : List (ℤ × Setting)) (i : ℕ) : moov.setRaw msg sets i =
      moov.putAll sets (rawCall marks (sets.map Prod.fst) msg i).toList := by
  rw [Moov.setRaw, rawCall]
  by_cases hshown : moov.shows sets i = true
  · rw [if_pos hshown, if_pos ((hmarks sets i).mp hshown)]
    rfl
  · rw [if_neg hshown, if_neg fun hmarked => hshown ((hmarks sets i).mpr hmarked)]
    cases msg.get (rawKey i) with
    | none => rfl
    | some => exact (bind_pure _).symm

/-- An element is visited once, so what the loop itself has set does not matter. -/
lemma foldlM_setRaw (sets : List (ℤ × Setting)) (taken : List ℤ) {visited : List ℕ}
    (hnodup : visited.Nodup)
    (htaken : ∀ i ∈ visited, (i : ℤ) ∈ sets.map Prod.fst ↔ (i : ℤ) ∈ taken) :
    visited.foldlM (moov.setRaw msg) sets =
      moov.putAll sets (visited.filterMap (rawCall marks taken msg)) := by
  induction visited generalizing sets with
  | nil => rfl
  | cons i rest ih =>
    obtain ⟨hfresh, hrest⟩ := List.nodup_cons.mp hnodup
    obtain ⟨hi, hlater⟩ := List.forall_mem_cons.mp htaken
    have hcall : rawCall marks (sets.map Prod.fst) msg i = rawCall marks taken msg i := by
      rw [rawCall, rawCall]
      simp only [hi]
    have hcalls : (i :: rest).filterMap (rawCall marks taken msg) =
        (rawCall marks taken msg i).toList ++ rest.filterMap (rawCall marks taken msg) := by
      rw [List.filterMap_cons]
      cases rawCall marks taken msg i <;> rfl
    rw [List.foldlM_cons, setRaw_eq hmarks, hcall, hcalls, ← putAll_append]
    cases hput : moov.putAll sets (rawCall marks taken msg i).toList with
    | error => rfl
    | ok next =>
      apply ih next hrest
      intro j hj
      obtain ⟨-, rfl⟩ := putAll_eq_ok_iff.mp hput
      have hne : (j : ℤ) ∉ ((rawCall marks taken msg i).toList.map Prod.fst) := by
        intro hmem
        obtain ⟨call, hcallmem, hsame⟩ := List.mem_map.mp hmem
        rw [rawCall] at hcallmem
        split at hcallmem
        · nomatch hcallmem
        · obtain ⟨value, -, rfl⟩ := Option.map_eq_some_iff.mp (Option.mem_toList.mp hcallmem)
          exact hfresh (Int.natCast_inj.mp hsame ▸ hj)
      rw [List.map_append, List.mem_append, ids_settings, hlater j hj]
      exact or_iff_left hne

end

section

variable (marks : ℤ → Bool) (order : List (Sigma fun _ : ℤ => Text)) (msg : FluxMsg)

def aliasCalls : List (ℤ × Value) := order.filterMap (aliasCall msg)

def rawCalls : List (ℤ × Value) :=
  (List.range' 2 127).filterMap (rawCall marks ((aliasCalls order msg).map Prod.fst) msg)

/-- Every call behind the one for the message type. -/
def encodeCalls : List (ℤ × Value) := aliasCalls order msg ++ rawCalls marks order msg

end

section

variable {moov : Moov} {marks : ℤ → Bool} {order : List (Sigma fun _ : ℤ => Text)}
  {msg : FluxMsg} {id : ℤ} {value : Value}

/-- A message is encoded if the library accepts every call and packs the result. -/
lemma encode_eq_ok_iff (hmarks : moov.Marks marks) {encoded : Encoded} :
    encode moov order msg = .ok encoded ↔ moov.AcceptsAll (encodeCalls marks order msg) ∧
        encoded.mti = metadataMti msg ∧
        encoded.sets =
          moov.setMti (metadataMti msg) ++ moov.settings (encodeCalls marks order msg) ∧
        moov.pack encoded.sets = some encoded.payload := by
  have hloops : (order.foldlM (moov.setAlias msg) (moov.setMti (metadataMti msg)) >>= fun aliased =>
        (List.range' 2 127).foldlM (moov.setRaw msg) aliased) =
      moov.putAll (moov.setMti (metadataMti msg)) (encodeCalls marks order msg) := by
    rw [foldlM_setAlias, encodeCalls, ← putAll_append, ← aliasCalls]
    cases haliased : moov.putAll (moov.setMti (metadataMti msg)) (aliasCalls order msg) with
    | error => rfl
    | ok aliased =>
      apply foldlM_setRaw hmarks aliased _ List.nodup_range'
      intro i hi
      obtain ⟨-, rfl⟩ := putAll_eq_ok_iff.mp haliased
      have hmti : (i : ℤ) ∉ (moov.setMti (metadataMti msg)).map Prod.fst := by
        have htwo : 2 ≤ i := (List.mem_range'_1.mp hi).1
        rw [Moov.setMti]
        split
        · simp
          omega
        · exact List.not_mem_nil
      rw [List.map_append, List.mem_append, ids_settings]
      exact or_iff_right hmti
  rw [encode, ← bind_assoc, hloops, bind_eq_ok]
  constructor
  · rintro ⟨sets, hsets, hpack⟩
    obtain ⟨haccepts, rfl⟩ := putAll_eq_ok_iff.mp hsets
    split at hpack
    · cases hpack
    · rename_i payload hpayload
      cases hpack
      exact ⟨haccepts, rfl, rfl, hpayload⟩
  · rintro ⟨haccepts, hmti, hsets, hpack⟩
    refine ⟨encoded.sets, putAll_eq_ok_iff.mpr ⟨haccepts, hsets⟩, ?_⟩
    rw [hpack, ← hmti]

lemma mem_aliasCalls_iff : (id, value) ∈ aliasCalls order msg ↔
      id ≠ 0 ∧ ∃ name, ⟨id, name⟩ ∈ order ∧ msg.get name = some value := by
  rw [aliasCalls, List.mem_filterMap]
  constructor
  · rintro ⟨entry, hentry, hcall⟩
    rw [aliasCall] at hcall
    split at hcall
    · nomatch hcall
    · rename_i hmti
      obtain ⟨found, hfound, hpair⟩ := Option.map_eq_some_iff.mp hcall
      cases hpair
      exact ⟨hmti, entry.2, hentry, hfound⟩
  · rintro ⟨hmti, name, hentry, hfound⟩
    refine ⟨⟨id, name⟩, hentry, ?_⟩
    rw [aliasCall, if_neg hmti, hfound]
    rfl

lemma mem_rawCalls_iff : (id, value) ∈ rawCalls marks order msg ↔
      (2 ≤ id ∧ id ≤ 128) ∧ ¬ (marks id = true ∧ id ∈ (aliasCalls order msg).map Prod.fst) ∧
        msg.get (rawKey id) = some value := by
  rw [rawCalls, List.mem_filterMap]
  constructor
  · rintro ⟨i, hi, hcall⟩
    have hrange := List.mem_range'_1.mp hi
    rw [rawCall] at hcall
    split at hcall
    · nomatch hcall
    · rename_i hfree
      obtain ⟨found, hfound, hpair⟩ := Option.map_eq_some_iff.mp hcall
      cases hpair
      exact ⟨by omega, hfree, hfound⟩
  · rintro ⟨hrange, hfree, hfound⟩
    obtain ⟨i, rfl⟩ : ∃ i : ℕ, id = i := ⟨id.toNat, by omega⟩
    refine ⟨i, List.mem_range'_1.mpr (by omega), ?_⟩
    rw [rawCall, if_neg hfree, hfound]
    rfl

end

/-- What an element is set to in the end. -/
def lastSetting (id : ℤ) : List (ℤ × Setting) → Option Setting
  | [] => none
  | set :: rest => (lastSetting id rest).or (if set.1 = id then some set.2 else none)

section

variable {id : ℤ} {setting : Setting} {sets more : List (ℤ × Setting)}

lemma lastSetting_append :
    lastSetting id (sets ++ more) = (lastSetting id more).or (lastSetting id sets) := by
  induction sets with
  | nil => exact (Option.or_none).symm
  | cons _ _ ih => rw [List.cons_append, lastSetting, lastSetting, ih, Option.or_assoc]

lemma mem_of_lastSetting (hlast : lastSetting id sets = some setting) : (id, setting) ∈ sets := by
  induction sets with
  | nil => nomatch hlast
  | cons set rest ih =>
    rw [lastSetting, Option.or_eq_some_iff] at hlast
    rcases hlast with hrest | ⟨-, hself⟩
    · exact List.mem_cons_of_mem _ (ih hrest)
    · split at hself
      · rename_i hid
        rw [← hid, ← Option.some.inj hself]
        exact List.mem_cons_self
      · nomatch hself

lemma lastSetting_ne_none (hmem : (id, setting) ∈ sets) : lastSetting id sets ≠ none := by
  induction sets with
  | nil => nomatch hmem
  | cons _ _ ih =>
    intro hnone
    rw [lastSetting, Option.or_eq_none_iff] at hnone
    rcases List.mem_cons.mp hmem with rfl | hrest
    · exact absurd hnone.2 (by simp)
    · exact ih hrest hnone.1

/-- An element that is set to one value only is set to it in the end. -/
lemma lastSetting_eq {value : Option Setting}
    (honly : ∀ setting, (id, setting) ∈ sets ↔ value = some setting) :
    lastSetting id sets = value := by
  cases hlast : lastSetting id sets with
  | none =>
    cases value with
    | none => rfl
    | some setting => exact absurd hlast (lastSetting_ne_none ((honly setting).mpr rfl))
  | some setting => exact ((honly setting).mp (mem_of_lastSetting hlast)).symm

end

/-- The value that the encoder takes for an element, from its alias or its raw key. -/
def carried (names : FieldMeta) (marks : ℤ → Bool) (msg : FluxMsg) (id : ℤ) : Option Value :=
  let aliased := (names.aliasOf id).bind msg.get
  let raw := if 2 ≤ id ∧ id ≤ 128 then msg.get (rawKey id) else none
  if marks id then aliased.or raw else raw.or aliased

section

variable {names : FieldMeta} {moov : Moov} {marks : ℤ → Bool}
  {order : List (Sigma fun _ : ℤ => Text)} {msg : FluxMsg} {id : ℤ} {value : Value}
  (horder : order.Perm names.aliases.entries) (hid : id ≠ 0)

include horder hid

lemma mem_aliasCalls_of_perm :
    (id, value) ∈ aliasCalls order msg ↔ (names.aliasOf id).bind msg.get = some value := by
  rw [mem_aliasCalls_iff, Option.bind_eq_some_iff]
  simp only [hid, ne_eq, not_false_eq_true, true_and, horder.mem_iff]
  simp only [← AList.mem_lookup_iff]
  rfl

lemma mem_ids_aliasCalls :
    id ∈ (aliasCalls order msg).map Prod.fst ↔ (names.aliasOf id).bind msg.get ≠ none := by
  rw [Option.ne_none_iff_exists', List.mem_map]
  constructor
  · rintro ⟨call, hcall, rfl⟩
    exact ⟨call.2, (mem_aliasCalls_of_perm horder hid).mp hcall⟩
  · rintro ⟨value, hvalue⟩
    exact ⟨(id, value), (mem_aliasCalls_of_perm horder hid).mpr hvalue, rfl⟩

/-- What an element is set to in the end is the value carried for it. -/
lemma lastSetting_encodeCalls : lastSetting id (moov.settings (encodeCalls marks order msg)) =
      (carried names marks msg id).map moov.setting := by
  have haliased : lastSetting id (moov.settings (aliasCalls order msg)) =
      ((names.aliasOf id).bind msg.get).map moov.setting := by
    apply lastSetting_eq
    intro setting
    rw [mem_settings_iff, Option.map_eq_some_iff]
    simp only [mem_aliasCalls_of_perm horder hid, eq_comm]
  have hraw : lastSetting id (moov.settings (rawCalls marks order msg)) =
      (if (2 ≤ id ∧ id ≤ 128) ∧ ¬ (marks id = true ∧ (names.aliasOf id).bind msg.get ≠ none) then
        msg.get (rawKey id) else none).map moov.setting := by
    apply lastSetting_eq
    intro setting
    rw [mem_settings_iff, Option.map_eq_some_iff]
    simp only [mem_rawCalls_iff, mem_ids_aliasCalls horder hid]
    split
    · rename_i hfree
      constructor
      · rintro ⟨value, ⟨-, -, hvalue⟩, hsetting⟩
        exact ⟨value, hvalue, hsetting.symm⟩
      · rintro ⟨value, hvalue, hsetting⟩
        exact ⟨value, ⟨hfree.1, hfree.2, hvalue⟩, hsetting.symm⟩
    · rename_i htaken
      constructor
      · rintro ⟨value, ⟨hrange, hfree, -⟩, -⟩
        exact absurd ⟨hrange, hfree⟩ htaken
      · rintro ⟨value, hnone, -⟩
        nomatch hnone
  rw [encodeCalls, settings_append, lastSetting_append, haliased, hraw, carried]
  cases (names.aliasOf id).bind msg.get with
  | none => cases marks id <;> simp
  | some =>
    cases marks id with
    | false | true => simp

omit horder in
lemma lastSetting_setMti (mti : Text) : lastSetting id (moov.setMti mti) = none := by
  rw [Moov.setMti]
  split
  · simp [lastSetting, hid.symm]
  · rfl

lemma lastSetting_encode (hmarks : moov.Marks marks) {encoded : Encoded}
    (hencode : encode moov order msg = .ok encoded) :
    lastSetting id encoded.sets = (carried names marks msg id).map moov.setting := by
  obtain ⟨-, -, hsets, -⟩ := (encode_eq_ok_iff hmarks).mp hencode
  rw [hsets, lastSetting_append, lastSetting_setMti hid, Option.or_none,
    lastSetting_encodeCalls horder hid]

end

section

variable {moov : Moov} {marks : ℤ → Bool} {order : List (Sigma fun _ : ℤ => Text)} {msg : FluxMsg}

lemma ne_zero_of_mem_encodeCalls {call : ℤ × Value}
    (hcall : call ∈ encodeCalls marks order msg) : call.1 ≠ 0 := by
  rcases List.mem_append.mp hcall with haliased | hraw
  · exact (mem_aliasCalls_iff.mp haliased).1
  · have hlow := (mem_rawCalls_iff.mp hraw).1.1
    omega

/-- No alias and no raw key sets the message type. -/
lemma lastSetting_zero_encodeCalls :
    lastSetting 0 (moov.settings (encodeCalls marks order msg)) = none := by
  apply lastSetting_eq
  intro setting
  rw [mem_settings_iff]
  constructor
  · rintro ⟨value, hcall, -⟩
    exact absurd rfl (ne_zero_of_mem_encodeCalls hcall)
  · exact nofun

lemma lastSetting_zero (hmarks : moov.Marks marks) {encoded : Encoded}
    (hencode : encode moov order msg = .ok encoded) :
    lastSetting 0 encoded.sets =
      if encoded.mti ≠ [] ∧ moov.accepts 0 (.text encoded.mti) then some (.text encoded.mti)
      else none := by
  obtain ⟨-, hmti, hsets, -⟩ := (encode_eq_ok_iff hmarks).mp hencode
  rw [hsets, lastSetting_append, lastSetting_zero_encodeCalls, Moov.setMti, hmti]
  split <;> simp [lastSetting]

end

end Fluxrig.Iso8583
