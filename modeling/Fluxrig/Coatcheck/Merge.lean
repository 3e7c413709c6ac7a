import Fluxrig.Coatcheck.Gear

/-!
# What a merge that preserves leaves

`lookup_deepMergeData` says what stands under one key after a merge; the rest follows
along paths.  What the message holds stays, and what it does not meet comes in, if the
keys of all maps are strings.
-/

namespace Fluxrig.Coatcheck

open Message

section

variable {sprint : ℕ → Text} {dst src : List (Text × Value)}

lemma lookup_dropField (key other : Text) (fields : List (Text × Value)) :
    (dropField key fields).lookup other = if other = key then none else fields.lookup other :=
  lookup_filter_ne key other fields

/-- One entry after the merge: maps are merged, and otherwise the old entry stays. -/
def mergedEntry (sprint : ℕ → Text) (old stored : Option Value) : Option Value :=
  match old, stored with
  | none, stored => stored
  | old, none => old
  | some old, some stored =>
      match stored.asDataMap sprint, old.asDataMap sprint with
      | some sm, some dm => some (.object (deepMergeData sprint false dm sm))
      | _, _ => some old

lemma mergedEntry_none (old : Option Value) : mergedEntry sprint old none = old := by
  cases old <;> rfl

lemma deepMergeData_cons (key : Text) (sv : Value) (rest : List (Text × Value)) :
    ∃ merged, deepMergeData sprint false dst ((key, sv) :: rest) =
        deepMergeData sprint false merged (dropField key rest) ∧
      ∀ other, merged.lookup other =
        if other = key then mergedEntry sprint (dst.lookup key) (some sv)
        else dst.lookup other := by
  rw [deepMergeData]
  refine ⟨_, rfl, ?_⟩
  intro other
  split
  · rename_i sm dm hsv hdm
    obtain ⟨old, hold, hold'⟩ := Option.bind_eq_some_iff.mp hdm
    rw [lookup_putField, hold, mergedEntry, hsv, hold']
  · rename_i hnot
    cases hold : dst.lookup key with
    | none =>
      simp only [Bool.false_or, Option.isNone_none, if_true]
      rw [lookup_putField, mergedEntry]
    | some old =>
      simp only [Bool.false_or, Option.isNone_some, Bool.false_eq_true, if_false]
      by_cases hother : other = key
      · rw [if_pos hother, hother, hold, mergedEntry]
        cases hsv : sv.asDataMap sprint with
        | none => rfl
        | some sm =>
          cases hdm : old.asDataMap sprint with
          | none => rfl
          | some dm => exact (hnot sm dm hsv (by rw [hold]; exact hdm)).elim
      · rw [if_neg hother]

/-- What stands under a key after the merge. -/
lemma lookup_deepMergeData (key : Text) : (deepMergeData sprint false dst src).lookup key =
      mergedEntry sprint (dst.lookup key) (src.lookup key) := by
  -- The loop takes up one key of `src` after the other.
  induction hlength : src.length using Nat.strong_induction_on generalizing dst src with
  | _ length ih =>
    subst hlength
    cases src with
    | nil =>
      rw [deepMergeData, List.lookup_nil, mergedEntry_none]
    | cons field rest =>
      obtain ⟨first, sv⟩ := field
      obtain ⟨merged, hstep, hmerged⟩ := @deepMergeData_cons sprint dst first sv rest
      have hshorter : (dropField first rest).length < ((first, sv) :: rest).length :=
        Nat.lt_succ_of_le (List.length_filter_le _ _)
      rw [hstep, ih _ hshorter rfl, hmerged, lookup_dropField, lookup_cons_ite]
      by_cases hkey : key = first
      · subst hkey
        rw [if_pos rfl, if_pos rfl, if_pos rfl, mergedEntry_none]
      · rw [if_neg hkey, if_neg hkey, if_neg hkey]

variable {path : List Text} {item : Value}

/-- An entry stays as it is, or two maps are merged. -/
lemma mergedEntry_cases (sprint : ℕ → Text) (old : Value) (stored : Option Value) :
    mergedEntry sprint (some old) stored = some old ∨
      ∃ map sm dm, stored = some map ∧ map.asDataMap sprint = some sm ∧
        old.asDataMap sprint = some dm ∧
        mergedEntry sprint (some old) stored =
          some (.object (deepMergeData sprint false dm sm)) := by
  cases stored with
  | none => exact .inl rfl
  | some map =>
    rw [mergedEntry]
    cases hsm : map.asDataMap sprint with
    | none => exact .inl rfl
    | some sm =>
      cases hdm : old.asDataMap sprint with
      | none => exact .inl rfl
      | some dm => exact .inr ⟨map, sm, dm, rfl, hsm, rfl, rfl⟩

lemma child_deepMergeData (part : Text) :
    (Value.object (deepMergeData sprint false dst src)).child part =
      mergedEntry sprint ((Value.object dst).child part) ((Value.object src).child part) :=
  lookup_deepMergeData part

/-- Where the source has no entries, nothing changes. -/
lemma get_deepMergeData_of_empty (hempty : ∀ key, src.lookup key = none) (path : List Text) :
    (Value.object (deepMergeData sprint false dst src)).get path = (Value.object dst).get path := by
  cases path with
  | nil => rfl
  | cons =>
    apply Value.get_congr
    rw [child_deepMergeData, Value.child, Value.child, hempty, mergedEntry_none]

/-- An entry that is no map stays, and a map stays a map. -/
def Kept (item item' : Value) : Prop := item' = item ∨ item.isMap = true ∧ item'.isMap = true

lemma kept_deepMergeData (hkeys : Value.KeysIn (fun _ => False) (.object dst))
    (hget : (Value.object dst).get path = some item) :
    ∃ item', (Value.object (deepMergeData sprint false dst src)).get path = some item' ∧
      Kept item item' := by
  induction path generalizing dst src with
  | nil => nomatch hget
  | cons part rest ih =>
    cases hold : (Value.object dst).child part with
    | none =>
      rw [Value.get_no_child hold] at hget
      nomatch hget
    | some old =>
      have hchild := @child_deepMergeData sprint dst src part
      rw [hold] at hchild
      rcases mergedEntry_cases sprint old ((Value.object src).child part) with
        hsame | ⟨map, sm, dm, -, hsm, hdm, hmerged⟩
      · rw [hsame, ← hold] at hchild
        exact ⟨item, by rw [Value.get_congr hchild, hget], .inl rfl⟩
      · rw [hmerged] at hchild
        by_cases hrest : rest = []
        · subst hrest
          obtain rfl : old = item := Option.some.inj (hold.symm.trans hget)
          have hmap : old.isMap = true := by
            by_contra hleaf
            rw [Value.asDataMap_eq_none_iff.mpr (Bool.eq_false_iff.mpr hleaf)] at hdm
            nomatch hdm
          exact ⟨_, hchild, .inr ⟨hmap, rfl⟩⟩
        · have hinner := hkeys.child hold
          rw [Value.get_child hold hrest, ← Value.get_asDataMap hinner hdm] at hget
          rw [Value.get_child hchild hrest]
          exact ih (Value.keysIn_asDataMap hinner hdm) hget

/-- What the message does not meet comes in. -/
lemma get_deepMergeData (hdst : Value.KeysIn (fun _ => False) (.object dst))
    (hsrc : Value.KeysIn (fun _ => False) (.object src))
    (hopen : (Value.object dst).Open path) (hfree : (Value.object dst).get path = none)
    (hget : (Value.object src).get path = some item) :
    (Value.object (deepMergeData sprint false dst src)).get path = some item := by
  induction path generalizing dst src with
  | nil => nomatch hget
  | cons part rest ih =>
    have hchild := @child_deepMergeData sprint dst src part
    cases hold : (Value.object dst).child part with
    | none =>
      rw [hold, mergedEntry] at hchild
      rw [Value.get_congr hchild, hget]
    | some old =>
      have hrest : rest ≠ [] := by
        rintro rfl
        nomatch hfree.symm.trans hold
      -- Both sides have a map here, so the walk goes on in the merge of the two.
      obtain ⟨stored, hstored, hstoredMap, hdeep⟩ := (Value.get_cons_eq_some hrest).mp hget
      have holdMap : old.isMap = true := hopen [part] rest old rfl hrest hold
      rw [Value.get_child hold hrest] at hfree
      cases hsm : stored.asDataMap sprint with
      | none =>
        rw [Value.asDataMap_eq_none_iff.mp hsm] at hstoredMap
        nomatch hstoredMap
      | some =>
        cases hdm : old.asDataMap sprint with
        | none =>
          rw [Value.asDataMap_eq_none_iff.mp hdm] at holdMap
          nomatch holdMap
        | some =>
          simp only [hold, hstored, mergedEntry, hsm, hdm] at hchild
          have hinner := hdst.child hold
          have hinner' := hsrc.child hstored
          rw [Value.get_child hchild hrest]
          apply ih (Value.keysIn_asDataMap hinner hdm) (Value.keysIn_asDataMap hinner' hsm)
          · intro upper low leaf hsplit hlow hleaf
            rw [Value.get_asDataMap hinner hdm] at hleaf
            exact hopen.below hold upper low leaf hsplit hlow hleaf
          · rw [Value.get_asDataMap hinner hdm, hfree]
          · rw [Value.get_asDataMap hinner' hsm, hdeep]

end

lemma lookup_foldl_entries (entries : List (Sigma fun _ : Text => Text)) (own : Metadata)
    (name : Text) :
    (entries.foldl (fun merged entry =>
        if false || (merged.lookup entry.1).isNone then merged.insert entry.1 entry.2
        else merged) own).lookup name =
      (own.lookup name).or (entries.dlookup name) := by
  induction entries generalizing own with
  | nil => exact (Option.or_none).symm
  | cons entry _ ih =>
    obtain ⟨key, value⟩ := entry
    rw [List.foldl_cons, ih]
    cases hown : own.lookup key with
    | none =>
      simp only [Bool.false_or, Option.isNone_none, if_true]
      by_cases hname : name = key
      · subst hname
        rw [AList.lookup_insert, hown, List.dlookup_cons_eq, Option.some_or, Option.none_or]
      · rw [AList.lookup_insert_ne hname, List.dlookup_cons_ne _ _ hname]
    | some =>
      simp only [Bool.false_or, Option.isNone_some, Bool.false_eq_true, if_false]
      by_cases hname : name = key
      · subst hname
        rw [hown, Option.some_or, Option.some_or]
      · rw [List.dlookup_cons_ne _ _ hname]

end Fluxrig.Coatcheck
