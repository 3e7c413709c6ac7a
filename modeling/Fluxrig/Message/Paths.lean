import Fluxrig.Message.FluxMsg

/-!
# Writing and reading along paths

What `Set` leaves behind under every other key: an entry that is not a map keeps
its value unless the key written is the entry's own or leads to it.  A `Set` that
fails changes nothing.
-/

namespace Fluxrig.Message

lemma splitDots_ne_nil (key : Text) : splitDots key ≠ [] := List.splitOn_ne_nil _ _

lemma splitDots_append (upper lower : Text) :
    splitDots (upper ++ 46 :: lower) = splitDots upper ++ splitDots lower :=
  List.splitOnP_append_cons upper lower rfl

lemma intercalate_splitDots (key : Text) : [46].intercalate (splitDots key) = key :=
  List.intercalate_splitOn 46

lemma splitDots_injective : Function.Injective splitDots := by
  intro left right hparts
  rw [← intercalate_splitDots left, hparts, intercalate_splitDots]

lemma intercalate_start {Symbol : Type*} (separator : List Symbol) {upper : List (List Symbol)}
    (hupper : upper ≠ []) (rest : List (List Symbol)) :
    separator.intercalate upper <+: separator.intercalate (upper ++ rest) := by
  induction upper with
  | nil => exact absurd rfl hupper
  | cons _ upper ih =>
    by_cases hlast : upper = []
    · rw [hlast, List.intercalate_singleton, List.singleton_append]
      by_cases hrest : rest = []
      · rw [hrest, List.intercalate_singleton]
      · rw [List.intercalate_cons_of_ne_nil hrest, List.append_assoc]
        exact List.prefix_append _ _
    · rw [List.cons_append, List.intercalate_cons_of_ne_nil hlast,
        List.intercalate_cons_of_ne_nil (List.append_ne_nil_of_left_ne_nil hlast rest),
        List.prefix_append_right_inj]
      exact ih hlast

/-- A key that leads to another one is the start of it. -/
lemma start_of_splitDots {upper lower : Text}
    (hparts : splitDots upper <+: splitDots lower) : upper <+: lower := by
  obtain ⟨rest, hrest⟩ := hparts
  have hstart := intercalate_start [46] (splitDots_ne_nil upper) rest
  rw [hrest, intercalate_splitDots, intercalate_splitDots] at hstart
  exact hstart

namespace Value

section

variable {tree item leaf : Value} {part : Text} {rest parts upper lower : List Text}

lemma get_cons_eq_some (hrest : rest ≠ []) : tree.get (part :: rest) = some leaf ↔
    ∃ inner, tree.child part = some inner ∧ inner.isMap = true ∧ inner.get rest = some leaf := by
  cases rest with
  | nil => exact absurd rfl hrest
  | cons =>
    rw [get]
    cases tree.child part <;> simp

lemma ne_nil_of_get (hget : tree.get parts = some leaf) : parts ≠ [] := by
  rintro rfl
  nomatch hget

/-- What was written is read back. -/
lemma get_set_self (hparts : parts ≠ []) (hok : (tree.set item parts).2 = none) :
    (tree.set item parts).1.get parts = some item := by
  fun_induction set tree item parts <;> grind [get, isMap]

lemma get_empty (parts : List Text) : (object []).get parts = none := by
  fun_cases get (object []) parts <;> grind [child]

/-- An entry that is not a map stays, unless the key written leads to it.  A key below it
cannot be written at all. -/
lemma get_set_other (hupper : upper ≠ []) (hok : (tree.set item upper).2 = none)
    (hget : tree.get lower = some leaf) (hleaf : leaf.isMap = false)
    (hapart : ¬ upper <+: lower) : (tree.set item upper).1.get lower = some leaf := by
  fun_induction set tree item upper generalizing lower with
  | case1 | case3 | case6 | case7 => grind
  | case2 | case4 | case5 =>
    cases lower with
    | nil => cases hget
    | cons _ low => cases low <;> grind [get]

/-- Nothing is left below an entry that is not a map. -/
lemma get_set_below (hupper : upper ≠ []) (hok : (tree.set item upper).2 = none)
    (hitem : item.isMap = false) (hrest : rest ≠ []) :
    (tree.set item upper).1.get (upper ++ rest) = none := by
  fun_induction set tree item upper <;> cases rest <;> grind [get]

/-- A key that leads to an entry can be written. -/
lemma set_ok_of_get (hupper : upper ≠ []) (hget : tree.get (upper ++ rest) = some leaf) :
    (tree.set item upper).2 = none := by
  fun_induction set tree item upper <;> cases rest <;> grind [get]

/-- A key apart from the one written reads as before, whether or not the write failed. -/
lemma get_set_apart (hdown : ¬ upper <+: lower) (hup : ¬ lower <+: upper) :
    (tree.set item upper).1.get lower = tree.get lower := by
  fun_induction set tree item upper generalizing lower with
  | case1 | case3 | case6 | case7 => grind
  | case2 | case4 | case5 =>
    cases lower with
    | nil => rfl
    | cons _ low => cases low <;> grind [get, get_empty]

/-- The way to an entry that was written leads through maps. -/
lemma get_set_on_way (hrest : rest ≠ []) (hupper : upper ≠ [])
    (hok : (tree.set item (upper ++ rest)).2 = none) :
    ∃ inner, (tree.set item (upper ++ rest)).1.get upper = some inner ∧ inner.isMap = true := by
  induction upper generalizing tree with
  | nil => exact absurd rfl hupper
  | cons part upper ih => cases upper <;> cases rest <;> grind [get, set, isMap]

/-- Nothing that is not a map stands on the way along the parts. -/
def Open (tree : Value) (parts : List Text) : Prop :=
  ∀ upper rest leaf, upper ++ rest = parts → rest ≠ [] → tree.get upper = some leaf →
    leaf.isMap = true

lemma open_singleton : tree.Open [part] := by
  intro upper rest leaf hsplit hrest hget
  cases upper <;> simp_all [get]

lemma open_empty (parts : List Text) : (object []).Open parts := by
  intro upper rest leaf _ _ hget
  rw [get_empty] at hget
  nomatch hget

lemma open_cons {next : Text} : tree.Open (part :: next :: rest) ↔
    ∀ inner, tree.child part = some inner → inner.isMap = true ∧ inner.Open (next :: rest) := by
  constructor
  · intro hopen inner hchild
    have hinner := hopen [part] (next :: rest) inner rfl (List.cons_ne_nil _ _) hchild
    refine ⟨hinner, ?_⟩
    intro upper low leaf hsplit hlow hget
    apply hopen (part :: upper) low leaf
    · rw [List.cons_append, hsplit]
    · exact hlow
    · cases upper <;> grind [get]
  · intro hbelow upper low leaf hsplit hlow hget
    cases upper with
    | nil => cases hget
    | cons head tail =>
      rw [List.cons_append, List.cons.injEq] at hsplit
      obtain ⟨rfl, hsplit⟩ := hsplit
      cases tail with
      | nil => exact (hbelow leaf hget).1
      | cons => grind [get, Open]

/-- Exactly when a write succeeds. -/
lemma set_ok_iff (hparts : parts ≠ []) :
    (tree.set item parts).2 = none ↔ tree.isMap = true ∧ tree.Open parts := by
  fun_induction set tree item parts <;> grind [open_singleton, open_cons, set_empty_ok]

lemma leads_further {above : List Text} (hdown : upper <+: above)
    (hsplit : above ++ rest = parts) (hrest : rest ≠ []) : upper <+: parts ∧ upper ≠ parts := by
  refine ⟨hdown.trans ⟨rest, hsplit⟩, ?_⟩
  rintro rfl
  have hlength := hdown.length_le
  rw [← hsplit, List.length_append] at hlength
  exact hrest (List.length_eq_zero_iff.mp (by omega))

lemma more_of_not_leads {above more : List Text} (hdown : ¬ upper <+: above)
    (hsplit : above ++ more = upper) : more ≠ [] := by
  rintro rfl
  rw [List.append_nil] at hsplit
  exact hdown (hsplit ▸ List.prefix_refl above)

/-- What a successful write of a leaf leaves open: all that was, except below it. -/
lemma open_set_iff (hupper : upper ≠ []) (hok : (tree.set item upper).2 = none)
    (hitem : item.isMap = false) :
    (tree.set item upper).1.Open parts ↔
      tree.Open parts ∧ ¬ (upper <+: parts ∧ upper ≠ parts) := by
  have hself := get_set_self hupper hok
  have hway := ((set_ok_iff hupper).mp hok).2
  constructor
  · intro hopen
    have hnot : ¬ (upper <+: parts ∧ upper ≠ parts) := by
      rintro ⟨⟨rest, hrest⟩, hne⟩
      have hmore : rest ≠ [] := by
        rintro rfl
        exact hne ((List.append_nil upper).symm.trans hrest)
      have hmap := hopen upper rest item hrest hmore hself
      rw [hitem] at hmap
      nomatch hmap
    refine ⟨?_, hnot⟩
    intro above rest leaf hsplit hrest hget
    by_cases hdown : upper <+: above
    · exact absurd (leads_further hdown hsplit hrest) hnot
    · by_cases hup : above <+: upper
      · obtain ⟨more, hmore⟩ := hup
        exact hway above more leaf hmore (more_of_not_leads hdown hmore) hget
      · apply hopen above rest leaf hsplit hrest
        rw [get_set_apart hdown hup]
        exact hget
  · rintro ⟨hopen, hnot⟩
    intro above rest leaf hsplit hrest hget
    by_cases hdown : upper <+: above
    · exact absurd (leads_further hdown hsplit hrest) hnot
    · by_cases hup : above <+: upper
      · obtain ⟨more, hmore⟩ := hup
        have hrestMore : more ≠ [] := more_of_not_leads hdown hmore
        have habove := ne_nil_of_get hget
        rw [← hmore] at hok hget
        obtain ⟨inner, hinner, hmap⟩ := get_set_on_way hrestMore habove hok
        rw [Option.some.inj (hget.symm.trans hinner)]
        exact hmap
      · rw [get_set_apart hdown hup] at hget
        exact hopen above rest leaf hsplit hrest hget

/-- Fields stay fields. -/
lemma set_object (fields : List (Text × Value)) (item : Value) (parts : List Text) :
    ∃ changed, ((object fields).set item parts).1 = object changed := by
  fun_cases set (object fields) item parts <;> exact ⟨_, rfl⟩

end

end Value

namespace FluxMsg

/-- The data of a message as one container. -/
def root (msg : FluxMsg) : Value := .object (msg.data.getD [])

section

variable {msg : FluxMsg} {key other : Text} {item leaf : Value}

lemma set_snd : (msg.set key item).2 = (msg.root.set item (splitDots key)).2 := by
  obtain ⟨changed, hchanged⟩ := Value.set_object (msg.data.getD []) item (splitDots key)
  rw [set, ← Prod.mk.eta (p := (Value.object _).set item _), hchanged]
  rfl

lemma root_set : (msg.set key item).1.root = (msg.root.set item (splitDots key)).1 := by
  obtain ⟨changed, hchanged⟩ := Value.set_object (msg.data.getD []) item (splitDots key)
  rw [set, ← Prod.mk.eta (p := (Value.object _).set item _), hchanged]
  exact hchanged.symm

/-- A `Set` that fails leaves the data alone. -/
lemma root_set_of_failed (hfailed : (msg.set key item).2 ≠ none) :
    (msg.set key item).1.root = msg.root := by
  rw [set_snd] at hfailed
  rw [root_set, Value.set_of_failed hfailed]

lemma set_ok_iff : (msg.set key item).2 = none ↔ msg.root.Open (splitDots key) := by
  rw [set_snd, Value.set_ok_iff (splitDots_ne_nil key)]
  exact and_iff_right rfl

lemma get_set_self (hok : (msg.set key item).2 = none) :
    (msg.set key item).1.get key = some item := by
  rw [set_snd] at hok
  rw [get, ← root, root_set]
  exact Value.get_set_self (splitDots_ne_nil key) hok

lemma get_set_other (hok : (msg.set key item).2 = none) (hget : msg.get other = some leaf)
    (hleaf : leaf.isMap = false) (hapart : ¬ splitDots key <+: splitDots other) :
    (msg.set key item).1.get other = some leaf := by
  rw [set_snd] at hok
  rw [get, ← root, root_set]
  exact Value.get_set_other (splitDots_ne_nil key) hok hget hleaf hapart

lemma set_ok_of_get (hget : msg.get other = some leaf)
    (hleads : splitDots key <+: splitDots other) : (msg.set key item).2 = none := by
  obtain ⟨rest, hrest⟩ := hleads
  rw [set_snd]
  apply Value.set_ok_of_get (splitDots_ne_nil key)
  rw [hrest]
  exact hget

/-- A text written above an entry takes the entry away. -/
lemma get_set_above (hget : msg.get other = some leaf) (hitem : item.isMap = false)
    (hleads : splitDots key <+: splitDots other) (hother : key ≠ other) :
    (msg.set key item).1.get other = none := by
  have hok : (msg.set key item).2 = none := set_ok_of_get hget hleads
  rw [set_snd] at hok
  obtain ⟨rest, hrest⟩ := hleads
  have hmore : rest ≠ [] := by
    rintro rfl
    rw [List.append_nil] at hrest
    exact hother (splitDots_injective hrest)
  rw [get, ← root, root_set, ← hrest]
  exact Value.get_set_below (splitDots_ne_nil key) hok hitem hmore

/-- **`Get` after `Set`.**  What is written is read back, and a key that is neither above
nor below the one written reads as before.  A `Set` that fails leaves the whole message as
it was. -/
theorem set_get_laws {fields : List (Text × Value)} (hdata : msg.data = some fields)
    (key : Text) (item : Value) :
    ((msg.set key item).2 = none → (msg.set key item).1.get key = some item ∧
      ∀ other, ¬ splitDots key <+: splitDots other → ¬ splitDots other <+: splitDots key →
        (msg.set key item).1.get other = msg.get other) ∧
    ((msg.set key item).2 ≠ none → (msg.set key item).1 = msg) := by
  constructor
  · intro hok
    refine ⟨get_set_self hok, ?_⟩
    intro other hdown hup
    rw [get, ← root, root_set]
    exact Value.get_set_apart hdown hup
  · intro hfailed
    rw [set_snd] at hfailed
    have hsame := Value.set_of_failed hfailed
    rw [set, ← Prod.mk.eta (p := (Value.object _).set item _), ← root, hsame, root, hdata]
    exact congrArg (fun data => { msg with data }) hdata.symm

/-- A field is written below a map, and a write through a text fails. -/
theorem set_get_laws_nested :
    let msg : FluxMsg := ⟨0, 0, [], 0, ∅, some [(utf8 "a", .object []), (utf8 "b", .null)],
      0, [], [], 0⟩
    ((msg.set (utf8 "a.c") .null).1.get (utf8 "a.c")).isSome = true ∧
      (msg.set (utf8 "b.c") .null).1 = msg := by
  intro msg
  have hlaws := @set_get_laws msg _ rfl
  exact ⟨by rw [((hlaws (utf8 "a.c") .null).1 (by decide)).1]; rfl,
    (hlaws (utf8 "b.c") .null).2 (by decide)⟩

end

end FluxMsg

end Fluxrig.Message
