import Fluxrig.Message.Paths

/-!
# The two shapes of a map

A nested map is a `map[string]any` in the process that made it and a `map[any]any`
once it was decoded.  `asDataMap` brings either to the first shape, and prints keys
that are not strings.  Values are the `Same` up to shape if they have the same entries.
-/

namespace Fluxrig.Message

/-- A fresh message with its maps allocated. -/
def FluxMsg.new : FluxMsg where
  fluxID := 0
  refFluxID := 0
  traceID := []
  srcGearID := 0
  metadata := ∅
  data := some []
  flags := 0
  rawPayload := []
  path := []
  tsInit := 0

/-- The key as a string, with `fmt.Sprint` for those that are none. -/
def MapKey.printed (sprint : ℕ → Text) : MapKey → Text
  | .text content => content
  | .other identity => sprint identity

namespace Value

/-- The entries as a `map[string]any`.  Where two keys print alike the loop of the source
keeps the one it visits last, which is the first one here. -/
def asDataMap (sprint : ℕ → Text) : Value → Option (List (Text × Value))
  | object fields => some fields
  | table fields => some (fields.map fun field => (field.1.printed sprint, field.2))
  | _ => none

/-- What a map holds under a key of any type. -/
def entry : Value → MapKey → Option Value
  | object fields, .text part => fields.lookup part
  | table fields, key => fields.lookup key
  | _, _ => none

section

variable {tree inner : Value} {part : Text} {path : List Text}

@[simp]
lemma entry_text (tree : Value) (part : Text) : tree.entry (.text part) = tree.child part := by
  cases tree <;> rfl

lemma asDataMap_eq_none_iff {sprint : ℕ → Text} :
    tree.asDataMap sprint = none ↔ tree.isMap = false := by
  cases tree <;> simp [asDataMap, isMap]

lemma get_of_leaf (hleaf : tree.isMap = false) (path : List Text) : tree.get path = none := by
  fun_cases get tree path <;> grind

/-- One step down a path. -/
lemma get_child (hchild : tree.child part = some inner) (hpath : path ≠ []) :
    tree.get (part :: path) = inner.get path := by
  cases path with
  | nil => exact absurd rfl hpath
  | cons =>
    by_cases hmap : inner.isMap = true
    · grind [get]
    · grind [get, get_of_leaf]

lemma get_no_child (hchild : tree.child part = none) : tree.get (part :: path) = none := by
  cases path <;> simp [Value.get, hchild]

lemma get_congr {other : Value} (hchild : tree.child part = other.child part) :
    tree.get (part :: path) = other.get (part :: path) := by
  cases path <;> simp [Value.get, hchild]

lemma Open.below (hopen : tree.Open (part :: path))
    (hchild : tree.child part = some inner) : inner.Open path := by
  cases path with
  | nil =>
    intro upper rest leaf hsplit hrest
    exact absurd (List.append_eq_nil_iff.mp hsplit).2 hrest
  | cons => exact (open_cons.mp hopen inner hchild).2

end

lemma sizeOf_of_lookup {Key : Type*} [SizeOf Key] [BEq Key] [LawfulBEq Key] {key : Key}
    {item : Value} {fields : List (Key × Value)} (hlookup : fields.lookup key = some item) :
    sizeOf item < sizeOf fields := by
  obtain ⟨before, after, rfl, -⟩ := List.lookup_eq_some_iff.mp hlookup
  have hmem : (key, item) ∈ before ++ (key, item) :: after :=
    List.mem_append_right _ List.mem_cons_self
  have hlt := List.sizeOf_lt_of_mem hmem
  rw [Prod.mk.sizeOf_spec] at hlt
  omega

/-- The keys that are no strings, wherever a path leads, are among the allowed ones. -/
structure KeysIn (allowed : ℕ → Prop) (tree : Value) : Prop where
  own : ∀ identity, tree.entry (.other identity) ≠ none → allowed identity
  below : ∀ path inner identity, tree.get path = some inner →
    inner.entry (.other identity) ≠ none → allowed identity

namespace KeysIn

variable {allowed : ℕ → Prop} {tree inner : Value} {part : Text}

lemma child (hkeys : KeysIn allowed tree) (hchild : tree.child part = some inner) :
    KeysIn allowed inner where
  own := fun identity => hkeys.below [part] inner identity hchild
  below := by
    intro path deep identity hget
    have hpath := ne_nil_of_get hget
    apply hkeys.below (part :: path) deep identity
    rw [get_child hchild hpath, hget]

lemma empty : KeysIn allowed (object []) where
  own := fun _ hentry => absurd rfl hentry
  below := by
    intro path inner identity hget
    rw [get_empty] at hget
    nomatch hget

lemma leaf (hleaf : tree.isMap = false) : KeysIn allowed tree where
  own := by
    intro identity hentry
    cases tree <;> first | exact absurd rfl hentry | nomatch hleaf
  below := by
    intro path inner identity hget
    rw [get_of_leaf hleaf] at hget
    nomatch hget

section

variable (hkeys : KeysIn allowed tree)

include hkeys

lemma get {path : List Text} (hget : tree.get path = some inner) : KeysIn allowed inner := by
  fun_induction Value.get tree path <;> grind [KeysIn.child]

lemma put (hinner : KeysIn allowed inner) : KeysIn allowed (tree.put part inner) := by
  have hown : ∀ identity, (tree.put part inner).entry (.other identity) =
      tree.entry (.other identity) := by
    cases tree <;> simp [Value.put, Value.entry, lookup_putField]
  constructor
  · intro identity hentry
    rw [hown] at hentry
    exact hkeys.own identity hentry
  · intro path deep identity hget
    have hbelow := hkeys.below path deep identity
    have hdeeper := hinner.below path.tail deep identity
    have htop := hinner.own identity
    cases path with
    | nil => cases hget
    | cons _ rest => cases rest <;> grind [Value.get]

lemma set {item : Value} (hitem : KeysIn allowed item)
    (path : List Text) : KeysIn allowed (tree.set item path).1 := by
  fun_induction Value.set tree item path <;> grind [put, KeysIn.child, KeysIn.empty]

lemma mono {wider : ℕ → Prop}
    (hwider : ∀ identity, allowed identity → wider identity) : KeysIn wider tree where
  own := fun identity hentry => hwider identity (hkeys.own identity hentry)
  below := fun path inner identity hget hentry =>
    hwider identity (hkeys.below path inner identity hget hentry)

end

end KeysIn

section

variable {tree : Value} {sprint : ℕ → Text} {fields : List (Text × Value)}

lemma lookup_printed {entries : List (MapKey × Value)}
    (hkeys : ∀ identity, entries.lookup (.other identity) = none) (part : Text) :
    (entries.map fun field => (field.1.printed sprint, field.2)).lookup part =
      entries.lookup (.text part) := by
  induction entries with
  | nil => rfl
  | cons field rest ih =>
    obtain ⟨key, item⟩ := field
    cases key <;> grind [MapKey.printed]

section

variable (hkeys : KeysIn (fun _ => False) tree) (hfields : tree.asDataMap sprint = some fields)

include hkeys hfields

/-- Where all keys are strings, the entries are the same in either shape. -/
lemma lookup_asDataMap (part : Text) : fields.lookup part = tree.child part := by
  cases tree with
  | object =>
    rw [← Option.some.inj hfields]
    rfl
  | table =>
    rw [← Option.some.inj hfields]
    apply lookup_printed
    intro identity
    by_contra hentry
    exact hkeys.own identity hentry
  | _ => nomatch hfields

lemma get_asDataMap (path : List Text) : (object fields).get path = tree.get path := by
  cases path with
  | nil => rfl
  | cons part => exact get_congr (lookup_asDataMap hkeys hfields part)

lemma keysIn_asDataMap : KeysIn (fun _ => False) (object fields) where
  own := fun _ hentry => hentry rfl
  below := by
    intro path inner identity hget
    rw [get_asDataMap hkeys hfields] at hget
    exact hkeys.below path inner identity hget

end

end

inductive Same : Value → Value → Prop
  | leaf {value : Value} (hleaf : value.isMap = false) : Same value value
  | list {items others : List Value} (hitems : List.Forall₂ Same items others) :
      Same (list items) (list others)
  | map {value other : Value} (hvalue : value.isMap = true) (hother : other.isMap = true)
      (hkeys : ∀ key, value.entry key = none ↔ other.entry key = none)
      (hentries : ∀ key item item', value.entry key = some item → other.entry key = some item' →
        Same item item') : Same value other

namespace Same

variable {value other item : Value} {part : Text} {path : List Text}

section

variable (hsame : Same value other)

include hsame

lemma isMap_eq : other.isMap = value.isMap := by
  cases hsame with
  | leaf | list => rfl
  | map hvalue hother => rw [hvalue, hother]

lemma entry {key : MapKey} (hentry : value.entry key = some item)
    (hmap : value.isMap = true) : ∃ item', other.entry key = some item' ∧ Same item item' := by
  cases hsame with
  | leaf hleaf =>
    rw [hleaf] at hmap
    nomatch hmap
  | list => nomatch hmap
  | map _ _ hkeys hentries =>
    cases hfound : other.entry key with
    | none =>
      rw [(hkeys key).mpr hfound] at hentry
      nomatch hentry
    | some item' => exact ⟨item', rfl, hentries key item item' hentry hfound⟩

lemma entry_eq_none (hmap : value.isMap = true) (key : MapKey) :
    value.entry key = none ↔ other.entry key = none := by
  cases hsame with
  | leaf => rfl
  | list => nomatch hmap
  | map _ _ hkeys => exact hkeys key

/-- Paths lead to the same values. -/
lemma get (hget : value.get path = some item) :
    ∃ item', other.get path = some item' ∧ Same item item' := by
  induction path generalizing value other with
  | nil => nomatch hget
  | cons part rest ih =>
    cases hchild : value.child part with
    | none =>
      rw [get_no_child hchild] at hget
      nomatch hget
    | some inner =>
      have hmap := isMap_of_child hchild
      rw [← entry_text] at hchild
      obtain ⟨inner', hother, hinner⟩ := hsame.entry hchild hmap
      rw [entry_text] at hchild hother
      by_cases hrest : rest = []
      · subst hrest
        have hitem : inner = item := Option.some.inj (hchild.symm.trans hget)
        rw [← hitem]
        exact ⟨inner', hother, hinner⟩
      · rw [get_child hchild hrest] at hget
        rw [get_child hother hrest]
        exact ih hinner hget

lemma get_back (hget : other.get path = some item) :
    ∃ item', value.get path = some item' ∧ Same item' item := by
  induction path generalizing value other with
  | nil => nomatch hget
  | cons part rest ih =>
    cases hchild : other.child part with
    | none =>
      rw [get_no_child hchild] at hget
      nomatch hget
    | some inner =>
      have hmap : value.isMap = true := by
        rw [← hsame.isMap_eq]
        exact isMap_of_child hchild
      cases hback : value.child part with
      | none =>
        have hnone := hsame.entry_eq_none hmap (.text part)
        rw [entry_text, entry_text] at hnone
        rw [hnone.mp hback] at hchild
        nomatch hchild
      | some inner' =>
        rw [← entry_text] at hback
        obtain ⟨found, hfound, hinner⟩ := hsame.entry hback hmap
        rw [entry_text] at hback hfound
        obtain rfl : found = inner := Option.some.inj (hfound.symm.trans hchild)
        by_cases hrest : rest = []
        · subst hrest
          have hitem : found = item := Option.some.inj (hchild.symm.trans hget)
          rw [← hitem]
          exact ⟨inner', hback, hinner⟩
        · rw [get_child hchild hrest] at hget
          rw [get_child hback hrest]
          exact ih hinner hget

end

lemma refl (value : Value) : Same value value := by
  have hmap : value.isMap = true → (∀ key item, value.entry key = some item → Same item item) →
      Same value value := by
    intro hvalue hitems
    apply Same.map hvalue hvalue (fun _ => Iff.rfl)
    intro key item item' hitem hitem'
    obtain rfl : item = item' := Option.some.inj (hitem.symm.trans hitem')
    exact hitems key item hitem
  cases value with
  | list =>
    apply Same.list
    rw [List.forall₂_same]
    intro item hitem
    exact refl item
  | object fields =>
    apply hmap rfl
    intro key item hitem
    cases key with
    | text =>
      have hlt : sizeOf item < sizeOf fields := sizeOf_of_lookup hitem
      exact refl item
    | other => nomatch hitem
  | table fields =>
    apply hmap rfl
    intro key item hitem
    have hlt : sizeOf item < sizeOf fields := sizeOf_of_lookup hitem
    exact refl item
  | _ => exact Same.leaf rfl
termination_by sizeOf value
decreasing_by
  all_goals
    simp only [list.sizeOf_spec, object.sizeOf_spec, table.sizeOf_spec]
    first
      | exact Nat.lt_add_left 1 hlt
      | exact Nat.lt_add_left 1 (List.sizeOf_lt_of_mem hitem)

/-- Keys that are no strings survive. -/
lemma keysIn {allowed : ℕ → Prop} (hsame : Same value other) (hkeys : KeysIn allowed value) :
    KeysIn allowed other := by
  have hown : ∀ {value other : Value}, Same value other → ∀ identity,
      other.entry (.other identity) ≠ none → value.entry (.other identity) ≠ none := by
    intro value other hsame identity hentry hnone
    by_cases hmap : value.isMap = true
    · exact hentry ((hsame.entry_eq_none hmap _).mp hnone)
    · apply hentry
      have hleaf : other.isMap = false := by
        rw [hsame.isMap_eq]
        exact Bool.eq_false_iff.mpr hmap
      cases other <;> first | rfl | nomatch hleaf
  constructor
  · intro identity hentry
    exact hkeys.own identity (hown hsame identity hentry)
  · intro path inner identity hget hentry
    obtain ⟨inner', hback, hinner⟩ := hsame.get_back hget
    exact hkeys.below path inner' identity hback (hown hinner identity hentry)

end Same

/-- Every entry of the part is in the whole, where maps of the part may have less in them. -/
def PartOf (part whole : Value) : Prop :=
  ∀ path item, part.get path = some item →
    ∃ item', whole.get path = some item' ∧ (item = item' ∨ item.isMap = true ∧ item'.isMap = true)

section

variable {part whole item : Value} {path : List Text}

/-- A write of what is there already. -/
lemma set_of_get (hget : whole.get path = some item) : (whole.set item path).1 = whole := by
  fun_induction Value.set whole item path <;> grind [get, put_of_child]

lemma get_set_append {rest : List Text} (hpath : path ≠ [])
    (hok : (whole.set item path).2 = none) (hrest : rest ≠ []) :
    (whole.set item path).1.get (path ++ rest) = item.get rest := by
  fun_induction Value.set whole item path <;> cases rest <;> grind [get, get_of_leaf]

/-- So can be written what is there already. -/
lemma set_ok_of_get_self (hpath : path ≠ []) (hget : whole.get path = some item) :
    (whole.set item path).2 = none := by
  rw [← List.append_nil path] at hget
  exact set_ok_of_get hpath hget

lemma get_append {rest : List Text} (hpath : path ≠ [])
    (hget : whole.get path = some item) (hrest : rest ≠ []) :
    whole.get (path ++ rest) = item.get rest := by
  rw [← get_set_append hpath (set_ok_of_get_self hpath hget) hrest, set_of_get hget]

/-- The way to an entry leads through maps. -/
lemma get_on_way {rest : List Text} (hpath : path ≠ []) (hrest : rest ≠ [])
    (hget : whole.get (path ++ rest) = some item) :
    ∃ inner, whole.get path = some inner ∧ inner.isMap = true := by
  have hok := set_ok_of_get_self (List.append_ne_nil_of_left_ne_nil hpath rest) hget
  have hway := get_set_on_way hrest hpath hok
  rw [set_of_get hget] at hway
  exact hway

namespace PartOf

lemma empty : PartOf (object []) whole := by
  intro path item hget
  rw [get_empty] at hget
  nomatch hget

section

variable (hpart : PartOf part whole) (hmap : part.isMap = true) (hpath : path ≠ [])
  (hget : whole.get path = some item)

include hpart hmap hpath hget

/-- A part can be given any entry of the whole. -/
lemma set_ok : (part.set item path).2 = none := by
  rw [set_ok_iff hpath]
  refine ⟨hmap, ?_⟩
  intro upper rest leaf hsplit hrest hleaf
  obtain ⟨found, hfound, hkind⟩ := hpart upper leaf hleaf
  have hupper := ne_nil_of_get hleaf
  rcases hkind with rfl | ⟨hleafMap, -⟩
  · rw [← hsplit] at hget
    obtain ⟨inner, hinner, hinnerMap⟩ := get_on_way hupper hrest hget
    rw [Option.some.inj (hfound.symm.trans hinner)]
    exact hinnerMap
  · exact hleafMap

lemma set : PartOf (part.set item path).1 whole := by
  have hok := hpart.set_ok hmap hpath hget
  intro other found hfound
  by_cases hdown : path <+: other
  · obtain ⟨rest, rfl⟩ := hdown
    by_cases hrest : rest = []
    · rw [hrest, List.append_nil] at hfound ⊢
      rw [Value.get_set_self hpath hok] at hfound
      exact ⟨item, hget, .inl (Option.some.inj hfound).symm⟩
    · rw [get_set_append hpath hok hrest] at hfound
      exact ⟨found, by rw [get_append hpath hget hrest, hfound], .inl rfl⟩
  · by_cases hup : other <+: path
    · obtain ⟨rest, rfl⟩ := hup
      have hrest := more_of_not_leads hdown rfl
      have hother := ne_nil_of_get hfound
      obtain ⟨inner, hinner, hinnerMap⟩ := get_set_on_way hrest hother hok
      rw [hinner] at hfound
      cases hfound
      obtain ⟨inner', hinner', hinnerMap'⟩ := get_on_way hother hrest hget
      exact ⟨inner', hinner', .inr ⟨hinnerMap, hinnerMap'⟩⟩
    · rw [Value.get_set_apart hdown hup] at hfound
      exact hpart other found hfound

/-- What was there as in the whole stays so. -/
lemma get_set_of_get {other : List Text} {found : Value} (hfound : part.get other = some found)
    (hsame : whole.get other = some found) : (part.set item path).1.get other = some found := by
  have hok := hpart.set_ok hmap hpath hget
  have hother := ne_nil_of_get hfound
  by_cases hdown : path <+: other
  · obtain ⟨rest, rfl⟩ := hdown
    by_cases hrest : rest = []
    · rw [hrest, List.append_nil, hget] at hsame
      rw [hrest, List.append_nil, Value.get_set_self hpath hok, hsame]
    · rw [get_set_append hpath hok hrest, ← get_append hpath hget hrest, hsame]
  · by_cases hup : other <+: path
    · -- The map is complete, so the entry to be written is there.
      obtain ⟨rest, rfl⟩ := hup
      have hrest := more_of_not_leads hdown rfl
      have hthere : part.get (other ++ rest) = some item := by
        rw [get_append hother hfound hrest, ← get_append hother hsame hrest, hget]
      rw [set_of_get hthere, hfound]
    · rw [Value.get_set_apart hdown hup, hfound]

end

end PartOf

end

end Value

end Fluxrig.Message
