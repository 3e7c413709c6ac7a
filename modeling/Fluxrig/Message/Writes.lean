import Fluxrig.Message.Shapes

/-!
# Writes whose errors are discarded

Values that are no maps are written one after another, and a write that meets one of them
on its way is lost.  What is at a path afterwards: once something stands at a path or
above it, that stays so, and nothing comes below it.
-/

namespace Fluxrig.Message

namespace Value

/-- `_ = msg.Set(key, item)`. -/
def write (tree : Value) (path : List Text) (item : Value) : Value :=
  (tree.set item path).1

/-- The path leads further than the other one. -/
def Below (upper lower : List Text) : Prop := upper <+: lower ∧ upper ≠ lower

section

variable {upper lower path : List Text}

lemma Below.trans_start (hbelow : Below upper lower) (hstart : lower <+: path) :
    Below upper path := by
  refine ⟨hbelow.1.trans hstart, ?_⟩
  rintro rfl
  exact hbelow.2 (hbelow.1.eq_of_length_le hstart.length_le)

lemma Below.of_start (hstart : upper <+: lower) (hbelow : Below lower path) :
    Below upper path := by
  refine ⟨hstart.trans hbelow.1, ?_⟩
  rintro rfl
  exact hbelow.2 (hbelow.1.eq_of_length_le hstart.length_le)

lemma Below.not_start (hbelow : Below upper lower) : ¬ lower <+: upper := by
  intro hstart
  exact hbelow.2 (hbelow.1.eq_of_length_le hstart.length_le)

/-- Two starts of one path: one leads to the other. -/
lemma start_or_below (hupper : upper <+: path) (hlower : lower <+: path) :
    upper <+: lower ∨ Below lower upper := by
  rcases List.prefix_or_prefix_of_prefix hupper hlower with hstart | hstart
  · exact .inl hstart
  · by_cases hsame : lower = upper
    · rw [hsame]
      exact .inl List.prefix_rfl
    · exact .inr ⟨hstart, hsame⟩

end

section

variable {tree item leaf : Value} {path other : List Text}

@[simp]
lemma isMap_write : (tree.write path item).isMap = tree.isMap := isMap_set

/-- Something that is no map stands above the path. -/
lemma not_open_iff : ¬ tree.Open path ↔
      ∃ upper leaf, Below upper path ∧ tree.get upper = some leaf ∧ leaf.isMap = false := by
  constructor
  · intro hshut
    rw [Open] at hshut
    push Not at hshut
    obtain ⟨upper, rest, leaf, hsplit, hrest, hget, hleaf⟩ := hshut
    refine ⟨upper, leaf, ⟨⟨rest, hsplit⟩, ?_⟩, hget, Bool.eq_false_iff.mpr hleaf⟩
    rintro rfl
    exact hrest (List.append_cancel_left (hsplit.trans (List.append_nil upper).symm))
  · rintro ⟨upper, leaf, ⟨⟨rest, hsplit⟩, hne⟩, hget, hleaf⟩ hopen
    have hrest : rest ≠ [] := by
      rintro rfl
      exact hne ((List.append_nil upper).symm.trans hsplit)
    have hmap := hopen upper rest leaf hsplit hrest hget
    rw [hleaf] at hmap
    cases hmap

lemma get_of_not_open (hshut : ¬ tree.Open path) : tree.get path = none := by
  obtain ⟨upper, leaf, ⟨⟨rest, rfl⟩, hne⟩, hget, hleaf⟩ := not_open_iff.mp hshut
  have hupper := Value.ne_nil_of_get hget
  have hrest : rest ≠ [] := by
    rintro rfl
    exact hne (List.append_nil upper).symm
  rw [get_append hupper hget hrest, get_of_leaf hleaf]

lemma open_of_start (hopen : tree.Open path) (hstart : other <+: path) : tree.Open other := by
  by_contra hshut
  obtain ⟨upper, leaf, hbelow, hget, hleaf⟩ := not_open_iff.mp hshut
  exact not_open_iff.mpr ⟨upper, leaf, hbelow.trans_start hstart, hget, hleaf⟩ hopen

/-- On the way to an entry there are maps. -/
lemma get_of_start (hget : tree.get path = some leaf) (hstart : other <+: path)
    (hother : other ≠ []) :
    ∃ inner, tree.get other = some inner ∧ (inner.isMap = true ∨ inner = leaf) := by
  obtain ⟨rest, rfl⟩ := hstart
  by_cases hrest : rest = []
  · rw [hrest, List.append_nil] at hget
    exact ⟨leaf, hget, .inr rfl⟩
  · obtain ⟨inner, hinner, hmap⟩ := get_on_way hother hrest hget
    exact ⟨inner, hinner, .inl hmap⟩

variable (hmap : tree.isMap = true) (hpath : path ≠ [])

include hpath

lemma write_of_not_open (hshut : ¬ tree.Open path) : tree.write path item = tree := by
  apply set_of_failed
  rw [ne_eq, set_ok_iff hpath]
  exact fun hok => hshut hok.2

include hmap

lemma write_ok (hopen : tree.Open path) : (tree.set item path).2 = none :=
  (set_ok_iff hpath).mpr ⟨hmap, hopen⟩

lemma get_write_self (hopen : tree.Open path) : (tree.write path item).get path = some item :=
  get_set_self hpath (write_ok hmap hpath hopen)

section

variable (hitem : item.isMap = false)

include hitem

/-- What is shut stays so. -/
lemma not_open_write (hshut : ¬ tree.Open other) : ¬ (tree.write path item).Open other := by
  by_cases hopen : tree.Open path
  · rw [write, open_set_iff hpath (write_ok hmap hpath hopen) hitem]
    exact fun hboth => hshut hboth.1
  · rw [write_of_not_open hpath hopen]
    exact hshut

/-- An attempt to write shuts what is below, whether or not it succeeds. -/
lemma not_open_write_below (hbelow : Below path other) : ¬ (tree.write path item).Open other := by
  by_cases hopen : tree.Open path
  · rw [write, open_set_iff hpath (write_ok hmap hpath hopen) hitem]
    exact fun hboth => hboth.2 hbelow
  · rw [write_of_not_open hpath hopen]
    exact fun hother => hopen (open_of_start hother hbelow.1)

/-- A path stays open unless it is below the one written. -/
lemma open_write (hopen : tree.Open other) (hnot : ¬ Below path other) :
    (tree.write path item).Open other := by
  by_cases hself : tree.Open path
  · rw [write, open_set_iff hpath (write_ok hmap hpath hself) hitem]
    exact ⟨hopen, hnot⟩
  · rw [write_of_not_open hpath hself]
    exact hopen

/-- A write that is not at a path or below it leaves what is there, or takes it away. -/
lemma get_write_other (hnot : ¬ other <+: path) :
    (tree.write path item).get other = tree.get other ∨
      (tree.write path item).get other = none := by
  by_cases hopen : tree.Open path
  · by_cases hstart : path <+: other
    · right
      obtain ⟨rest, rfl⟩ := hstart
      have hrest : rest ≠ [] := by
        rintro rfl
        exact hnot (by rw [List.append_nil])
      exact get_set_below hpath (write_ok hmap hpath hopen) hitem hrest
    · exact .inl (get_set_apart hstart hnot)
  · rw [write_of_not_open hpath hopen]
    exact .inl rfl

end

/-- What is there stays so, with some value, unless the path is below the one written. -/
lemma get_write_ne_none (hget : tree.get other ≠ none) (hnot : ¬ Below path other) :
    (tree.write path item).get other ≠ none := by
  by_cases hopen : tree.Open path
  · have hok : (tree.set item path).2 = none := write_ok hmap hpath hopen
    by_cases hdown : path <+: other
    · have hsame : path = other := by
        by_contra hne
        exact hnot ⟨hdown, hne⟩
      rw [← hsame, get_write_self hmap hpath hopen]
      exact nofun
    · by_cases hup : other <+: path
      · obtain ⟨rest, rfl⟩ := hup
        have hrest := more_of_not_leads hdown rfl
        have hother : other ≠ [] := by
          rintro rfl
          exact hget rfl
        obtain ⟨inner, hinner, -⟩ := get_set_on_way hrest hother hok
        rw [write, hinner]
        exact nofun
      · rw [write, get_set_apart hdown hup]
        exact hget
  · rw [write_of_not_open hpath hopen]
    exact hget

/-- After an attempt to write the value is there, or the path is shut. -/
lemma get_write_or (item : Value) : (tree.write path item).get path = some item ∨
      ¬ (tree.write path item).Open path := by
  by_cases hopen : tree.Open path
  · exact .inl (get_write_self hmap hpath hopen)
  · rw [write_of_not_open hpath hopen]
    exact .inr hopen

end

end Value

end Fluxrig.Message
