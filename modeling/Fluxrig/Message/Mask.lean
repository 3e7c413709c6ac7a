import Fluxrig.Message.Paths

/-!
# What a write hides

`mask own` blanks the entry under a path.  Whatever is written at the path
afterwards, a container and its masked form end up the same, so two containers
that differ below the path only cannot be told apart once the path is written.
-/

namespace Fluxrig.Message

section

variable {Key Item : Type*} [DecidableEq Key]

lemma putField_putField (key : Key) (first second : Item) (fields : List (Key × Item)) :
    putField key second (putField key first fields) = putField key second fields := by
  induction fields <;> grind [putField]

/-- An assignment in place commutes with one to another key. -/
lemma putField_comm [BEq Key] [LawfulBEq Key] {key other : Key} (hother : other ≠ key) {old : Item}
    {fields : List (Key × Item)} (hold : fields.lookup key = some old) (item item' : Item) :
    putField key item (putField other item' fields) =
      putField other item' (putField key item fields) := by
  induction fields with
  | nil => nomatch hold
  | cons => grind [putField]

end

namespace Value

section

variable {tree item : Value} {part other : Text} {rest own key : List Text}

lemma put_put (first second : Value) :
    (tree.put part first).put part second = tree.put part second := by
  cases tree with
  | object fields => exact congrArg object (putField_putField part first second fields)
  | table fields => exact congrArg table (putField_putField (.text part) first second fields)
  | _ => rfl

lemma put_comm (hother : other ≠ part) {old : Value}
    (hold : tree.child part = some old) (first second : Value) :
    (tree.put other second).put part first = (tree.put part first).put other second := by
  cases tree with
  | object => exact congrArg object (putField_comm hother hold first second)
  | table =>
    have hkeys : MapKey.text other ≠ MapKey.text part := by
      rwa [ne_eq, MapKey.text.injEq]
    exact congrArg table (putField_comm hkeys hold first second)
  | _ => nomatch hold

/-- The container with the entry under a path blanked, if there is one. -/
def mask (tree : Value) : List Text → Value
  | [] => null
  | part :: rest =>
      match tree.child part with
      | none => tree
      | some inner => tree.put part (inner.mask rest)

lemma mask_of_leaf (hleaf : tree.isMap = false) (hown : own ≠ []) : tree.mask own = tree := by
  cases own <;> grind [mask]

lemma isMap_mask (hown : own ≠ []) : (tree.mask own).isMap = tree.isMap := by
  cases own <;> grind [mask]

/-- A write at the masked path makes up for the mask. -/
lemma set_mask (hown : own ≠ []) : ((tree.mask own).set item own).1 = (tree.set item own).1 := by
  fun_induction set tree item own <;> grind [mask, set, put_put, put_of_child]

/-- A write below the masked path shows only that the path is there. -/
lemma mask_set_below (hown : own ≠ []) (hbelow : own <+: key)
    (hok : (tree.set item key).2 = none) :
    (tree.set item key).1.mask own = ((tree.mask own).set null own).1 := by
  cases own with
  | nil => exact absurd rfl hown
  | cons part rest =>
    fun_induction set tree item key generalizing part rest <;> cases rest <;>
      grind [mask, set, put_put, set_mask]

lemma child_mask : (tree.mask (part :: rest)).child other =
    if other = part then (tree.child part).map fun inner => inner.mask rest
    else tree.child other := by
  grind [mask]

/-- Putting an entry overrides its mask. -/
lemma put_mask (entry : Value) :
    (tree.mask (part :: rest)).put part entry = tree.put part entry := by
  grind [mask, put_put]

lemma mask_put (hmap : tree.isMap = true) (entry : Value) :
    (tree.put other entry).mask (part :: rest) =
      if other = part then tree.put part (entry.mask rest)
      else (tree.mask (part :: rest)).put other entry := by
  grind [mask, put_put, put_comm]

lemma mask_empty (hown : own ≠ []) : (object []).mask own = object [] := by
  cases own with
  | nil => exact absurd rfl hown
  | cons => rfl

/-- A write elsewhere goes the same way with and without the mask. -/
lemma mask_set_apart (hown : own ≠ []) (hapart : ¬ own <+: key) (hkey : key ≠ [])
    (hitem : item.isMap = false) (hok : (tree.set item key).2 = none) :
    (tree.set item key).1.mask own = ((tree.mask own).set item key).1 := by
  cases own with
  | nil => exact absurd rfl hown
  | cons part rest =>
    fun_induction set tree item key generalizing part rest <;> cases rest <;>
      grind [set, child_mask, put_mask, mask_put, mask_empty, isMap_mask, mask_of_leaf]

end

end Value

end Fluxrig.Message
