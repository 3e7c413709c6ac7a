import Fluxrig.Conductor.Compensation
import Fluxrig.Message.Shapes

/-!
# Parked fields

The conductor takes the parked fields off a request and puts them on the reply.
Taking a path off goes wrong in one place only: a map on the way that was empty
before counts as emptied.  Putting it back goes wrong in one place only: a value
that is no map stands above the path in the reply, and no other parked field
replaces it.
-/

namespace Fluxrig.Conductor

open Message

section

variable {tree inner : Value} {part : Text} {parts other upper rest : List Text}

lemma get_singleton (part : Text) : tree.get [part] = tree.child part := rfl

/-- One step down a path of two parts or more. -/
lemma get_cons_cons (part next : Text) (rest : List Text) : tree.get (part :: next :: rest) =
      (tree.child part).bind fun inner => inner.get (next :: rest) := by
  cases hchild : tree.child part with
  | none => exact Value.get_no_child hchild
  | some inner => exact Value.get_child hchild (List.cons_ne_nil _ _)

@[grind =]
lemma child_mapDelete (key : Text) : (mapDelete tree part).child key =
    if key = part then none else tree.child key := by
  cases tree with
  | object fields => exact lookup_filter_ne part key fields
  | table fields =>
    rw [mapDelete, Value.child, lookup_filter_ne]
    exact if_congr (by simp) rfl rfl
  | _ => simp [mapDelete, Value.child]

lemma mapDelete_of_absent (habsent : tree.child part = none) : mapDelete tree part = tree := by
  cases tree with
  | object fields =>
    rw [mapDelete, List.filter_eq_self.mpr]
    grind [Value.child]
  | table fields =>
    rw [mapDelete, List.filter_eq_self.mpr]
    grind [Value.child]
  | _ => rfl

/-- A map without entries has no child. -/
lemma child_of_mapLen (hempty : mapLen tree = 0) (key : Text) : tree.child key = none := by
  cases tree <;> simp_all [mapLen, Value.child]

@[grind =]
lemma snd_deleteNested : (deleteNested tree parts).2 =
    decide (mapLen (deleteNested tree parts).1 = 0) := by
  fun_cases deleteNested tree parts <;> rfl

/-- The path is gone. -/
lemma get_deleteNested_self : (deleteNested tree parts).1.get parts = none := by
  fun_induction deleteNested tree parts <;> grind [Value.get]

/-- Nothing comes in. -/
lemma get_deleteNested_none (hnone : tree.get other = none) :
    (deleteNested tree parts).1.get other = none := by
  fun_induction deleteNested tree parts generalizing other with
  | case1 | case3 => exact hnone
  | case2 | case4 =>
    cases other with
    | nil => rfl
    | cons _ low => cases low <;> grind [get_cons_cons, get_singleton]

/-- Remove a path, and the maps above it that held nothing else. -/
def removePath (tree : Value) : List Text → Value
  | [] => tree
  | [part] => mapDelete tree part
  | part :: next :: rest =>
      match tree.child part with
      | none => tree
      | some child =>
          let after := removePath child (next :: rest)
          if mapLen child ≠ 0 ∧ mapLen after = 0 then mapDelete tree part
          else tree.put part after

/-- A path that is absent leaves everything as it was. -/
lemma removePath_of_absent (habsent : tree.get parts = none) : removePath tree parts = tree := by
  fun_induction removePath tree parts <;>
    grind [get_cons_cons, get_singleton, mapDelete_of_absent, Value.put_of_child]

/-- What is neither above nor below the path stays. -/
lemma get_removePath_apart (hdown : ¬ parts <+: other) (hup : ¬ other <+: parts) :
    (removePath tree parts).get other = tree.get other := by
  fun_induction removePath tree parts generalizing other with
  | case1 | case3 => rfl
  | case2 tree part =>
    cases other with
    | nil => rfl
    | cons => exact Value.get_congr (by grind)
  | case4 _ part _ _ child hchild after | case5 _ part _ _ child hchild after =>
    rename_i ih
    rcases other with _ | ⟨head, _ | ⟨first, low⟩⟩
    · rfl
    · exact Value.get_congr (by grind)
    by_cases hhead : head = part
    · have hbelow : after.get (first :: low) = child.get (first :: low) :=
        ih (by grind) (by grind)
      have hnone := @Value.get_no_child after first low
      rw [hhead, get_cons_cons, get_cons_cons, hchild, Option.bind_some, ← hbelow]
      grind [child_of_mapLen]
    · exact Value.get_congr (by grind)

/-- Every map on the way along the path has an entry. -/
def Filled (tree : Value) (parts : List Text) : Prop :=
  ∀ upper rest inner, upper ++ rest = parts → rest ≠ [] → tree.get upper = some inner →
    mapLen inner ≠ 0

lemma Filled.below {next : Text} (hfilled : Filled tree (part :: next :: rest))
    (hchild : tree.child part = some inner) :
    mapLen inner ≠ 0 ∧ Filled inner (next :: rest) := by
  refine ⟨hfilled [part] _ inner rfl (List.cons_ne_nil _ _) hchild, ?_⟩
  intro upper low found hsplit hlow hget
  have hupper := Value.ne_nil_of_get hget
  apply hfilled (part :: upper) low found (by rw [List.cons_append, hsplit]) hlow
  rw [Value.get_child hchild hupper]
  exact hget

lemma deleteNested_of_filled (hfilled : Filled tree parts) :
    (deleteNested tree parts).1 = removePath tree parts := by
  fun_induction removePath tree parts with
  | case1 | case2 => rfl
  | case3 _ _ _ _ hchild => rw [deleteNested, hchild]
  | case4 _ _ _ _ _ hchild | case5 _ _ _ _ _ hchild =>
    rename_i ih
    obtain ⟨hentries, hbelow⟩ := hfilled.below hchild
    have hinner := ih hbelow
    rw [deleteNested, hchild]
    grind

lemma deleteNested_of_empty (hempty : mapLen tree = 0) : (deleteNested tree parts).1 = tree := by
  have hnone := child_of_mapLen hempty
  fun_cases deleteNested tree parts with
  | case1 | case3 => rfl
  | case2 part => exact mapDelete_of_absent (hnone part)
  | case4 part _ _ child hchild => exact absurd ((hnone part).symm.trans hchild) nofun

/-- An empty map on the way is taken for one that was emptied. -/
lemma get_deleteNested_hollow (hupper : tree.get upper = some inner)
    (hempty : mapLen inner = 0) (hrest : rest ≠ []) :
    (deleteNested tree (upper ++ rest)).1.get upper = none := by
  induction upper generalizing tree with
  | nil => nomatch hupper
  | cons part upper ih =>
    obtain ⟨first, more, hmore⟩ := List.exists_cons_of_ne_nil
      (List.append_ne_nil_of_right_ne_nil upper hrest)
    cases hchild : tree.child part with
    | none =>
      rw [Value.get_no_child hchild] at hupper
      nomatch hupper
    | some child =>
      rw [List.cons_append, hmore, deleteNested, hchild, ← hmore]
      cases upper with
      | nil =>
        cases hchild.symm.trans hupper
        rw [get_singleton]
        grind [deleteNested_of_empty]
      | cons =>
        rw [Value.get_child hchild (List.cons_ne_nil _ _)] at hupper
        have hbelow := ih hupper
        grind [get_cons_cons]

lemma object_deletePath (fields : List (Text × Value)) (path : Text) :
    Value.object (deletePath fields path) =
      (deleteNested (.object fields) (splitDots path)).1 := by
  obtain ⟨kept, hkept⟩ : ∃ kept, (deleteNested (.object fields) (splitDots path)).1 =
      .object kept := by
    fun_cases deleteNested (.object fields) (splitDots path) with
    | case1 | case2 | case3 => exact ⟨_, rfl⟩
    | case4 _ _ _ _ _ inner =>
      by_cases hemptied : inner.2 = true
      · exact ⟨_, if_pos hemptied⟩
      · exact ⟨_, if_neg hemptied⟩
  rw [deletePath, hkept]

/-- **Deleting a path.**  What is left is the data without the path and without the maps
this removal emptied, so what is apart from the path stays and an absent path changes
nothing, exactly if no map on the way was empty before. -/
theorem deletePath_removes_iff (fields : List (Text × Value)) (path : Text) :
    (Value.object (deletePath fields path) = removePath (.object fields) (splitDots path) ∧
      ((Value.object fields).get (splitDots path) = none →
        Value.object (deletePath fields path) = .object fields) ∧
      ∀ other, ¬ splitDots path <+: other → ¬ other <+: splitDots path →
        (Value.object (deletePath fields path)).get other = (Value.object fields).get other) ↔
      Filled (.object fields) (splitDots path) := by
  rw [object_deletePath]
  constructor
  · rintro ⟨-, habsent, -⟩ upper rest inner hsplit hrest hget hempty
    have hgone := get_deleteNested_hollow hget hempty hrest
    have hupper := Value.ne_nil_of_get hget
    obtain ⟨first, more, rfl⟩ := List.exists_cons_of_ne_nil hrest
    have hnone : (Value.object fields).get (splitDots path) = none := by
      rw [← hsplit, Value.get_append hupper hget hrest,
        Value.get_no_child (child_of_mapLen hempty first)]
    rw [hsplit, habsent hnone, hget] at hgone
    nomatch hgone
  · intro hfilled
    rw [deleteNested_of_filled hfilled]
    exact ⟨rfl, removePath_of_absent, fun _ => get_removePath_apart⟩

/-- A path that is absent takes an empty map with it. -/
theorem deletePath_prunes_empty :
    let fields : List (Text × Value) := [(utf8 "a", .object [])]
    (Value.object fields).get (splitDots (utf8 "a.b")) = none ∧
      deletePath fields (utf8 "a.b") = [] := by
  exact ⟨rfl, rfl⟩

end

section

variable {source root value leaf : Value} {path other upper : List Text}
  {paths : List (List Text)}

/-- One turn of the loop of `restoreParked`, on the data. -/
def restoring (source root : Value) (path : List Text) : Value :=
  match source.get path with
  | none => root
  | some value => (root.set value path).1

/-- A turn changes nothing, or it writes a field of the request. -/
lemma restoring_cases (source root : Value) (path : List Text) :
    restoring source root path = root ∨ ∃ item, source.get path = some item ∧
      (root.set item path).2 = none ∧ restoring source root path = (root.set item path).1 := by
  cases hitem : source.get path with
  | none => exact .inl (by rw [restoring, hitem])
  | some item =>
    have hstep : restoring source root path = (root.set item path).1 := by rw [restoring, hitem]
    by_cases hok : (root.set item path).2 = none
    · exact .inr ⟨item, rfl, hok, hstep⟩
    · exact .inl (hstep.trans (Value.set_of_failed hok))

lemma isMap_restoring : (restoring source root path).isMap = root.isMap := by
  rw [restoring]
  split <;> simp

/-- A field that is home stays home. -/
lemma restoring_keeps (hsource : source.get other = some value)
    (hroot : root.get other = some value) :
    (restoring source root path).get other = some value := by
  obtain hstep | ⟨item, hitem, hok, hstep⟩ := restoring_cases source root path
  · rw [hstep]
    exact hroot
  have hpath := Value.ne_nil_of_get hitem
  have hother := Value.ne_nil_of_get hsource
  rw [hstep]
  by_cases hdown : path <+: other
  · obtain ⟨rest, rfl⟩ := hdown
    by_cases hrest : rest = []
    · rw [hrest, List.append_nil] at hsource ⊢
      rw [Value.get_set_self hpath hok, ← hitem, hsource]
    · rw [Value.get_set_append hpath hok hrest, ← Value.get_append hpath hitem hrest, hsource]
  · by_cases hup : other <+: path
    · -- The item is part of the value that is there.
      obtain ⟨rest, rfl⟩ := hup
      have hrest := Value.more_of_not_leads hdown rfl
      have hsame : root.get (other ++ rest) = some item := by
        rw [Value.get_append hother hroot hrest, ← Value.get_append hother hsource hrest, hitem]
      rw [Value.set_of_get hsame]
      exact hroot
    · rw [Value.get_set_apart hdown hup]
      exact hroot

/-- The way to a field stays open, unless a field above it is put back. -/
lemma restoring_open (hopen : root.Open other)
    (habove : (source.get path).isSome = true → path <+: other → path = other) :
    (restoring source root path).Open other := by
  obtain hstep | ⟨item, hitem, hok, hstep⟩ := restoring_cases source root path
  · rw [hstep]
    exact hopen
  intro above rest leaf hsplit hrest hget
  rw [hstep] at hget
  by_cases hdown : path <+: above
  · obtain ⟨hleads, hne⟩ := Value.leads_further hdown hsplit hrest
    exact absurd (habove (by rw [hitem]; rfl) hleads) hne
  · by_cases hup : above <+: path
    · obtain ⟨more, rfl⟩ := hup
      obtain ⟨inner, hinner, hmap⟩ := Value.get_set_on_way
        (Value.more_of_not_leads hdown rfl) (Value.ne_nil_of_get hget) hok
      rw [Option.some.inj (hget.symm.trans hinner)]
      exact hmap
    · rw [Value.get_set_apart hdown hup] at hget
      exact hopen above rest leaf hsplit hrest hget

/-- A value that is no map stays, unless a field at or above it is put back. -/
lemma restoring_blocked (hget : root.get upper = some leaf) (hleaf : leaf.isMap = false)
    (habove : (source.get path).isSome = true → ¬ path <+: upper) :
    (restoring source root path).get upper = some leaf := by
  obtain hstep | ⟨item, hitem, hok, hstep⟩ := restoring_cases source root path
  · rw [hstep]
    exact hget
  · rw [hstep]
    exact Value.get_set_other (Value.ne_nil_of_get hitem) hok hget hleaf
      (habove (by rw [hitem]; rfl))

/-- Every value that is no map above a field to be put back is itself replaced. -/
def Unblocked (source root : Value) (paths : List (List Text)) : Prop :=
  ∀ path ∈ paths, (source.get path).isSome = true →
    ∀ above rest leaf, above ++ rest = path → rest ≠ [] → root.get above = some leaf →
      leaf.isMap = false → ∃ other ∈ paths, (source.get other).isSome = true ∧ other <+: above

/-- A field above which no other one is put back comes home. -/
lemma restored_of_topmost (hmap : root.isMap = true) (hblocked : Unblocked source root paths)
    (hmem : path ∈ paths) (hvalue : source.get path = some value)
    (htop : ∀ other ∈ paths, (source.get other).isSome = true → other <+: path → other = path) :
    (paths.foldl (restoring source) root).get path = some value := by
  have hsome : (source.get path).isSome = true := by rw [hvalue]; rfl
  have hopen : root.Open path := by
    intro above rest leaf hsplit hrest hget
    by_contra hleaf
    obtain ⟨other, hother, hpresent, hleads⟩ := hblocked path hmem hsome above rest leaf hsplit
      hrest hget (Bool.eq_false_of_not_eq_true hleaf)
    obtain ⟨hdown, hne⟩ := Value.leads_further hleads hsplit hrest
    exact hne (htop other hother hpresent hdown)
  obtain ⟨before, after, rfl⟩ := List.append_of_mem hmem
  have hpath := Value.ne_nil_of_get hvalue
  rw [List.foldl_append, List.foldl_cons]
  apply List.foldlRecOn (motive := fun root : Value => root.get path = some value)
  · -- Nothing so far has closed the way.
    have hready : (before.foldl (restoring source) root).isMap = true ∧
        (before.foldl (restoring source) root).Open path := by
      apply List.foldlRecOn (motive := fun root : Value => root.isMap = true ∧ root.Open path)
      · exact ⟨hmap, hopen⟩
      · intro root hroot other hother
        exact ⟨isMap_restoring.trans hroot.1,
          restoring_open hroot.2 (htop other (by simp [hother]))⟩
    rw [restoring, hvalue]
    exact Value.get_set_self hpath ((Value.set_ok_iff hpath).mpr hready)
  · exact fun root hroot _ _ => restoring_keeps hvalue hroot

lemma restored_iff (hmap : root.isMap = true) :
    (∀ path ∈ paths, ∀ value, source.get path = some value →
      (paths.foldl (restoring source) root).get path = some value) ↔
      Unblocked source root paths := by
  constructor
  · intro hhome path hmem hsome above rest leaf hsplit hrest hget hleaf
    by_contra hnone
    push Not at hnone
    have hstays : (paths.foldl (restoring source) root).get above = some leaf := by
      apply List.foldlRecOn (motive := fun root : Value => root.get above = some leaf)
      · exact hget
      · exact fun root hroot other hother => restoring_blocked hroot hleaf (hnone other hother)
    obtain ⟨value, hvalue⟩ := Option.isSome_iff_exists.mp hsome
    have hback := hhome path hmem value hvalue
    rw [← hsplit, Value.get_append (Value.ne_nil_of_get hget) hstays hrest,
      Value.get_of_leaf hleaf] at hback
    nomatch hback
  · intro hblocked path
    -- A field below another one comes home with it.
    induction hlength : path.length using Nat.strong_induction_on generalizing path with
    | _ length ih =>
      intro hmem value hvalue
      by_cases htop : ∀ other ∈ paths, (source.get other).isSome = true → other <+: path →
          other = path
      · exact restored_of_topmost hmap hblocked hmem hvalue htop
      · push Not at htop
        obtain ⟨other, hother, hsome, ⟨rest, rfl⟩, hne⟩ := htop
        have hrest : rest ≠ [] := fun hnil => hne (by rw [hnil, List.append_nil])
        obtain ⟨upper, hupper⟩ := Option.isSome_iff_exists.mp hsome
        have hpos := List.length_pos_iff.mpr hrest
        have hback := ih other.length (by rw [← hlength, List.length_append]; omega) other rfl
          hother upper hupper
        rw [Value.get_append (Value.ne_nil_of_get hupper) hback hrest,
          ← Value.get_append (Value.ne_nil_of_get hupper) hupper hrest, hvalue]

lemma get_restored_apart (hapart : ∀ path ∈ paths, ¬ path <+: other ∧ ¬ other <+: path) :
    (paths.foldl (restoring source) root).get other = root.get other := by
  apply List.foldlRecOn (motive := fun after : Value => after.get other = root.get other)
  · rfl
  · intro after hafter path hmem
    rw [restoring]
    split
    · exact hafter
    · rw [Value.get_set_apart (hapart path hmem).1 (hapart path hmem).2]
      exact hafter

end

section

variable (gear : Gear) (ticket : Valet.Ticket) (request reply : FluxMsg)

lemma root_stripParked : (gear.stripParked request).root =
    (gear.parkFields.map splitDots).foldl (fun root path => (deleteNested root path).1)
      request.root := by
  rw [List.foldl_map]
  cases hdata : request.data with
  | none =>
    have hempty : (gear.stripParked request).root = .object [] ∧ request.root = .object [] := by
      simp [Gear.stripParked, FluxMsg.root, hdata]
    rw [hempty.1, hempty.2]
    symm
    apply List.foldlRecOn (motive := fun root : Value => root = .object [])
    · rfl
    · rintro _ rfl _ _
      exact deleteNested_of_empty rfl
  | some fields =>
    have hroots : (gear.stripParked request).root =
        .object (gear.parkFields.foldl deletePath fields) ∧ request.root = .object fields := by
      simp [Gear.stripParked, FluxMsg.root, hdata]
    rw [hroots.1, hroots.2]
    exact (List.foldl_hom Value.object (fun kept path => (object_deletePath kept path).symm)).symm

lemma root_finishResponse :
    (gear.finishResponse { ticket with request := some request } reply).root =
      (gear.parkFields.map splitDots).foldl (restoring request.root) reply.root := by
  rw [List.foldl_map]
  change (gear.restoreParked { ticket with request := some request } reply).root = _
  rw [Gear.restoreParked]
  split
  next hnone => nomatch hnone
  next _ hsome =>
    cases hsome
    split
    next hfields => rw [hfields]; rfl
    · refine (List.foldl_hom FluxMsg.root (fun current field => ?_)).symm
      rw [restoring, FluxMsg.get, ← FluxMsg.root]
      cases request.root.get (splitDots field) with
      | none => rfl
      | some => exact FluxMsg.root_set.symm

/-- **Parked fields come home.**  No parked field is sent out, every one the request has
holds its value in the response, and what is apart from the parked fields is as in the
reply, exactly if each value that is no map above such a field is itself replaced. -/
theorem parked_fields_home_iff :
    ((∀ field ∈ gear.parkFields, (gear.outbound request).get field = none) ∧
      (∀ field ∈ gear.parkFields, ∀ value, request.get field = some value →
        (gear.finishResponse { ticket with request := some request } reply).get field =
          some value) ∧
      ∀ key, (∀ field ∈ gear.parkFields, ¬ splitDots field <+: splitDots key ∧
          ¬ splitDots key <+: splitDots field) →
        (gear.finishResponse { ticket with request := some request } reply).get key =
          reply.get key) ↔
      Unblocked request.root reply.root (gear.parkFields.map splitDots) := by
  have hget : ∀ key, (gear.finishResponse { ticket with request := some request } reply).get key =
      ((gear.parkFields.map splitDots).foldl (restoring request.root) reply.root).get
        (splitDots key) := by
    intro key
    rw [← root_finishResponse gear ticket]
    rfl
  have hstripped : ∀ field ∈ gear.parkFields, (gear.outbound request).get field = none := by
    intro field hfield
    have hroot : (gear.outbound request).root = (gear.stripParked request).root := by
      rw [Gear.outbound]
      split <;> rfl
    change (gear.outbound request).root.get (splitDots field) = none
    rw [hroot, root_stripParked]
    obtain ⟨before, after, hsplit⟩ := List.append_of_mem hfield
    rw [hsplit, List.map_append, List.map_cons, List.foldl_append, List.foldl_cons]
    apply List.foldlRecOn (motive := fun root : Value => root.get (splitDots field) = none)
    · exact get_deleteNested_self
    · exact fun _ hnone _ _ => get_deleteNested_none hnone
  simp only [hget]
  rw [← restored_iff rfl]
  constructor
  · rintro ⟨-, hhome, -⟩ path hpath value hvalue
    obtain ⟨field, hfield, rfl⟩ := List.mem_map.mp hpath
    exact hhome field hfield value hvalue
  · intro hhome
    refine ⟨hstripped, fun field hfield => hhome _ (List.mem_map_of_mem hfield), ?_⟩
    intro key hapart
    apply get_restored_apart
    intro path hpath
    obtain ⟨field, hfield, rfl⟩ := List.mem_map.mp hpath
    exact hapart field hfield

/-- A reply with a flag above a parked field keeps the flag, and the field is lost. -/
theorem parked_field_lost :
    let gear := { sampleGear with parkFields := [utf8 "a.b"] }
    let request := { FluxMsg.new with data := some [(utf8 "a", .object [(utf8 "b", .null)])] }
    let reply := { FluxMsg.new with data := some [(utf8 "a", .bool true)] }
    let ticket := { Valet.Ticket.zero with request := some request }
    request.get (utf8 "a.b") = some .null ∧
      (gear.finishResponse ticket reply).get (utf8 "a.b") = none := by
  exact ⟨rfl, rfl⟩

end

end Fluxrig.Conductor
