import Fluxrig.Core.Timeline
import Fluxrig.Message.FluxMsg

/-!
# Destination trees

A destination tree selects one output port for a request.  Interior nodes are
strategies that compose freely, leaves are output ports.  Each strategy node has
a rotation counter; the counters of all nodes are threaded through `pick` as one
table, indexed by the address of the node.
-/

namespace Fluxrig.Conductor

open Fluxrig.Core Message

inductive StrategyKind where
  | failover
  | roundRobin
  | leastLoaded
  deriving DecidableEq

/-- A leaf is the name of an output port; `parseDest` checks that it starts
with "out". -/
abbrev OutPort := { port : Text // utf8 "out" <+: port }

/-- One node of a destination tree.  `address` tells strategy nodes apart. -/
inductive DestNode where
  | leaf (port : OutPort)
  | strategy (kind : StrategyKind) (address : ℕ) (children : List DestNode)

/-- The runtime signals a pick consults. -/
structure Selection where
  available : Text → Bool
  load : Text → ℤ

/-- The rotation counters. -/
abbrev Counters := ℕ → UInt64

/-- A choice that may advance counters; the empty text means that nothing is
available. -/
abbrev Picker := Counters → Text × Counters

mutual

/-- Every leaf port beneath the node.  The source computes this list once, when
the tree is parsed. -/
def DestNode.leaves : DestNode → List Text
  | .leaf port => [port.1]
  | .strategy _ _ children => leavesAll children

def leavesAll : List DestNode → List Text
  | [] => []
  | child :: rest => child.leaves ++ leavesAll rest

end

mutual

/-- Whether any node of the tree balances by load. -/
def containsLeastLoaded : DestNode → Bool
  | .leaf _ => false
  | .strategy kind _ children => kind = .leastLoaded || anyLeastLoaded children

def anyLeastLoaded : List DestNode → Bool
  | [] => false
  | child :: rest => containsLeastLoaded child || anyLeastLoaded rest

end

/-- The open tickets across every leaf beneath a node. -/
def subtreeLoad (node : DestNode) (sel : Selection) : ℤ :=
  (node.leaves.map sel.load).sum

def availableUnder (node : DestNode) (sel : Selection) : Bool :=
  node.leaves.any sel.available

/-- `Add(1) - 1` on the counter of a node. -/
def rotate (address : ℕ) (counters : Counters) : UInt64 × Counters :=
  (counters address, Function.update counters address (counters address + 1))

/-- The first of these choices that finds something. -/
def firstOf : List Picker → Picker
  | [], counters => ([], counters)
  | picker :: rest, counters =>
      let picked := picker counters
      if picked.1 ≠ [] then picked else firstOf rest picked.2

/-- The children in the order `start, start + 1, …`, wrapping around. -/
def rotation (start : UInt64) (pickers : List Picker) : List Picker :=
  (List.range pickers.length).filterMap fun index =>
    pickers[((start + UInt64.ofNat index) % UInt64.ofNat pickers.length).toNat]?

/-- The available children, with their index and load. -/
def candidates (children : List DestNode) (sel : Selection) : List (ℕ × ℤ) :=
  (children.zipIdx.filter fun child => availableUnder child.1 sel).map
    fun child => (child.2, subtreeLoad child.1 sel)

/-- The candidates of minimal load. -/
def tied (candidates : List (ℕ × ℤ)) : List ℕ :=
  match candidates with
  | [] => []
  | first :: rest =>
      let minLoad := rest.foldl
        (fun least candidate => if candidate.2 < least then candidate.2 else least)
        first.2
      (candidates.filter fun candidate => candidate.2 = minLoad).map Prod.fst

/-- The least-loaded choice: a candidate of minimal load, ties by rotation, and
any other candidate if that one has become unavailable. -/
def leastLoaded (address : ℕ) (candidates : List (ℕ × ℤ)) (pickers : List Picker) :
    Picker := fun counters =>
  if candidates = [] then ([], counters)
  else
    let turn := rotate address counters
    let best := tied candidates
    let chosen := best[(turn.1 % UInt64.ofNat best.length).toNat]?
    firstOf ((chosen.toList ++ candidates.map Prod.fst).filterMap (pickers[·]?)) turn.2

mutual

/-- The selected leaf port, or the empty text when nothing is available. -/
def DestNode.pick (sel : Selection) : DestNode → Picker
  | .leaf port => fun counters =>
      (if sel.available port.1 then port.1 else [], counters)
  | .strategy .failover _ children => firstOf (pickAll sel children)
  | .strategy .roundRobin address children => fun counters =>
      let turn := rotate address counters
      firstOf (rotation turn.1 (pickAll sel children)) turn.2
  | .strategy .leastLoaded address children =>
      leastLoaded address (candidates children sel) (pickAll sel children)

def pickAll (sel : Selection) : List DestNode → List Picker
  | [] => []
  | child :: rest => child.pick sel :: pickAll sel rest

end

/-- Whatever the counters, the choice is nothing or one of these ports. -/
def Picker.Within (picker : Picker) (ports : List Text) : Prop :=
  ∀ counters, (picker counters).1 = [] ∨ (picker counters).1 ∈ ports

variable {pickers : List Picker} {picker : Picker} {steps width : ℕ}

lemma firstOf_within {ports : List Text} (hall : ∀ picker ∈ pickers, Picker.Within picker ports) :
    Picker.Within (firstOf pickers) ports := by
  induction pickers with
  | nil => exact fun counters => Or.inl rfl
  | cons picker _ ih =>
    intro counters
    rw [firstOf]
    by_cases hfound : (picker counters).1 ≠ []
    · rw [if_pos hfound]
      exact hall picker List.mem_cons_self counters
    · rw [if_neg hfound]
      exact ih (fun other hother => hall other (List.mem_cons_of_mem picker hother)) _

lemma mem_of_mem_filterMap_getElem? {Item : Type*} {items : List Item}
    {indices : List ℕ} {item : Item} (hitem : item ∈ indices.filterMap (items[·]?)) :
    item ∈ items := by
  obtain ⟨index, _, hget⟩ := List.mem_filterMap.mp hitem
  exact List.mem_of_getElem? hget

lemma mem_of_mem_rotation {start : UInt64} (hpicker : picker ∈ rotation start pickers) :
    picker ∈ pickers := by
  obtain ⟨index, _, hget⟩ := List.mem_filterMap.mp hpicker
  exact List.mem_of_getElem? hget

mutual

/-- A pick selects nothing or an available leaf of the tree. -/
lemma pick_within_available (sel : Selection) : ∀ node : DestNode,
    Picker.Within (node.pick sel) (node.leaves.filter sel.available)
  | .leaf port => by
    intro counters
    rw [DestNode.pick]
    split
    next havailable =>
      exact Or.inr (List.mem_filter.mpr ⟨List.mem_singleton_self _, havailable⟩)
    · exact Or.inl rfl
  | .strategy .failover address children => by
    exact firstOf_within (pickAll_within_available sel children)
  | .strategy .roundRobin address children => by
    intro counters
    exact firstOf_within (fun picker hpicker =>
      pickAll_within_available sel children picker (mem_of_mem_rotation hpicker)) _
  | .strategy .leastLoaded address children => by
    rw [DestNode.pick]
    intro counters
    rw [leastLoaded]
    split
    · exact Or.inl rfl
    · exact firstOf_within (fun picker hpicker =>
        pickAll_within_available sel children picker (mem_of_mem_filterMap_getElem? hpicker)) _

lemma pickAll_within_available (sel : Selection) :
    ∀ (children : List DestNode), ∀ picker ∈ pickAll sel children,
      Picker.Within picker ((leavesAll children).filter sel.available)
  | [] => fun picker hpicker => nomatch hpicker
  | child :: rest => by
    intro picker hpicker counters
    rw [leavesAll, List.filter_append, List.mem_append]
    rcases List.mem_cons.mp hpicker with rfl | hrest
    · exact (pick_within_available sel child counters).imp_right Or.inl
    · exact (pickAll_within_available sel rest picker hrest counters).imp_right Or.inr

end

lemma pick_within (sel : Selection) (node : DestNode) :
    Picker.Within (node.pick sel) node.leaves := by
  intro counters
  exact (pick_within_available sel node counters).imp_right List.mem_of_mem_filter

lemma pick_eq_nil_of_unavailable {sel : Selection} {node : DestNode}
    (hnone : availableUnder node sel = false) (counters : Counters) :
    (node.pick sel counters).1 = [] := by
  rcases pick_within_available sel node counters with hnothing | hleaf
  · exact hnothing
  · obtain ⟨hmem, havailable⟩ := List.mem_filter.mp hleaf
    have hsome : availableUnder node sel = true := List.any_eq_true.mpr ⟨_, hmem, havailable⟩
    exact nomatch hnone.symm.trans hsome

mutual

/-- Every leaf is an output port. -/
lemma leaves_out : ∀ node : DestNode, ∀ port ∈ node.leaves, utf8 "out" <+: port
  | .leaf port => by
    intro other hother
    rw [DestNode.leaves, List.mem_singleton] at hother
    rw [hother]
    exact port.2
  | .strategy kind address children => by
    exact leavesAll_out children

lemma leavesAll_out : ∀ children : List DestNode, ∀ port ∈ leavesAll children, utf8 "out" <+: port
  | [] => fun port hport => nomatch hport
  | child :: rest => by
    intro port hport
    rw [leavesAll, List.mem_append] at hport
    exact hport.elim (leaves_out child port) (leavesAll_out rest port)

end

/-! ## A pick finds an available leaf

A rotation counter that wraps around in the middle of a rotation may skip a
child, so the counters have to be short of wrapping by as many steps as one pick
can take. -/

mutual

/-- A bound on how far one pick advances any counter and on how wide a rotation
beneath the node is. -/
def DestNode.turns : DestNode → ℕ
  | .leaf _ => 0
  | .strategy _ _ children => 1 + (children.length + 1) * (1 + turnsAll children)

def turnsAll : List DestNode → ℕ
  | [] => 0
  | child :: rest => child.turns + turnsAll rest

end

/-- No counter wraps around within this number of steps. -/
def Counters.Room (counters : Counters) (room : ℕ) : Prop :=
  ∀ address, (counters address).toNat + room ≤ 2 ^ 64

/-- The choice advances no counter by more than this. -/
def Picker.Advances (picker : Picker) (steps : ℕ) : Prop :=
  ∀ counters address, ((picker counters).2 address).toNat ≤ (counters address).toNat + steps

/-- With this much room the choice finds something. -/
def Picker.Finds (picker : Picker) (room : ℕ) : Prop :=
  ∀ counters : Counters, counters.Room room → (picker counters).1 ≠ []

lemma rotate_advances (address : ℕ) (counters : Counters) (other : ℕ) :
    ((rotate address counters).2 other).toNat ≤ (counters other).toNat + 1 := by
  rw [rotate]
  dsimp only
  by_cases hother : other = address
  · subst hother
    rw [Function.update_self]
    exact Nat.mod_le _ _
  · rw [Function.update_of_ne hother]
    exact Nat.le_succ _

lemma Counters.Room.mono {counters after : Counters} {room : ℕ}
    (hroom : counters.Room (steps + room))
    (hadvances : ∀ address, (after address).toNat ≤ (counters address).toNat + steps) :
    after.Room room := by
  intro address
  have hbefore := hroom address
  have hafter := hadvances address
  omega

section

variable (hall : ∀ picker ∈ pickers, Picker.Advances picker steps)

include hall

lemma firstOf_advances : Picker.Advances (firstOf pickers) (pickers.length * steps) := by
  induction pickers with
  | nil => exact fun counters address => Nat.le_add_right _ _
  | cons picker rest ih =>
    intro counters address
    have hfirst := hall picker List.mem_cons_self counters address
    have hrest := ih (fun other hother => hall other (List.mem_cons_of_mem picker hother))
      (picker counters).2 address
    rw [firstOf, List.length_cons, Nat.succ_mul]
    split
    · omega
    · omega

lemma firstOf_finds (hpicker : picker ∈ pickers) (hfinds : Picker.Finds picker steps) :
    Picker.Finds (firstOf pickers) (pickers.length * steps) := by
  induction pickers with
  | nil => nomatch hpicker
  | cons first rest ih =>
    intro counters hroom
    rw [List.length_cons, Nat.succ_mul, Nat.add_comm] at hroom
    rw [firstOf]
    split
    next hfound => exact hfound
    next hnothing =>
      rcases List.mem_cons.mp hpicker with rfl | hrest
      · have hfirst : counters.Room steps := by
          intro address
          have hbound := hroom address
          omega
        exact absurd (hfinds counters hfirst) hnothing
      · apply ih (fun other hother => hall other (List.mem_cons_of_mem first hother)) hrest
        exact hroom.mono (hall first List.mem_cons_self counters)

end

lemma pickAll_eq_map (sel : Selection) (children : List DestNode) :
    pickAll sel children = children.map fun child => child.pick sel := by
  induction children with
  | nil => rfl
  | cons _ _ ih => rw [pickAll, ih, List.map_cons]

lemma Picker.Advances.mono {more : ℕ} (hadvances : picker.Advances steps)
    (hle : steps ≤ more) : picker.Advances more :=
  fun counters address => (hadvances counters address).trans (Nat.add_le_add_left hle _)

lemma firstOf_advances_of_le (hall : ∀ picker ∈ pickers, Picker.Advances picker steps)
    (hwidth : pickers.length ≤ width) : Picker.Advances (firstOf pickers) (width * steps) :=
  (firstOf_advances hall).mono (Nat.mul_le_mul_right steps hwidth)

/-- A rotation step and then a first choice. -/
lemma rotate_firstOf_advances (address : ℕ)
    (hall : ∀ picker ∈ pickers, Picker.Advances picker steps)
    (hwidth : pickers.length ≤ width) (counters : Counters) (other : ℕ) :
    ((firstOf pickers (rotate address counters).2).2 other).toNat ≤
      (counters other).toNat + (1 + width * steps) := by
  have hturn := rotate_advances address counters other
  have hfirst := firstOf_advances_of_le hall hwidth (rotate address counters).2 other
  omega

lemma length_rotation_le (start : UInt64) (pickers : List Picker) :
    (rotation start pickers).length ≤ pickers.length := by
  calc (rotation start pickers).length ≤ (List.range pickers.length).length :=
        List.length_filterMap_le _ _
    _ = pickers.length := List.length_range

lemma length_candidates_le (children : List DestNode) (sel : Selection) :
    (candidates children sel).length ≤ children.length := by
  rw [candidates, List.length_map]
  calc (children.zipIdx.filter _).length ≤ children.zipIdx.length := List.length_filter_le _ _
    _ = children.length := List.length_zipIdx

/-- The choices a least-loaded node tries: the chosen child, then all candidates. -/
lemma length_tries_le (chosen : Option ℕ) (children : List DestNode)
    (sel : Selection) (pickers : List Picker) :
    ((chosen.toList ++ (candidates children sel).map Prod.fst).filterMap
      (pickers[·]?)).length ≤ children.length + 1 := by
  have hcandidates := length_candidates_le children sel
  have hchosen : chosen.toList.length ≤ 1 := by cases chosen <;> simp
  refine (List.length_filterMap_le _ _).trans ?_
  rw [List.length_append, List.length_map]
  omega

mutual

lemma pick_advances (sel : Selection) :
    ∀ node : DestNode, Picker.Advances (node.pick sel) node.turns
  | .leaf port => by
    exact fun counters address => le_refl _
  | .strategy .failover address children => by
    rw [DestNode.turns]
    have hlength : (pickAll sel children).length ≤ children.length := by
      rw [pickAll_eq_map, List.length_map]
    refine (firstOf_advances_of_le (pickAll_advances sel children) hlength).mono ?_
    nlinarith
  | .strategy .roundRobin address children => by
    rw [DestNode.turns]
    intro counters other
    have hlength : (rotation (rotate address counters).1
        (pickAll sel children)).length ≤ children.length := by
      refine (length_rotation_le _ _).trans ?_
      rw [pickAll_eq_map, List.length_map]
    refine (rotate_firstOf_advances address (fun picker hpicker =>
      pickAll_advances sel children picker (mem_of_mem_rotation hpicker))
      hlength counters other).trans ?_
    nlinarith
  | .strategy .leastLoaded address children => by
    rw [DestNode.pick, DestNode.turns]
    intro counters other
    rw [leastLoaded]
    split
    · exact Nat.le_add_right _ _
    · refine (rotate_firstOf_advances address (fun picker hpicker =>
        pickAll_advances sel children picker (mem_of_mem_filterMap_getElem? hpicker))
        (length_tries_le _ children sel _) counters other).trans ?_
      nlinarith

lemma pickAll_advances (sel : Selection) :
    ∀ (children : List DestNode), ∀ picker ∈ pickAll sel children,
      Picker.Advances picker (turnsAll children)
  | [] => fun picker hpicker => nomatch hpicker
  | child :: rest => by
    intro picker hpicker
    rcases List.mem_cons.mp hpicker with rfl | hrest
    · exact (pick_advances sel child).mono (Nat.le_add_right _ _)
    · exact (pickAll_advances sel rest picker hrest).mono (Nat.le_add_left _ _)

end

/-- Short of wrapping around, a rotation visits every child. -/
lemma mem_rotation {start : UInt64} {index : ℕ} (hindex : pickers[index]? = some picker)
    (hwidth : pickers.length < 2 ^ 64) (hroom : start.toNat + pickers.length ≤ 2 ^ 64) :
    picker ∈ rotation start pickers := by
  obtain ⟨hlt, _⟩ := List.getElem?_eq_some_iff.mp hindex
  have hpos : 0 < pickers.length := Nat.zero_lt_of_lt hlt
  -- The step of the rotation at which the child comes up.
  let step := (index + (pickers.length - start.toNat % pickers.length)) % pickers.length
  have hstep : step < pickers.length := Nat.mod_lt _ hpos
  have hturn : (start.toNat + step) % pickers.length = index := by
    have hmod : start.toNat % pickers.length < pickers.length := Nat.mod_lt _ hpos
    have hsum : start.toNat + (index + (pickers.length - start.toNat % pickers.length)) =
        index + pickers.length * (start.toNat / pickers.length + 1) := by
      have hdiv := Nat.div_add_mod start.toNat pickers.length
      rw [Nat.mul_succ]
      omega
    calc (start.toNat + step) % pickers.length = (start.toNat + (index + (pickers.length -
            start.toNat % pickers.length))) % pickers.length := Nat.add_mod_mod _ _ _
      _ = (index + pickers.length * (start.toNat / pickers.length + 1)) %
            pickers.length := by rw [hsum]
      _ = index := by rw [Nat.add_mul_mod_self_left, Nat.mod_eq_of_lt hlt]
  have hvalue : ((start + UInt64.ofNat step) % UInt64.ofNat pickers.length).toNat = index := by
    have hsmall : start.toNat + step < 2 ^ 64 := by omega
    rw [UInt64.toNat_mod, UInt64.toNat_add, UInt64.toNat_ofNat', UInt64.toNat_ofNat',
      Nat.mod_eq_of_lt hwidth, Nat.mod_eq_of_lt (hstep.trans hwidth),
      Nat.mod_eq_of_lt hsmall, hturn]
  refine List.mem_filterMap.mpr ⟨step, List.mem_range.mpr hstep, ?_⟩
  rw [hvalue]
  exact hindex

lemma mem_candidates {children : List DestNode} {sel : Selection} {index : ℕ}
    {child : DestNode} (hindex : children[index]? = some child)
    (havailable : availableUnder child sel = true) :
    index ∈ (candidates children sel).map Prod.fst := by
  have hmem : (child, index) ∈ children.zipIdx := List.mem_zipIdx_iff_getElem?.mpr hindex
  have hkept : (child, index) ∈ children.zipIdx.filter fun child => availableUnder child.1 sel :=
    List.mem_filter.mpr ⟨hmem, havailable⟩
  rw [candidates, List.map_map]
  exact List.mem_map.mpr ⟨(child, index), hkept, rfl⟩

lemma Picker.Finds.mono {room more : ℕ} (hfinds : picker.Finds room) (hle : room ≤ more) :
    picker.Finds more := by
  intro counters hroom
  apply hfinds
  intro address
  exact (Nat.add_le_add_left hle _).trans (hroom address)

/-- A rotation step and then a first choice among pickers one of which finds
something. -/
lemma rotate_firstOf_finds (address : ℕ)
    (hall : ∀ picker ∈ pickers, Picker.Advances picker steps) (hpicker : picker ∈ pickers)
    (hfinds : Picker.Finds picker steps) (hwidth : pickers.length ≤ width)
    {counters : Counters} (hroom : counters.Room (1 + width * steps)) :
    (firstOf pickers (rotate address counters).2).1 ≠ [] := by
  apply (firstOf_finds hall hpicker hfinds).mono (Nat.mul_le_mul_right steps hwidth)
  exact hroom.mono (rotate_advances address counters)

mutual

/-- A pick finds a leaf whenever one is available, as long as no counter is
about to wrap around. -/
lemma pick_finds (sel : Selection) : ∀ node : DestNode,
    availableUnder node sel = true → Picker.Finds (node.pick sel) node.turns
  | .leaf port => by
    intro havailable counters _ hnothing
    rw [availableUnder, DestNode.leaves, List.any_cons, List.any_nil, Bool.or_false] at havailable
    rw [DestNode.pick] at hnothing
    dsimp only at hnothing
    rw [if_pos havailable] at hnothing
    have hout := port.2
    rw [hnothing] at hout
    exact absurd (List.prefix_nil.mp hout) (by decide)
  | .strategy .failover address children => by
    intro havailable
    obtain ⟨index, child, hindex, _, hfinds⟩ := pickAll_finds sel children havailable
    rw [DestNode.turns]
    have hpicker : child.pick sel ∈ pickAll sel children := by
      rw [pickAll_eq_map]
      exact List.mem_map.mpr ⟨child, List.mem_of_getElem? hindex, rfl⟩
    have hlength : (pickAll sel children).length = children.length := by
      rw [pickAll_eq_map, List.length_map]
    apply (firstOf_finds (pickAll_advances sel children) hpicker hfinds).mono
    rw [hlength]
    nlinarith
  | .strategy .roundRobin address children => by
    intro havailable
    rw [availableUnder, DestNode.leaves] at havailable
    obtain ⟨index, child, hindex, _, hfinds⟩ := pickAll_finds sel children havailable
    rw [DestNode.turns]
    intro counters hroom
    have hlength : (pickAll sel children).length = children.length := by
      rw [pickAll_eq_map, List.length_map]
    have hbound := hroom address
    have hpicker : child.pick sel ∈
        rotation (rotate address counters).1 (pickAll sel children) := by
      apply mem_rotation
      · rw [pickAll_eq_map, List.getElem?_map, hindex]
        rfl
      · nlinarith
      · rw [hlength]
        change (counters address).toNat + children.length ≤ 2 ^ 64
        nlinarith
    apply rotate_firstOf_finds address (fun picker hmem =>
      pickAll_advances sel children picker (mem_of_mem_rotation hmem)) hpicker
      hfinds ((length_rotation_le _ _).trans_eq hlength)
    intro other
    have hother := hroom other
    nlinarith
  | .strategy .leastLoaded address children => by
    intro havailable
    obtain ⟨index, child, hindex, hunder, hfinds⟩ := pickAll_finds sel children havailable
    rw [DestNode.pick, DestNode.turns]
    intro counters hroom
    have hcandidate := mem_candidates hindex hunder
    have hsome : candidates children sel ≠ [] := by
      intro hnone
      rw [hnone] at hcandidate
      nomatch hcandidate
    rw [leastLoaded, if_neg hsome]
    apply rotate_firstOf_finds address (fun picker hmem =>
      pickAll_advances sel children picker (mem_of_mem_filterMap_getElem? hmem))
      _ hfinds (length_tries_le _ children sel _)
    · intro other
      have hother := hroom other
      nlinarith
    · refine List.mem_filterMap.mpr ⟨index, List.mem_append_right _ hcandidate, ?_⟩
      rw [pickAll_eq_map, List.getElem?_map, hindex]
      rfl

lemma pickAll_finds (sel : Selection) : ∀ children : List DestNode,
    (leavesAll children).any sel.available = true →
    ∃ (index : ℕ) (child : DestNode), children[index]? = some child ∧
      availableUnder child sel = true ∧
      Picker.Finds (child.pick sel) (turnsAll children)
  | [] => fun havailable => nomatch havailable
  | child :: rest => by
    intro havailable
    rw [leavesAll, List.any_append, Bool.or_eq_true] at havailable
    rcases havailable with hchild | hrest
    · exact ⟨0, child, rfl, hchild, (pick_finds sel child hchild).mono (Nat.le_add_right _ _)⟩
    · obtain ⟨index, found, hindex, hunder, hfinds⟩ := pickAll_finds sel rest hrest
      exact ⟨index + 1, found, hindex, hunder, hfinds.mono (Nat.le_add_left _ _)⟩

end

/-- Short of wrapping around, a pick finds a leaf exactly if one is available. -/
lemma pick_ne_nil_iff {sel : Selection} {node : DestNode} {counters : Counters}
    (hroom : counters.Room node.turns) :
    (node.pick sel counters).1 ≠ [] ↔ ∃ port ∈ node.leaves, sel.available port = true := by
  rw [← List.any_eq_true]
  constructor
  · intro hfound
    by_contra hnone
    exact hfound (pick_eq_nil_of_unavailable (Bool.eq_false_of_not_eq_true hnone) counters)
  · intro havailable
    exact pick_finds sel node havailable counters hroom

/-- The rotation counters after the first `time` picks. -/
def countersAt (node : DestNode) (selections : List Selection) (time : ℕ) : Counters :=
  stateAt (fun counters sel => (node.pick sel counters).2) (fun _ => 0) selections time

theorem countersAt_le (node : DestNode) (selections : List Selection) (time address : ℕ) :
    (countersAt node selections time address).toNat ≤ time * node.turns := by
  induction time with
  | zero => exact Nat.zero_le _
  | succ time ih =>
    rw [Nat.succ_mul]
    cases hnext : selections[time]? with
    | none =>
      rw [countersAt, stateAt_succ_of_none hnext]
      exact Nat.le_add_right_of_le ih
    | some sel =>
      rw [countersAt, stateAt_succ hnext]
      exact (pick_advances sel node _ address).trans (Nat.add_le_add_right ih _)

/-- Every pick of a run that is too short to wrap a rotation counter around, while leaves
come and go and their loads change, finds an available leaf or there is none. -/
theorem picks_available (node : DestNode) (selections : List Selection)
    (hshort : selections.length * node.turns ≤ 2 ^ 64) (time : ℕ) (sel : Selection)
    (hselection : selections[time]? = some sel) :
    (node.pick sel (countersAt node selections time)).1 ∈ node.leaves.filter sel.available ∨
      (node.pick sel (countersAt node selections time)).1 = [] ∧
        ∀ port ∈ node.leaves, sel.available port = false := by
  have hroom : (countersAt node selections time).Room node.turns := by
    intro address
    have hlt := (List.getElem?_eq_some_iff.mp hselection).1
    calc (countersAt node selections time address).toNat + node.turns
        ≤ (time + 1) * node.turns := by
          rw [Nat.succ_mul]
          exact Nat.add_le_add_right (countersAt_le node selections time address) _
      _ ≤ selections.length * node.turns := Nat.mul_le_mul_right _ hlt
      _ ≤ 2 ^ 64 := hshort
  rcases pick_within_available sel node (countersAt node selections time) with hnil | hleaf
  · right
    have hnone := (pick_ne_nil_iff hroom).not.mp (not_not.mpr hnil)
    exact ⟨hnil, fun port hport => Bool.eq_false_of_not_eq_true fun havailable =>
      hnone ⟨port, hport, havailable⟩⟩
  · exact .inl hleaf

def twoSchemes : DestNode :=
  .strategy .roundRobin 0 [.leaf ⟨utf8 "out_a", by decide⟩, .leaf ⟨utf8 "out_b", by decide⟩]

def allUp : Selection := ⟨fun _ => true, fun _ => 0⟩

theorem second_pick_available : (twoSchemes.pick allUp (countersAt twoSchemes [allUp, allUp] 1)).1 ∈
    twoSchemes.leaves.filter allUp.available := by
  apply (picks_available twoSchemes [allUp, allUp] (by decide) 1 allUp rfl).resolve_right
  intro hnone
  nomatch hnone.2 (utf8 "out_a") List.mem_cons_self

end Fluxrig.Conductor
