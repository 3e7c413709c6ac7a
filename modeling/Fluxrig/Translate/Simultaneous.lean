import Fluxrig.Core.Related
import Fluxrig.Message.Mask
import Fluxrig.Translate.Conversion

/-!
# Bindings in any order

Every binding reads the message as it arrived, so the order of the bindings can only
show where two of them write the same alias.  The loader refuses that for the
targets the bindings name, but not for the currency field an amount binding
writes besides its target.  `bindings_simultaneous_iff` says exactly when the order
does not matter.
-/

namespace Fluxrig.Translate

open Fluxrig.Core Message

/-- The translation with its bindings in another order. -/
def Translation.reorder (tr : Translation) (order : List Binding) : Translation :=
  { tr with bindings := order }

/-- Both runs fail, or both succeed and leave the same data. -/
def Outcome.Agrees (left right : Outcome) : Prop :=
  (left.error ≠ none ∧ right.error ≠ none) ∨
    (left.error = none ∧ right.error = none ∧ left.msg.root = right.msg.root)

section

variable (env : Env) (spec : Spec) (tr : Translation) (msg : FluxMsg)

/-- The text one binding writes under an alias. -/
def effect (binding : Binding) (name : Text) : Option Text :=
  match bindingWrites env spec tr msg binding with
  | .ok pairs => pairs.reverse.lookup name
  | .error _ => none

/-- Some binding writes the alias. -/
def Written (name : Text) : Prop :=
  ∃ binding ∈ tr.bindings, ∃ text, effect env spec tr msg binding name = some text

/-- The alias is written over by the identity of the target message. -/
def Covered (name : Text) : Prop :=
  ∃ own, tr.toProto.messageAlias = some own ∧ splitDots own <+: splitDots name

/-- The translation can run: every binding has its value, and every alias has its place in
the data. -/
structure Runs : Prop where
  readable : ∀ binding ∈ tr.bindings, ∃ pairs, bindingWrites env spec tr msg binding = .ok pairs
  openWay : ∀ name, Written env spec tr msg name → msg.root.Open (splitDots name)
  apart : ∀ upper lower, Written env spec tr msg upper →
    Written env spec tr msg lower → splitDots upper <+: splitDots lower → upper = lower

/-- Two bindings write different texts under an alias that stays readable. -/
def Clash : Prop :=
  ∃ left ∈ tr.bindings, ∃ right ∈ tr.bindings, ∃ name text other,
    effect env spec tr msg left name = some text ∧
      effect env spec tr msg right name = some other ∧ text ≠ other ∧
      ¬ Covered tr name

end

section

variable {env : Env} {spec : Spec} {tr : Translation} {msg : FluxMsg}

variable {bindings : List Binding} {writes : List (Text × Text)}

lemma collectWrites_ok_iff :
    (∃ result, collectWrites env spec tr msg bindings writes = .ok result) ↔
      ∀ binding ∈ bindings, ∃ pairs, bindingWrites env spec tr msg binding = .ok pairs := by
  induction bindings generalizing writes with
  | nil => simp [collectWrites]
  | cons _ _ ih =>
    rw [List.forall_mem_cons]
    constructor
    · rintro ⟨result, hok⟩
      obtain ⟨pairs, hfirst, hrest⟩ := collectWrites_cons hok
      exact ⟨⟨pairs, hfirst⟩, ih.mp ⟨result, hrest⟩⟩
    · rintro ⟨⟨pairs, hfirst⟩, hrest⟩
      obtain ⟨result, hok⟩ := (@ih (assign pairs writes)).mpr hrest
      refine ⟨result, ?_⟩
      rw [collectWrites, hfirst]
      exact hok

/-- Only what each binding gathers matters. -/
lemma collectWrites_congr {other : Translation} {received : FluxMsg}
    (hsame : ∀ binding, bindingWrites env spec other received binding =
      bindingWrites env spec tr msg binding) (bindings : List Binding)
    (writes : List (Text × Text)) : collectWrites env spec other received bindings writes =
      collectWrites env spec tr msg bindings writes := by
  induction bindings generalizing writes with
  | nil => rfl
  | cons binding _ ih =>
    rw [collectWrites, collectWrites, hsame]
    cases bindingWrites env spec tr msg binding with
    | error => rfl
    | ok pairs => exact ih (assign pairs writes)

/-- The bindings read the same with the maps allocated. -/
lemma collectWrites_arrived (bindings : List Binding) (writes : List (Text × Text)) :
    collectWrites env spec tr (arrived msg) bindings writes =
      collectWrites env spec tr msg bindings writes := by
  apply collectWrites_congr
  exact fun _ => rfl

/-- What is gathered under an alias: the effect of the last binding that has one. -/
lemma lookup_gathered
    (hok : collectWrites env spec tr msg bindings [] = .ok writes) (name : Text) :
    writes.lookup name = bindings.reverse.findSome? fun binding =>
        effect env spec tr msg binding name := by
  have hleft : ∀ binding ∈ bindings, ∀ pairs, bindingWrites env spec tr msg binding = .ok pairs →
        pairs.reverse.lookup name = effect env spec tr msg binding name := by
    intro binding _ pairs hassigned
    rw [effect, hassigned]
  rw [lookup_collectWrites hleft hok, List.lookup_nil, Option.or_none]

lemma mem_keys_gathered (hok : collectWrites env spec tr msg tr.bindings [] = .ok writes)
    (name : Text) :
    name ∈ writes.map Prod.fst ↔ Written env spec tr msg name := by
  have hkeys : name ∈ writes.map Prod.fst ↔ (writes.lookup name).isSome = true := by
    rw [List.lookup_isSome_iff, List.mem_map]
    simp only [beq_iff_eq]
    simp only [eq_comm]
  rw [hkeys, lookup_gathered hok, List.findSome?_isSome_iff]
  simp only [List.mem_reverse, Option.isSome_iff_exists]
  rfl

/-- Exactly when a series of writes succeeds. -/
lemma writeAll_ok_iff :
    (writeAll writes msg).2 = none ↔ (∀ entry ∈ writes, msg.root.Open (splitDots entry.1)) ∧
        writes.Pairwise fun earlier later =>
          ¬ (splitDots earlier.1 <+: splitDots later.1 ∧
            splitDots earlier.1 ≠ splitDots later.1) := by
  induction writes generalizing msg with
  | nil => simp [writeAll]
  | cons entry _ ih =>
    rw [List.forall_mem_cons, List.pairwise_cons, writeAll]
    cases hset : (msg.set entry.1 (.text entry.2)).2 with
    | some =>
      have hclosed : ¬ msg.root.Open (splitDots entry.1) := by
        rw [← FluxMsg.set_ok_iff, hset]
        simp
      simp [hclosed]
    | none =>
      have hopen := FluxMsg.set_ok_iff.mp hset
      rw [FluxMsg.set_snd] at hset
      rw [ih, FluxMsg.root_set]
      simp only [Value.open_set_iff (splitDots_ne_nil entry.1) hset rfl, hopen, true_and]
      constructor
      · rintro ⟨hrest, hpairs⟩
        exact ⟨fun later hlater => (hrest later hlater).1,
          fun later hlater => (hrest later hlater).2, hpairs⟩
      · rintro ⟨hrest, hhead, hpairs⟩
        exact ⟨fun later hlater => ⟨hrest later hlater, hhead later hlater⟩, hpairs⟩

lemma writeAll_sorted_ok_iff (hdistinct : Distinct writes) :
    (writeAll (sortWrites writes) msg).2 = none ↔
      (∀ name ∈ writes.map Prod.fst, msg.root.Open (splitDots name)) ∧
        ∀ upper ∈ writes.map Prod.fst, ∀ lower ∈ writes.map Prod.fst,
          splitDots upper <+: splitDots lower → upper = lower := by
  have hmem : ∀ entry, entry ∈ sortWrites writes ↔ entry ∈ writes := by
    intro entry
    exact (sortWrites_perm writes).mem_iff
  have hblocked := unblocked_sortWrites hdistinct
  rw [writeAll_ok_iff]
  simp only [List.forall_mem_map, hmem]
  apply and_congr_right
  intro _
  constructor
  · intro hpairs upper hupper lower hlower
    -- of two entries one is written first, and neither order lets one lead to the other
    have hboth : (sortWrites writes).Pairwise fun left right =>
        (splitDots left.1 <+: splitDots right.1 → left.1 = right.1) ∧
          (splitDots right.1 <+: splitDots left.1 → right.1 = left.1) := by
      apply (hpairs.and hblocked).imp
      intro left right hpair
      constructor
      · intro hleads
        by_contra hne
        exact hpair.1 ⟨hleads, fun hsame => hne (splitDots_injective hsame)⟩
      · intro hleads
        exact absurd hleads hpair.2
    have hsymm : Std.Symm fun left right : Text × Text =>
        (splitDots left.1 <+: splitDots right.1 → left.1 = right.1) ∧
          (splitDots right.1 <+: splitDots left.1 → right.1 = left.1) :=
      ⟨fun _ _ hpair => ⟨hpair.2, hpair.1⟩⟩
    exact (hboth.forall_of_forall (fun _ _ => ⟨fun _ => rfl, fun _ => rfl⟩)
      ((hmem upper).mpr hupper) ((hmem lower).mpr hlower)).1
  · intro hapart
    apply List.Pairwise.imp_of_mem _ hblocked
    intro earlier later hearlier hlater _ hleads
    have hsame := hapart earlier ((hmem earlier).mp hearlier) later ((hmem later).mp hlater)
      hleads.1
    exact hleads.2 (congrArg splitDots hsame)

/-- Once every binding has its value, only the writes can fail. -/
lemma runs_iff (hwrites : collectWrites env spec tr msg tr.bindings [] = .ok writes) :
    Runs env spec tr msg ↔ (writeAll (sortWrites writes) (arrived msg)).2 = none := by
  rw [writeAll_sorted_ok_iff (distinct_gathered hwrites)]
  simp only [mem_keys_gathered hwrites]
  constructor
  · intro hruns
    exact ⟨hruns.openWay, fun upper hupper lower => hruns.apart upper lower hupper⟩
  · intro hall
    exact ⟨collectWrites_ok_iff.mp ⟨writes, hwrites⟩, hall.1,
      fun upper lower hupper => hall.2 upper hupper lower⟩

/-- Exactly when a translation succeeds. -/
lemma apply_ok_iff : (apply env spec tr msg).error = none ↔ Runs env spec tr msg := by
  rw [apply, collectWrites_arrived]
  cases hwrites : collectWrites env spec tr msg tr.bindings [] with
  | error =>
    have hnot : ¬ Runs env spec tr msg := by
      intro hruns
      obtain ⟨writes, hok⟩ := (@collectWrites_ok_iff env spec _ _ _ []).mpr hruns.readable
      cases hwrites.symm.trans hok
    simp [hnot]
  | ok writes =>
    rw [runs_iff hwrites]
    dsimp only
    cases writeAll (sortWrites writes) (arrived msg) with
    | mk _ failure => cases failure <;> simp

variable {order : List Binding}

lemma written_reorder (horder : order.Perm tr.bindings) (name : Text) :
    Written env spec (tr.reorder order) msg name ↔ Written env spec tr msg name := by
  apply exists_congr
  exact fun binding => and_congr_left fun _ => horder.mem_iff

/-- Whether a translation runs does not depend on the order. -/
lemma Runs.reorder (horder : order.Perm tr.bindings) (hruns : Runs env spec tr msg) :
    Runs env spec (tr.reorder order) msg := by
  constructor
  · intro binding hbinding
    exact hruns.readable binding (horder.mem_iff.mp hbinding)
  · intro name hname
    exact hruns.openWay name ((written_reorder horder name).mp hname)
  · intro upper lower hupper hlower
    exact hruns.apart upper lower ((written_reorder horder upper).mp hupper)
      ((written_reorder horder lower).mp hlower)

/-- The root of the data after the message got its new identity. -/
lemma root_stamp : (stamp spec tr msg).root = match tr.toProto.messageAlias with
    | none => msg.root
    | some own =>
      (msg.root.set (.text tr.toMessage) (splitDots own)).1 := by
  have hstamp : (stamp spec tr msg).root = (tr.toProto.setMessage msg tr.toMessage).root := by
    rw [stamp]
    split <;> rfl
  rw [hstamp, Protocol.setMessage]
  cases tr.toProto.messageAlias with
  | none => rfl
  | some =>
    rw [FluxMsg.root_set]
    rfl

/-- Runs that write the same texts, except below `own`, leave the same data there. -/
lemma mask_writeAll {own : Text} {firsts seconds : List (Text × Text)}
    {first second firstWritten secondWritten : FluxMsg}
    (hwrites : List.Forall₂ (fun left right : Text × Text => left.1 = right.1 ∧
      (splitDots own <+: splitDots left.1 ∨ left.2 = right.2)) firsts seconds)
    (hstart : first.root.mask (splitDots own) = second.root.mask (splitDots own))
    (hfirst : writeAll firsts first = (firstWritten, none))
    (hsecond : writeAll seconds second = (secondWritten, none)) :
    firstWritten.root.mask (splitDots own) = secondWritten.root.mask (splitDots own) := by
  induction hwrites generalizing first second with
  | nil =>
    obtain rfl : first = firstWritten := congrArg Prod.fst hfirst
    obtain rfl : second = secondWritten := congrArg Prod.fst hsecond
    exact hstart
  | @cons left right _ _ hpair _ ih =>
    obtain ⟨hset, hrest⟩ := writeAll_cons hfirst
    obtain ⟨hsetOther, hrestOther⟩ := writeAll_cons hsecond
    apply ih _ hrest hrestOther
    rw [FluxMsg.set_snd] at hset hsetOther
    rw [FluxMsg.root_set, FluxMsg.root_set]
    have hown := splitDots_ne_nil own
    by_cases hbelow : splitDots own <+: splitDots left.1
    · have hbelowOther : splitDots own <+: splitDots right.1 := hpair.1 ▸ hbelow
      rw [Value.mask_set_below hown hbelow hset,
        Value.mask_set_below hown hbelowOther hsetOther, hstart]
    · have hapartOther : ¬ splitDots own <+: splitDots right.1 := hpair.1 ▸ hbelow
      rw [Value.mask_set_apart hown hbelow (splitDots_ne_nil _) rfl hset,
        Value.mask_set_apart hown hapartOther (splitDots_ne_nil _) rfl hsetOther, hstart,
        hpair.1, hpair.2.resolve_left hbelow]

variable {writes others : List (Text × Text)}

/-- What two orders gather under one alias is the same, or hidden in the end. -/
lemma gathered_same (hclash : ¬ Clash env spec tr msg) (horder : order.Perm tr.bindings)
    (hwrites : collectWrites env spec tr msg tr.bindings [] = .ok writes)
    (hothers : collectWrites env spec tr msg order [] = .ok others)
    {name text other : Text} (htext : writes.lookup name = some text)
    (hother : others.lookup name = some other) : Covered tr name ∨ text = other := by
  rw [lookup_gathered hwrites] at htext
  rw [lookup_gathered hothers] at hother
  obtain ⟨left, hleft, heffect⟩ := List.exists_of_findSome?_eq_some htext
  obtain ⟨right, hright, heffectOther⟩ := List.exists_of_findSome?_eq_some hother
  by_contra hdiffer
  rw [not_or] at hdiffer
  exact hclash ⟨left, List.mem_reverse.mp hleft, right,
    horder.mem_iff.mp (List.mem_reverse.mp hright), name, text, other, heffect, heffectOther,
    hdiffer.2, hdiffer.1⟩

lemma sortWrites_keys (hwrites : Distinct writes) (hothers : Distinct others)
    (hkeys : ∀ name, name ∈ writes.map Prod.fst ↔ name ∈ others.map Prod.fst) :
    (sortWrites writes).map Prod.fst = (sortWrites others).map Prod.fst := by
  have hperm : ((sortWrites writes).map Prod.fst).Perm ((sortWrites others).map Prod.fst) := by
    calc ((sortWrites writes).map Prod.fst).Perm (writes.map Prod.fst) :=
          (sortWrites_perm writes).map _
      List.Perm _ (others.map Prod.fst) := (List.perm_ext_iff_of_nodup hwrites hothers).mpr hkeys
      List.Perm _ ((sortWrites others).map Prod.fst) := ((sortWrites_perm others).map _).symm
  apply hperm.eq_of_pairwise
  · intro left right _ _ hle hge
    exact List.le_antisymm hle hge
  · exact List.pairwise_map.mpr (sortWrites_sorted writes)
  · exact List.pairwise_map.mpr (sortWrites_sorted others)

lemma collectWrites_reorder (bindings : List Binding) (writes : List (Text × Text)) :
    collectWrites env spec (tr.reorder order) msg bindings writes =
      collectWrites env spec tr msg bindings writes := by
  apply collectWrites_congr
  exact fun _ => rfl

/-- Without a clash two orders that succeed leave the same data. -/
lemma root_reorder (hclash : ¬ Clash env spec tr msg) (horder : order.Perm tr.bindings)
    (hok : (apply env spec tr msg).error = none)
    (hother : (apply env spec (tr.reorder order) msg).error = none) :
    (apply env spec tr msg).msg.root = (apply env spec (tr.reorder order) msg).msg.root := by
  obtain ⟨writes, written, hwrites, hwritten, hmsg⟩ := apply_ok hok
  obtain ⟨others, otherWritten, hothers, hotherWritten, hotherMsg⟩ := apply_ok hother
  rw [collectWrites_arrived] at hwrites
  rw [collectWrites_arrived, collectWrites_reorder] at hothers
  have hdistinct := distinct_gathered hwrites
  have hdistinctOther := distinct_gathered hothers
  have hkeys : (sortWrites writes).map Prod.fst = (sortWrites others).map Prod.fst := by
    apply sortWrites_keys hdistinct hdistinctOther
    intro name
    have hreordered : collectWrites env spec (tr.reorder order) msg
        (tr.reorder order).bindings [] = .ok others := by
      rw [collectWrites_reorder]
      exact hothers
    rw [mem_keys_gathered hwrites, mem_keys_gathered hreordered, written_reorder horder]
  have hpairs : List.Forall₂ (fun left right : Text × Text => left.1 = right.1 ∧
      (Covered tr left.1 ∨ left.2 = right.2)) (sortWrites writes)
      (sortWrites others) := by
    apply forall₂_of_map_eq hkeys
    intro left hleft right hright hname
    refine ⟨hname, gathered_same hclash horder hwrites hothers ?_ ?_⟩
    · exact hdistinct.mem_iff.mp ((sortWrites_perm writes).mem_iff.mp hleft)
    · rw [hname]
      exact hdistinctOther.mem_iff.mp ((sortWrites_perm others).mem_iff.mp hright)
  have halias : (tr.reorder order).toProto.messageAlias = tr.toProto.messageAlias := rfl
  rw [hmsg, hotherMsg, root_stamp, root_stamp, halias]
  cases hown : tr.toProto.messageAlias with
  | none =>
    have hsame : sortWrites writes = sortWrites others := by
      apply List.forall₂_eq_eq_eq.subst
        (motive := fun relation => relation (sortWrites writes) (sortWrites others))
      apply hpairs.imp
      intro left right hpair
      apply Prod.ext hpair.1
      apply hpair.2.resolve_left
      rintro ⟨own, halias, -⟩
      rw [hown] at halias
      nomatch halias
    rw [hsame, hotherWritten] at hwritten
    exact congrArg FluxMsg.root (congrArg Prod.fst hwritten).symm
  | some own =>
    have hmasked : List.Forall₂ (fun left right : Text × Text => left.1 = right.1 ∧
        (splitDots own <+: splitDots left.1 ∨ left.2 = right.2)) (sortWrites writes)
        (sortWrites others) := by
      apply hpairs.imp
      rintro left right ⟨hname, hcovered⟩
      refine ⟨hname, hcovered.imp_left ?_⟩
      rintro ⟨other, hotherOwn, hleads⟩
      rw [hown, Option.some.injEq] at hotherOwn
      rw [hotherOwn]
      exact hleads
    have hmask := mask_writeAll hmasked rfl hwritten hotherWritten
    have hset := splitDots_ne_nil own
    dsimp only
    rw [← Value.set_mask hset, hmask, Value.set_mask hset]
    rfl

/-- The binding that comes last has its text read in the end. -/
lemma readString_last {earlier : List Binding} {binding : Binding} {name text : Text}
    (hok : (apply env spec (tr.reorder (earlier ++ [binding])) msg).error = none)
    (heffect : effect env spec tr msg binding name = some text)
    (huncovered : ¬ Covered tr name) :
    readString env (apply env spec (tr.reorder (earlier ++ [binding])) msg).msg name = text := by
  obtain ⟨writes, hwrites, hreads⟩ := apply_reads hok
  rw [collectWrites_arrived, collectWrites_reorder] at hwrites
  have hlookup : writes.lookup name = some text := by
    rw [lookup_gathered hwrites]
    change (earlier ++ [binding]).reverse.findSome? _ = _
    rw [List.reverse_append, List.reverse_singleton, List.singleton_append,
      List.findSome?_cons, heffect]
  rw [hreads name text hlookup]
  change (match tr.toProto.messageAlias with
    | none => text
    | some own => _) = text
  cases hown : tr.toProto.messageAlias with
  | none => rfl
  | some own =>
    have hnot : ¬ splitDots own <+: splitDots name := fun hleads =>
      huncovered ⟨own, hown, hleads⟩
    have hne : own ≠ name := by
      rintro rfl
      exact hnot (List.prefix_refl _)
    dsimp only
    rw [if_neg hne, if_neg hnot]

lemma readString_root {left right : FluxMsg} (hroot : left.root = right.root) (name : Text) :
    readString env left name = readString env right name := by
  have hget : left.get name = right.get name := congrArg (Value.get · (splitDots name)) hroot
  rw [readString, readString, hget]

/-- Exactly when the order of the bindings does not matter to a message. -/
theorem bindings_simultaneous_iff (env : Env) (spec : Spec) (tr : Translation) (msg : FluxMsg) :
    (∀ order : List Binding, order.Perm tr.bindings →
      (apply env spec tr msg).Agrees (apply env spec (tr.reorder order) msg)) ↔
      ¬ (Runs env spec tr msg ∧ Clash env spec tr msg) := by
  constructor
  · rintro hagree ⟨hruns, left, hleft, right, hright, name, text, other, htext, hother, hne,
      huncovered⟩
    have hok : (apply env spec tr msg).error = none := apply_ok_iff.mpr hruns
    have hlast : ∀ binding ∈ tr.bindings, ∀ last,
        effect env spec tr msg binding name = some last →
          readString env (apply env spec tr msg).msg name = last := by
      intro binding hbinding last hlast
      have hperm : (tr.bindings.erase binding ++ [binding]).Perm tr.bindings :=
        (List.perm_append_singleton _ _).trans (List.perm_cons_erase hbinding).symm
      cases hagree _ hperm with
      | inl hfailed => exact absurd hok hfailed.1
      | inr hboth =>
        rw [readString_root hboth.2.2]
        exact readString_last hboth.2.1 hlast huncovered
    exact hne ((hlast left hleft text htext).symm.trans (hlast right hright other hother))
  · intro hcondition order horder
    by_cases hruns : Runs env spec tr msg
    · have hok : (apply env spec tr msg).error = none := apply_ok_iff.mpr hruns
      have hother : (apply env spec (tr.reorder order) msg).error = none :=
        apply_ok_iff.mpr (hruns.reorder horder)
      have hclash : ¬ Clash env spec tr msg := fun hclash =>
        hcondition ⟨hruns, hclash⟩
      exact Or.inr ⟨hok, hother, root_reorder hclash horder hok hother⟩
    · refine Or.inl ⟨fun hok => hruns (apply_ok_iff.mp hok), ?_⟩
      intro hok
      have hback : Runs env spec ((tr.reorder order).reorder tr.bindings) msg :=
        (apply_ok_iff.mp hok).reorder horder.symm
      exact hruns hback

end

/-! ## A currency field with two writers -/

/-- A constant for the field in which the amount binding also writes its currency. -/
def currencyBinding : Binding where
  toAlias := utf8 "currency"
  sources := []
  value := some (utf8 "EUR")
  lookup := []
  generate := []
  table := []
  format := []
  currency := []

def clashDocument : Document :=
  { amountDocument (utf8 "rail:pacs.008.001.08") with
    translations := [(utf8 "pay", ⟨utf8 "card:0200", utf8 "rail:pacs.008.001.08",
      [amountBinding, currencyBinding]⟩)] }

def clashSpec : Spec := clashDocument.spec loadSample []

def clashTranslation : Translation := toRail.reorder [amountBinding, currencyBinding]

/-- With the constant last the currency is the euro, with the amount last the dollar. -/
theorem currency_order_matters :
    Loaded clashSpec ∧ (utf8 "pay", clashTranslation) ∈ clashSpec.translations ∧
      [currencyBinding, amountBinding].Perm clashTranslation.bindings ∧
      ¬ (apply plainEnv clashSpec clashTranslation tenDollars).Agrees (apply plainEnv clashSpec
          (clashTranslation.reorder [currencyBinding, amountBinding]) tenDollars) := by
  refine ⟨@Loaded.load clashDocument loadSample [] _ rfl, List.mem_cons_self,
    List.Perm.swap _ _ _, ?_⟩
  intro hagree
  cases hagree with
  | inl hfailed => exact hfailed.1 rfl
  | inr hboth =>
    have hread : utf8 "EUR" = utf8 "USD" :=
      @readString_root plainEnv _ _ hboth.2.2 (utf8 "currency")
    exact absurd hread (by decide)

end Fluxrig.Translate
