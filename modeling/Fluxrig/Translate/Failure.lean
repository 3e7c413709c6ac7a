import Fluxrig.Message.Shapes
import Fluxrig.Translate.Simultaneous

/-!
# Failed translations

A translation reads and converts everything before it writes, but it writes one alias
after the other and takes nothing back.  `failed_apply_keeps_iff` says exactly when a
message is left alone by a translation that fails.
-/

namespace Fluxrig.Translate

open Fluxrig.Core Message

section

variable (env : Env) (spec : Spec) (tr : Translation) (msg : FluxMsg)

/-- The text the bindings have for an alias: that of the last which has one. -/
def gathered (name : Text) : Option Text :=
  tr.bindings.reverse.findSome? fun binding =>
    effect env spec tr msg binding name

/-- Some alias has no place in the data, and every alias that is written before it holds
the text written to it already. -/
def WritesInVain : Prop :=
  ∃ name, gathered env spec tr msg name ≠ none ∧ ¬ msg.root.Open (splitDots name) ∧
    ∀ earlier text, earlier < name → gathered env spec tr msg earlier = some text →
      msg.root.get (splitDots earlier) = some (.text text)

end

section

variable {env : Env} {spec : Spec} {tr : Translation} {msg : FluxMsg}
  {writes : List (Text × Text)}

/-- Writes that fail leave the data as they were exactly if the one that fails finds no
place and those before it change nothing. -/
lemma root_writeAll_iff (hunblocked : Unblocked writes)
    (hfailed : (writeAll writes msg).2 ≠ none) :
    (writeAll writes msg).1.root = msg.root ↔ ∃ before entry after,
      writes = before ++ entry :: after ∧ ¬ msg.root.Open (splitDots entry.1) ∧
        ∀ other ∈ before, msg.root.get (splitDots other.1) = some (.text other.2) := by
  induction writes generalizing msg with
  | nil => exact absurd rfl hfailed
  | cons first rest ih =>
    obtain ⟨hlater, hunblocked⟩ := List.pairwise_cons.mp hunblocked
    have hopen := @FluxMsg.set_ok_iff msg first.1 (.text first.2)
    rw [writeAll] at hfailed ⊢
    cases hset : (msg.set first.1 (.text first.2)).2 with
    | some =>
      have hkept := @FluxMsg.root_set_of_failed msg first.1 (.text first.2) (by simp [hset])
      rw [hset] at hopen
      exact iff_of_true hkept ⟨[], first, rest, rfl, fun h => (by cases hopen.mpr h), by simp⟩
    | none =>
      rw [hset] at hfailed
      -- a text that is there already changes nothing, and no later write takes it away
      have hsame (hget : msg.root.get (splitDots first.1) = some (.text first.2)) :
          (msg.set first.1 (.text first.2)).1.root = msg.root := by
        rw [FluxMsg.root_set, Value.set_of_get hget]
      have hheld := writeAll_keeps (FluxMsg.get_set_self hset) rfl hlater
      constructor
      · intro hroot
        have hget : msg.root.get (splitDots first.1) = some (.text first.2) := by
          rw [← hroot]
          exact hheld
        obtain ⟨before, entry, after, hsplit, hclosed, hbefore⟩ :=
          (ih hunblocked hfailed).mp (hroot.trans (hsame hget).symm)
        rw [hsame hget] at hclosed hbefore
        exact ⟨first :: before, entry, after, by rw [hsplit]; rfl, hclosed,
          List.forall_mem_cons.mpr ⟨hget, hbefore⟩⟩
      · rintro ⟨before, entry, after, hsplit, hclosed, hbefore⟩
        cases before with
        | nil =>
          cases hsplit
          exact absurd (hopen.mp hset) hclosed
        | cons =>
          cases hsplit
          obtain ⟨hget, hbefore⟩ := List.forall_mem_cons.mp hbefore
          rw [← hsame hget] at hclosed hbefore
          exact ((ih hunblocked hfailed).mpr ⟨_, _, _, rfl, hclosed, hbefore⟩).trans (hsame hget)

/-- In the order of the aliases, the writes before one are those to smaller aliases. -/
lemma writesInVain_iff (hwrites : collectWrites env spec tr msg tr.bindings [] = .ok writes) :
    WritesInVain env spec tr msg ↔ ∃ before entry after,
      sortWrites writes = before ++ entry :: after ∧ ¬ msg.root.Open (splitDots entry.1) ∧
        ∀ other ∈ before, msg.root.get (splitDots other.1) = some (.text other.2) := by
  have hdistinct := distinct_gathered hwrites
  have hmem (entry : Text × Text) : entry ∈ sortWrites writes ↔
      gathered env spec tr msg entry.1 = some entry.2 := by
    rw [gathered, ← lookup_gathered hwrites, ← hdistinct.mem_iff,
      (sortWrites_perm writes).mem_iff]
  have hnodup : (sortWrites writes).Pairwise fun left right => left.1 ≠ right.1 :=
    List.pairwise_map.mp hdistinct.sortWrites
  have hordered := (sortWrites_sorted writes).and hnodup
  constructor
  · rintro ⟨name, hgathered, hclosed, hearlier⟩
    obtain ⟨text, htext⟩ := Option.ne_none_iff_exists'.mp hgathered
    obtain ⟨before, after, hsplit⟩ := List.append_of_mem ((hmem (name, text)).mpr htext)
    refine ⟨before, (name, text), after, hsplit, hclosed, ?_⟩
    intro other hother
    rw [hsplit] at hordered
    have hpair := (List.pairwise_append.mp hordered).2.2 other hother _ List.mem_cons_self
    apply hearlier other.1 other.2 (List.not_le.mp fun hle =>
      hpair.2 (List.le_antisymm hpair.1 hle))
    rw [← hmem, hsplit]
    exact List.mem_append_left _ hother
  · rintro ⟨before, entry, after, hsplit, hclosed, hbefore⟩
    have hentry : entry ∈ sortWrites writes := by simp [hsplit]
    refine ⟨entry.1, by simp [(hmem entry).mp hentry], hclosed, ?_⟩
    intro earlier text hlt htext
    have hin := (hmem (earlier, text)).mpr htext
    rw [hsplit, List.mem_append, List.mem_cons] at hin
    rw [hsplit] at hordered
    rcases hin with hin | rfl | hin
    · exact hbefore _ hin
    · exact absurd hlt (List.lt_irrefl _)
    · have hle := ((List.pairwise_cons.mp (List.pairwise_append.mp hordered).2.1).1 _ hin).1
      exact absurd hlt (List.not_lt.mpr hle)

/-- A translation that fails leaves the data alone exactly if it fails over a value, or
has written nothing new before it finds an alias without a place. -/
theorem failed_apply_keeps_iff (env : Env) (spec : Spec) (tr : Translation) (msg : FluxMsg) :
    ((apply env spec tr msg).error ≠ none → (apply env spec tr msg).msg.root = msg.root) ↔
      Runs env spec tr msg ∨
      (∃ binding ∈ tr.bindings, ∀ pairs, bindingWrites env spec tr msg binding ≠ .ok pairs) ∨
      WritesInVain env spec tr msg := by
  rw [← apply_ok_iff]
  have hreadable := @collectWrites_ok_iff env spec tr msg tr.bindings []
  rw [apply, collectWrites_arrived]
  cases hwrites : collectWrites env spec tr msg tr.bindings [] with
  | error =>
    rw [hwrites] at hreadable
    have hsome : ∃ binding ∈ tr.bindings, ∀ pairs,
        bindingWrites env spec tr msg binding ≠ .ok pairs := by
      by_contra hnone
      push Not at hnone
      obtain ⟨_, hok⟩ := hreadable.mpr hnone
      cases hok
    exact iff_of_true (fun _ => rfl) (.inr (.inl hsome))
  | ok writes =>
    have hall := hreadable.mp ⟨writes, hwrites⟩
    have hnot : ¬ ∃ binding ∈ tr.bindings, ∀ pairs,
        bindingWrites env spec tr msg binding ≠ .ok pairs := by
      rintro ⟨binding, hbinding, hnone⟩
      obtain ⟨pairs, hok⟩ := hall binding hbinding
      exact hnone pairs hok
    have hroot := @root_writeAll_iff (arrived msg) (sortWrites writes)
      (unblocked_sortWrites (distinct_gathered hwrites))
    rw [writesInVain_iff hwrites, or_iff_right hnot]
    dsimp only
    cases hwritten : writeAll (sortWrites writes) (arrived msg) with
    | mk written failure =>
      rw [hwritten] at hroot
      cases failure with
      | none => simp
      | some =>
        simp only [ne_eq, reduceCtorEq, not_false_eq_true, forall_const, false_or]
        exact hroot (by simp)

end

/-! ## A write before the one that fails -/

def holderBinding : Binding := { currencyBinding with toAlias := utf8 "holder.name" }

def holderProtocol : Protocol := .iso8583 {
  specID := utf8 "card"
  specVersion := utf8 "1.0.0"
  catalog := [(utf8 "0200", [])]
  fields := [(45, ⟨none, []⟩), (49, ⟨none, []⟩)]
  aliases := [(45, utf8 "holder.name"), (49, utf8 "currency")]
  idByAlias := [(utf8 "currency", 49), (utf8 "holder.name", 45)] }

def holderDocument : Document :=
  { amountDocument (utf8 "card:0200") with
    translations := [(utf8 "pay", ⟨utf8 "card:0200", utf8 "card:0200",
      [currencyBinding, holderBinding]⟩)] }

def holderSpec : Spec := holderDocument.spec (fun _ => .ok holderProtocol) []

def holderTranslation : Translation :=
  { toCard with
    bindings := [currencyBinding, holderBinding]
    fromProto := holderProtocol
    toProto := holderProtocol }

/-- A message in which the holder is a text and not a map. -/
def plainHolder : FluxMsg :=
  { tenDollars with data := some [(utf8 "holder", .text (utf8 "holder"))] }

/-- The holder's name has no place, but the currency is written first. -/
theorem failed_apply_changes :
    Loaded holderSpec ∧ (utf8 "pay", holderTranslation) ∈ holderSpec.translations ∧
      (apply plainEnv holderSpec holderTranslation plainHolder).error ≠ none ∧
      (apply plainEnv holderSpec holderTranslation plainHolder).msg.root ≠ plainHolder.root := by
  refine ⟨@Loaded.load holderDocument (fun _ => .ok holderProtocol) [] _ rfl,
    List.mem_cons_self, nofun, ?_⟩
  intro hroot
  have hread : utf8 "EUR" = [] := @readString_root plainEnv _ _ hroot (utf8 "currency")
  exact absurd hread (by decide)

end Fluxrig.Translate
