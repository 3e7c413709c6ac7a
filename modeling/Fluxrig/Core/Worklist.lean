import Fluxrig.Core.Loop

/-!
# Work lists

A loop that takes items from the front of a list, leaves out those it has seen, and
appends what a visited item leads to.  It ends if only finitely many items can be visited,
and what it has put out then is what the items reached from the start put out, each of
them whatever the order.
-/

namespace Fluxrig.Core

variable {Item Output : Type*} [DecidableEq Item] (accept : Item → Bool)
  (visit : Item → Option (Output × List Item))

structure Worklist (Item Output : Type*) where
  work : List Item
  seen : List Item
  out : List Output

/-- One item.  A visit that fails leaves the item seen. -/
def Worklist.turn (list : Worklist Item Output) : Worklist Item Output ⊕ List Output :=
  match list.work with
  | [] => .inr list.out
  | item :: rest =>
      if accept item = false ∨ item ∈ list.seen then .inl { list with work := rest }
      else
        match visit item with
        | none => .inl ⟨rest, item :: list.seen, list.out⟩
        | some (output, more) =>
            .inl ⟨rest ++ more, item :: list.seen, list.out ++ [output]⟩

/-- The items that a start leads to. -/
inductive Reached (start : List Item) : Item → Prop where
  | start {item : Item} (hstart : item ∈ start) : Reached start item
  | more {item other : Item} {output : Output} {more : List Item}
      (hreached : Reached start item) (haccept : accept item = true)
      (hvisit : visit item = some (output, more)) (hmore : other ∈ more) :
      Reached start other

variable {accept visit} {start : List Item} {list next : Worklist Item Output}

/-- What a turn that goes on does. -/
lemma turn_cases (hturn : Continues (Worklist.turn accept visit) list next) :
    ∃ item rest, list.work = item :: rest ∧
      ((accept item = false ∨ item ∈ list.seen) ∧ next = { list with work := rest } ∨
      (accept item = true ∧ item ∉ list.seen) ∧
        (visit item = none ∧ next = ⟨rest, item :: list.seen, list.out⟩ ∨
        ∃ output more, visit item = some (output, more) ∧
          next = ⟨rest ++ more, item :: list.seen, list.out ++ [output]⟩)) := by
  rw [Continues, Worklist.turn] at hturn
  cases hwork : list.work with
  | nil =>
    rw [hwork] at hturn
    nomatch hturn
  | cons item rest =>
    refine ⟨item, rest, rfl, ?_⟩
    simp only [hwork] at hturn
    by_cases hskip : accept item = false ∨ item ∈ list.seen
    · rw [if_pos hskip, Sum.inl.injEq] at hturn
      exact Or.inl ⟨hskip, hturn.symm⟩
    · rw [if_neg hskip] at hturn
      rw [not_or, Bool.not_eq_false] at hskip
      refine Or.inr ⟨hskip, ?_⟩
      cases hvisit : visit item with
      | none =>
        rw [hvisit, Sum.inl.injEq] at hturn
        exact Or.inl ⟨rfl, hturn.symm⟩
      | some found =>
        rw [hvisit, Sum.inl.injEq] at hturn
        exact Or.inr ⟨found.1, found.2, rfl, hturn.symm⟩

/-- The loop ends if the items with a successful visit are among finitely many. -/
lemma worklist_returns (among : Finset Item)
    (hamong : ∀ item found, accept item = true → visit item = some found → item ∈ among)
    (list : Worklist Item Output) :
    ∃ fuel out, loop (Worklist.turn accept visit) fuel list = some out := by
  -- A successful visit uses up an item of the set; any other turn shortens the list.
  let variant : Worklist Item Output → ℕ × ℕ := fun list =>
    ((among.filter (· ∉ list.seen)).card, list.work.length)
  apply loop_returns_of_variant (WellFounded.prod_lex wellFounded_lt wellFounded_lt) variant
  intro here there hturn
  obtain ⟨item, rest, hwork, hcases⟩ := turn_cases hturn
  have hshorter : rest.length < here.work.length := by
    rw [hwork]
    exact Nat.lt_succ_self _
  have hsubset : among.filter (· ∉ item :: here.seen) ⊆ among.filter (· ∉ here.seen) := by
    intro other hother
    rw [Finset.mem_filter] at hother ⊢
    exact ⟨hother.1, fun hseen => hother.2 (List.mem_cons_of_mem item hseen)⟩
  rcases hcases with ⟨_, heq⟩ | ⟨⟨haccept, hfresh⟩, ⟨_, heq⟩ | ⟨output, more, hvisit, heq⟩⟩
  · rw [heq]
    exact Prod.Lex.right _ hshorter
  · rw [heq]
    rcases (Finset.card_le_card hsubset).lt_or_eq with hless | hsame
    · exact Prod.Lex.left _ _ hless
    · change Prod.Lex _ _ (_, rest.length) _
      rw [hsame]
      exact Prod.Lex.right _ hshorter
  · rw [heq]
    apply Prod.Lex.left
    apply Finset.card_lt_card
    refine ⟨hsubset, ?_⟩
    intro hback
    have hmem := hback (Finset.mem_filter.mpr ⟨hamong item _ haccept hvisit, hfresh⟩)
    exact (Finset.mem_filter.mp hmem).2 List.mem_cons_self

/-- What has been seen is reached and has put out its output, and nothing reached is
forgotten: an item that is not left out waits or has been seen. -/
structure Worklist.Traced (accept : Item → Bool) (visit : Item → Option (Output × List Item))
    (start : List Item) (list : Worklist Item Output) : Prop where
  work : ∀ item ∈ list.work, Reached accept visit start item
  seen : ∀ item ∈ list.seen, Reached accept visit start item ∧ accept item = true
  out : ∀ output, output ∈ list.out ↔ ∃ item ∈ list.seen, ∃ more, visit item = some (output, more)
  start : ∀ item ∈ start, accept item = true → item ∈ list.work ∨ item ∈ list.seen
  more : ∀ item ∈ list.seen, ∀ output more, visit item = some (output, more) →
    ∀ other ∈ more, accept other = true → other ∈ list.work ∨ other ∈ list.seen

lemma traced_turn (hturn : Continues (Worklist.turn accept visit) list next)
    (htraced : list.Traced accept visit start) : next.Traced accept visit start := by
  obtain ⟨hwork, hseen, hout, hstart, hmore⟩ := htraced
  obtain ⟨item, rest, hitems, hcases⟩ := turn_cases hturn
  have hitem := hwork item (hitems ▸ List.mem_cons_self)
  rcases hcases with ⟨hskip, rfl⟩ | ⟨⟨haccept, _⟩, ⟨hvisit, rfl⟩ | ⟨output, more, hvisit, rfl⟩⟩
  · -- The item is left out, or has been seen.
    constructor <;> grind
  · constructor <;> grind
  · have hnew := fun other =>
      @Reached.more _ _ accept visit start item other _ _ hitem haccept hvisit
    constructor <;> grind

/-- What the loop puts out is what the reached items put out. -/
lemma mem_worklist_iff {fuel : ℕ} {out : List Output}
    (hloop : loop (Worklist.turn accept visit) fuel ⟨start, [], []⟩ = some out)
    (output : Output) :
    output ∈ out ↔ ∃ item more, Reached accept visit start item ∧ accept item = true ∧
      visit item = some (output, more) := by
  obtain ⟨last, hreaches, hleaves⟩ := loop_returns_iff.mp ⟨fuel, hloop⟩
  have htraced : last.Traced accept visit start := by
    clear hleaves
    induction hreaches with
    | refl =>
      exact ⟨fun _ hitem => .start hitem, nofun, by simp, fun _ hitem _ => Or.inl hitem, nofun⟩
    | tail _ hturn ih => exact traced_turn hturn ih
  have hdone : last.work = [] ∧ last.out = out := by
    rw [Worklist.turn] at hleaves
    split at hleaves
    · exact ⟨by assumption, Sum.inr.inj hleaves⟩
    · grind
  -- At the end nothing waits, so every reached item has been seen.
  have hseen : ∀ item, Reached accept visit start item → accept item = true →
      item ∈ last.seen := by
    intro item hreached
    induction hreached with
    | start hstart => exact fun haccept => by simpa [hdone.1] using htraced.start _ hstart haccept
    | more _ haccept hvisit hmore ih =>
      exact fun hother =>
        by simpa [hdone.1] using htraced.more _ (ih haccept) _ _ hvisit _ hmore hother
  rw [← hdone.2, htraced.out]
  constructor
  · intro hfound
    obtain ⟨item, hmem, more, hvisit⟩ := hfound
    exact ⟨item, more, (htraced.seen item hmem).1, (htraced.seen item hmem).2, hvisit⟩
  · intro hfound
    obtain ⟨item, more, hreached, haccept, hvisit⟩ := hfound
    exact ⟨item, hseen item hreached haccept, more, hvisit⟩

end Fluxrig.Core
