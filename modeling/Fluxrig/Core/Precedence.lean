import Mathlib.Tactic

/-!
# The order of a list

One entry of a list stands before another when the two of them, in this order,
are a sublist.  A queue that loses entries and takes new ones at its end keeps
the order of those that stay.
-/

namespace Fluxrig.Core

variable {Entry : Type*} {entries : List Entry} {first second : Entry}

/-- `first` stands before `second`. -/
def Precedes (entries : List Entry) (first second : Entry) : Prop :=
  [first, second].Sublist entries

lemma Precedes.mem_left (hprecedes : Precedes entries first second) : first ∈ entries :=
  hprecedes.mem List.mem_cons_self

lemma Precedes.mono {larger : List Entry} (hprecedes : Precedes entries first second)
    (hsublist : entries.Sublist larger) : Precedes larger first second :=
  hprecedes.trans hsublist

/-- Only the last entry has got new ones before it. -/
lemma Precedes.of_concat {newest : Entry}
    (hprecedes : Precedes (entries ++ [newest]) first second) (hne : second ≠ newest) :
    Precedes entries first second := by
  obtain ⟨front, back, hpair, hfront, hback⟩ := List.sublist_append_iff.mp hprecedes
  rcases List.sublist_singleton.mp hback with hnil | hlast
  · rw [hnil, List.append_nil] at hpair
    rw [Precedes, hpair]
    exact hfront
  · rw [hlast] at hpair
    have hend : ([first, second] : List Entry).getLast? = some newest := by
      rw [hpair, List.getLast?_concat]
    exact absurd (Option.some.inj hend) hne

lemma Precedes.of_cons {head : Entry}
    (hprecedes : Precedes (head :: entries) first second) (hne : first ≠ head) :
    Precedes entries first second :=
  List.Sublist.of_cons_of_ne hne hprecedes

/-- Nothing stands before the first entry. -/
lemma not_precedes_head (hnodup : (second :: entries).Nodup) (hne : first ≠ second) :
    ¬ Precedes (second :: entries) first second :=
  fun hprecedes => (List.nodup_cons.mp hnodup).1
    ((hprecedes.of_cons hne).mem (List.mem_cons_of_mem _ List.mem_cons_self))

/-- Of two entries one stands before the other. -/
lemma precedes_or_precedes (hfirst : first ∈ entries) (hsecond : second ∈ entries)
    (hne : first ≠ second) :
    Precedes entries first second ∨ Precedes entries second first := by
  induction entries with
  | nil => nomatch hfirst
  | cons head rest ih =>
    rcases List.mem_cons.mp hfirst with hhead | hfirst'
    · rcases List.mem_cons.mp hsecond with hhead' | hsecond'
      · exact absurd (hhead.trans hhead'.symm) hne
      · rw [hhead]
        exact Or.inl (List.cons_sublist_cons.mpr (List.singleton_sublist.mpr hsecond'))
    · rcases List.mem_cons.mp hsecond with hhead | hsecond'
      · rw [hhead]
        exact Or.inr (List.cons_sublist_cons.mpr (List.singleton_sublist.mpr hfirst'))
      · have hrest := List.sublist_cons_self head rest
        exact (ih hfirst' hsecond').imp (fun hbefore => hbefore.mono hrest) fun hbefore =>
          hbefore.mono hrest

end Fluxrig.Core
