import CSwitch.Library.FoldPrefix
import Mathlib

/-! Keeping the better of two along a list. What is kept at the end is the first
of the best elements. -/

set_option autoImplicit false

namespace CSwitch.Library

open Std (TransCmp OrientedCmp)

variable {α : Type} (cmp : α → α → Ordering)

def keepBetter (best : Option α) (element : α) : Option α :=
  match best with
  | none => some element
  | some best => if (cmp element best).isLT then some element else some best

/-- Better than everything before it, and beaten by nothing after it. -/
def FirstBest (elements : List α) (best : α) : Prop :=
  ∃ before after, elements = before ++ best :: after ∧
    (∀ other ∈ before, cmp best other = .lt) ∧ ∀ other ∈ after, cmp other best ≠ .lt

variable {cmp} {elements : List α} {best : α}

theorem FirstBest.mem (first : FirstBest cmp elements best) : best ∈ elements := by
  obtain ⟨before, after, rfl, _⟩ := first
  exact List.mem_append_right before List.mem_cons_self

theorem FirstBest.unique {other : α} (first : FirstBest cmp elements best)
    (second : FirstBest cmp elements other) : best = other := by
  obtain ⟨before, after, rfl, wins, unbeaten⟩ := first
  obtain ⟨before', after', same, wins', unbeaten'⟩ := second
  rcases List.append_eq_append_iff.mp same with ⟨middle, rfl, split⟩ | ⟨middle, rfl, split⟩
  · cases middle with
    | nil => exact (List.cons.inj split).1
    | cons head middle =>
        obtain ⟨rfl, rfl⟩ := List.cons.inj split
        have beats := wins' best (List.mem_append_right before List.mem_cons_self)
        exact absurd beats (unbeaten other (List.mem_append_right middle List.mem_cons_self))
  · cases middle with
    | nil => exact (List.cons.inj split).1.symm
    | cons head middle =>
        obtain ⟨rfl, rfl⟩ := List.cons.inj split
        have beats := wins other (List.mem_append_right before' List.mem_cons_self)
        exact absurd beats (unbeaten' best (List.mem_append_right middle List.mem_cons_self))

/-- Nothing comes before the first best element. -/
theorem FirstBest.not_gt [OrientedCmp cmp] (first : FirstBest cmp elements best) {other : α}
    (listed : other ∈ elements) : cmp best other ≠ .gt := by
  obtain ⟨before, after, rfl, wins, unbeaten⟩ := first
  rcases List.mem_append.mp listed with earlier | later
  · rw [wins other earlier]
    exact Ordering.noConfusion
  · rcases List.mem_cons.mp later with rfl | later
    · have same : cmp other other = .eq := Std.ReflCmp.compare_self
      rw [same]
      exact Ordering.noConfusion
    · intro greater
      exact unbeaten other later (OrientedCmp.lt_of_gt greater)

private theorem FirstBest.snoc [TransCmp cmp] (first : FirstBest cmp elements best) (element : α) :
    ∃ kept, keepBetter cmp (some best) element = some kept ∧
      FirstBest cmp (elements ++ [element]) kept := by
  obtain ⟨before, after, rfl, wins, unbeaten⟩ := first
  unfold keepBetter
  dsimp only
  split
  next better =>
    have less : cmp element best = .lt := Ordering.isLT_iff_eq_lt.mp better
    refine ⟨element, rfl, before ++ best :: after, [], rfl, ?_, by simp⟩
    intro other member
    rcases List.mem_append.mp member with earlier | later
    · exact TransCmp.lt_trans less (wins other earlier)
    · rcases List.mem_cons.mp later with rfl | later
      · exact less
      · have notLess := unbeaten other later
        have swapped : cmp best other = (cmp other best).swap := OrientedCmp.eq_swap
        refine TransCmp.lt_of_lt_of_isLE less ?_
        rw [swapped]
        cases order : cmp other best with
        | lt => exact absurd order notLess
        | eq => rfl
        | gt => rfl
  next kept =>
    refine ⟨best, rfl, before, after ++ [element], by simp, wins, ?_⟩
    intro other member
    rcases List.mem_append.mp member with later | last
    · exact unbeaten other later
    · rw [List.mem_singleton.mp last]
      exact fun less => kept (Ordering.isLT_iff_eq_lt.mpr less)

theorem foldl_keepBetter_iff [TransCmp cmp] :
    elements.foldl (keepBetter cmp) none = some best ↔ FirstBest cmp elements best := by
  have kept : elements ≠ [] → ∃ last, elements.foldl (keepBetter cmp) none = some last ∧
      FirstBest cmp elements last := by
    induction elements using List.reverseRecOn with
    | nil => exact fun empty => absurd rfl empty
    | append_singleton rest element ih =>
        intro _
        rw [List.foldl_append]
        cases rest with
        | nil => exact ⟨element, rfl, [], [], rfl, by simp, by simp⟩
        | cons head tail =>
            obtain ⟨last, folded, first⟩ := ih (List.cons_ne_nil head tail)
            rw [folded]
            exact first.snoc element
  constructor
  · intro folded
    have listed : elements ≠ [] := by
      rintro rfl
      cases folded
    obtain ⟨last, same, first⟩ := kept listed
    obtain rfl := Option.some.inj (folded.symm.trans same)
    exact first
  · intro first
    obtain ⟨last, folded, other⟩ := kept (List.ne_nil_of_mem first.mem)
    rw [folded, first.unique other]

theorem foldl_keepBetter_eq_none : elements.foldl (keepBetter cmp) none = none ↔ elements = [] := by
  have each : ∀ (best : Option α) (element : α),
      keepBetter cmp best element = none ↔ best = none ∧ keepBetter cmp none element = none := by
    intro best element
    refine iff_of_false ?_ fun both => Option.some_ne_none element both.2
    unfold keepBetter
    cases best with
    | none => exact Option.some_ne_none element
    | some best =>
        dsimp only
        split
        · exact Option.some_ne_none element
        · exact Option.some_ne_none best
  rw [foldl_eq_none_iff each]
  constructor
  · intro nothing
    refine List.eq_nil_iff_forall_not_mem.mpr fun element member => ?_
    exact Option.some_ne_none element (nothing.2 element member)
  · rintro rfl
    exact ⟨rfl, by simp⟩

end CSwitch.Library
