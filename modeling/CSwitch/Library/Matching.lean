import CSwitch.Library.FiberCount

/-! Tasks that each want a slot of their own. Whoever shares a pool with more tasks
than slots stays without one, class by class and over all tasks. -/

set_option autoImplicit false

namespace CSwitch.Library

open FiberCount

variable {τ σ κ : Type}

/-- Some of the tasks get a slot that suits them, no two the same. -/
structure Matching (tasks : Finset τ) (slotsOf : τ → Finset σ) (give : τ → Option σ) : Prop where
  suits : ∀ task ∈ tasks, ∀ slot, give task = some slot → slot ∈ slotsOf task
  apart : ∀ left ∈ tasks, ∀ right ∈ tasks, ∀ slot, give left = some slot →
    give right = some slot → left = right

def unmatched [DecidableEq σ] (tasks : Finset τ) (give : τ → Option σ) : Finset τ :=
  tasks.filter fun task => give task = none

variable {tasks own : Finset τ} {slotsOf : τ → Finset σ} {give : τ → Option σ}

theorem Matching.subset (matching : Matching tasks slotsOf give) (fewer : own ⊆ tasks) :
    Matching own slotsOf give where
  suits task member := matching.suits task (fewer member)
  apart left onLeft right onRight := matching.apart left (fewer onLeft) right (fewer onRight)

variable [DecidableEq σ]

/-- Tasks that share a pool of slots: those beyond its size stay without one. -/
theorem Matching.deficit_le (matching : Matching tasks slotsOf give) {pool : Finset σ}
    (pooled : ∀ task ∈ tasks, slotsOf task ⊆ pool) :
    tasks.card - pool.card ≤ (unmatched tasks give).card := by
  have placed : (tasks.filter fun task => ¬ give task = none).card ≤ pool.card := by
    refine le_of_le_of_eq (Finset.card_le_card_of_injOn give ?_ ?_)
      (Finset.card_map Function.Embedding.some)
    · intro task member
      obtain ⟨inside, given⟩ := Finset.mem_filter.mp member
      obtain ⟨slot, found⟩ := Option.ne_none_iff_exists'.mp given
      rw [found, Finset.mem_coe, Finset.mem_map]
      exact ⟨slot, pooled task inside (matching.suits task inside slot found), rfl⟩
    · intro left onLeft right onRight same
      obtain ⟨leftIn, given⟩ := Finset.mem_filter.mp onLeft
      obtain ⟨slot, found⟩ := Option.ne_none_iff_exists'.mp given
      exact matching.apart left leftIn right (Finset.mem_filter.mp onRight).1 slot found
        (same ▸ found)
  have split := Finset.card_filter_add_card_filter_not (s := tasks) fun task => give task = none
  unfold unmatched
  omega

variable [DecidableEq κ]

/-- The deficits of disjoint classes add up. -/
theorem Matching.sum_deficits_le (matching : Matching tasks slotsOf give) (classes : Finset κ)
    (classOf : τ → κ) (poolOf : κ → Finset σ)
    (pooled : ∀ task ∈ tasks, slotsOf task ⊆ poolOf (classOf task)) :
    ∑ kind ∈ classes, (fiberCount tasks classOf kind - (poolOf kind).card) ≤
      (unmatched tasks give).card := by
  have each : ∀ kind ∈ classes, fiberCount tasks classOf kind - (poolOf kind).card ≤
      fiberCount (unmatched tasks give) classOf kind := by
    intro kind _
    have shared : ∀ task ∈ tasks.filter fun task => classOf task = kind,
        slotsOf task ⊆ poolOf kind := by
      intro task member
      obtain ⟨inside, rfl⟩ := Finset.mem_filter.mp member
      exact pooled task inside
    have own := (matching.subset (Finset.filter_subset _ _)).deficit_le shared
    unfold unmatched at own ⊢
    unfold fiberCount
    rwa [Finset.filter_comm] at own
  refine (Finset.sum_le_sum each).trans ?_
  have fibers := Finset.card_eq_sum_card_fiberwise
    (s := (unmatched tasks give).filter fun task => classOf task ∈ classes) (t := classes)
    (f := classOf) (fun task member => (Finset.mem_filter.mp member).2)
  refine le_trans (le_of_eq ?_) (Finset.card_filter_le _ fun task => classOf task ∈ classes)
  rw [fibers]
  refine Finset.sum_congr rfl ?_
  intro kind inside
  unfold fiberCount
  rw [Finset.filter_filter]
  refine congrArg Finset.card (Finset.filter_congr ?_)
  intro task _
  constructor
  · rintro rfl
    exact ⟨inside, rfl⟩
  · exact fun both => both.2

end CSwitch.Library
