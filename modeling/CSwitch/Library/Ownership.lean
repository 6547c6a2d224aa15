import Mathlib

/-! Owners that hold disjoint parts of a common stock, and rounds of scaling in
which every owner gives up or receives at most one resource. -/

set_option autoImplicit false

namespace CSwitch.Library

variable {ι α : Type}

/-- Everything owned is in the stock, and nothing is owned twice. -/
structure Exclusive (stock : Set α) (owned : ι → Set α) : Prop where
  within : ∀ {owner : ι} {resource : α}, resource ∈ owned owner → resource ∈ stock
  apart : ∀ {owner other : ι} {resource : α},
    resource ∈ owned owner → resource ∈ owned other → owner = other

theorem Exclusive.empty {stock : Set α} {owned : ι → Set α}
    (nothing : ∀ owner resource, resource ∉ owned owner) : Exclusive stock owned where
  within member := absurd member (nothing _ _)
  apart member _ := absurd member (nothing _ _)

/-- At most one resource comes or at most one goes, never both. -/
structure OneChange (before after : Set α) : Prop where
  gained : (after \ before).Subsingleton
  lost : (before \ after).Subsingleton
  notBoth : after \ before = ∅ ∨ before \ after = ∅

theorem OneChange.refl (owned : Set α) : OneChange owned owned where
  gained := by simp
  lost := by simp
  notBoth := by simp

theorem OneChange.remove (owned : Set α) (resource : α) :
    OneChange owned (owned \ {resource}) where
  gained := by
    rw [Set.sdiff_eq_empty.mpr Set.sdiff_subset]
    exact Set.subsingleton_empty
  lost := by
    rw [Set.sdiff_sdiff_right_self]
    exact Set.subsingleton_singleton.anti Set.inter_subset_right
  notBoth := .inl (Set.sdiff_eq_empty.mpr Set.sdiff_subset)

theorem OneChange.add (owned : Set α) (resource : α) :
    OneChange owned (insert resource owned) where
  gained := by
    refine Set.subsingleton_singleton.anti (t := {resource}) ?_
    rintro other ⟨rfl | kept, fresh⟩
    · rfl
    · exact absurd kept fresh
  lost := by
    rw [Set.sdiff_eq_empty.mpr (Set.subset_insert _ _)]
    exact Set.subsingleton_empty
  notBoth := .inr (Set.sdiff_eq_empty.mpr (Set.subset_insert _ _))

variable [DecidableEq ι]

/-- What a round of scaling can reach: an owner that has not taken part yet
gives up one resource, or receives one that nobody owns. -/
inductive Scaled (stock : Set α) (start : ι → Set α) : (ι → Set α) → Set ι → Prop where
  | start : Scaled stock start start ∅
  | release {owned : ι → Set α} {changed : Set ι} {owner : ι} {resource : α} :
      Scaled stock start owned changed → owner ∉ changed → resource ∈ owned owner →
      Scaled stock start (Function.update owned owner (owned owner \ {resource}))
        (insert owner changed)
  | grant {owned : ι → Set α} {changed : Set ι} {owner : ι} {resource : α} :
      Scaled stock start owned changed → owner ∉ changed → resource ∈ stock →
      (∀ other, resource ∉ owned other) →
      Scaled stock start (Function.update owned owner (insert resource (owned owner)))
        (insert owner changed)

variable {stock : Set α} {start owned : ι → Set α} {changed : Set ι}

theorem mem_update_diff {owner other : ι} {resource kept : α} :
    kept ∈ Function.update owned owner (owned owner \ {resource}) other ↔
      kept ∈ owned other ∧ (other = owner → kept ≠ resource) := by
  by_cases same : other = owner
  · subst same
    simp
  · simp [same]

theorem mem_update_insert {owner other : ι} {resource kept : α} :
    kept ∈ Function.update owned owner (insert resource (owned owner)) other ↔
      kept ∈ owned other ∨ (other = owner ∧ kept = resource) := by
  by_cases same : other = owner
  · subst same
    simp [or_comm]
  · simp [same]

theorem Scaled.exclusive (initial : Exclusive stock start)
    (scaled : Scaled stock start owned changed) : Exclusive stock owned := by
  induction scaled with
  | start => exact initial
  | release _ _ _ ih =>
      constructor
      · intro owner kept member
        exact ih.within (mem_update_diff.mp member).1
      · intro owner other kept left right
        exact ih.apart (mem_update_diff.mp left).1 (mem_update_diff.mp right).1
  | grant _ _ inStock unowned ih =>
      constructor
      · intro owner kept member
        rcases mem_update_insert.mp member with before | ⟨_, rfl⟩
        · exact ih.within before
        · exact inStock
      · intro owner other kept left right
        rcases mem_update_insert.mp left with before | ⟨rfl, rfl⟩ <;>
          rcases mem_update_insert.mp right with earlier | ⟨same, same'⟩
        · exact ih.apart before earlier
        · exact absurd (same' ▸ before) (unowned _)
        · exact absurd earlier (unowned _)
        · exact same.symm

theorem Scaled.untouched {owner : ι} (scaled : Scaled stock start owned changed)
    (still : owner ∉ changed) : owned owner = start owner := by
  induction scaled with
  | start => rfl
  | release _ _ _ ih =>
      rw [Set.mem_insert_iff, not_or] at still
      rw [Function.update_of_ne still.1, ih still.2]
  | grant _ _ _ _ ih =>
      rw [Set.mem_insert_iff, not_or] at still
      rw [Function.update_of_ne still.1, ih still.2]

/-- Who takes part gives up something it has, or gets something it has not. -/
theorem Scaled.changed_ne {owner : ι} (scaled : Scaled stock start owned changed)
    (tookPart : owner ∈ changed) : owned owner ≠ start owner := by
  induction scaled with
  | start => exact absurd tookPart (Set.notMem_empty owner)
  | @release _ _ releaser resource before fresh held ih =>
      by_cases same : owner = releaser
      · subst same
        rw [Function.update_self, ← before.untouched fresh]
        intro equal
        rw [← equal] at held
        exact held.2 rfl
      · rw [Function.update_of_ne same]
        exact ih (tookPart.resolve_left same)
  | @grant _ _ recipient resource before fresh _ unowned ih =>
      by_cases same : owner = recipient
      · subst same
        rw [Function.update_self, ← before.untouched fresh]
        intro equal
        have free := unowned owner
        rw [← equal] at free
        exact free (Set.mem_insert _ _)
      · rw [Function.update_of_ne same]
        exact ih (tookPart.resolve_left same)

/-- Taking part once is what bounds the change. -/
theorem Scaled.oneChange (scaled : Scaled stock start owned changed) (owner : ι) :
    OneChange (start owner) (owned owner) := by
  induction scaled with
  | start => exact .refl _
  | @release _ _ releaser resource before fresh _ ih =>
      by_cases same : owner = releaser
      · subst same
        rw [Function.update_self, before.untouched fresh]
        exact .remove _ _
      · rw [Function.update_of_ne same]
        exact ih
  | @grant _ _ recipient resource before fresh _ _ ih =>
      by_cases same : owner = recipient
      · subst same
        rw [Function.update_self, before.untouched fresh]
        exact .add _ _
      · rw [Function.update_of_ne same]
        exact ih

/-- A resource that its owner has given up is free. -/
theorem Exclusive.released (exclusive : Exclusive stock owned) {owner : ι} {resource : α}
    (member : resource ∈ owned owner) :
    resource ∈ stock ∧
      ∀ other, resource ∉ Function.update owned owner (owned owner \ {resource}) other := by
  refine ⟨exclusive.within member, ?_⟩
  intro other held
  obtain ⟨before, away⟩ := mem_update_diff.mp held
  exact away (exclusive.apart before member) rfl

end CSwitch.Library
