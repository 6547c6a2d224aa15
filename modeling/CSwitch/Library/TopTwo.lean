import Mathlib

/-! The best element of a list and the key of the next best, kept in one pass. An
element that ties with the best takes its place, so which one is kept depends on the
order unless it is strictly ahead; the two keys never do. -/

set_option autoImplicit false

namespace CSwitch.Library

variable {α β : Type} [LinearOrder β] [OrderBot β]

def largest (values : List β) : β := values.foldr max ⊥

/-- The largest value that is left without one occurrence of the largest. -/
def secondLargest (values : List β) : β := largest (values.erase (largest values))

section Largest

variable {values other : List β} {value bound : β}

@[simp] theorem largest_nil : largest ([] : List β) = ⊥ := rfl

@[simp] theorem largest_cons (value : β) (values : List β) :
    largest (value :: values) = max value (largest values) := rfl

theorem largest_perm (perm : values.Perm other) : largest values = largest other := by
  induction perm with
  | nil => rfl
  | cons value _ ih => rw [largest_cons, largest_cons, ih]
  | swap first second values => exact max_left_comm second first (largest values)
  | trans _ _ first second => exact first.trans second

theorem secondLargest_perm (perm : values.Perm other) :
    secondLargest values = secondLargest other := by
  unfold secondLargest
  rw [largest_perm perm]
  exact largest_perm (perm.erase (largest other))

theorem le_largest (member : value ∈ values) : value ≤ largest values := by
  induction values with
  | nil => cases member
  | cons head rest ih =>
      cases member with
      | head => exact le_max_left _ _
      | tail _ later => exact (ih later).trans (le_max_right _ _)

theorem largest_le (below : ∀ value ∈ values, value ≤ bound) : largest values ≤ bound := by
  induction values with
  | nil => exact bot_le
  | cons head rest ih =>
      exact max_le (below head List.mem_cons_self)
        (ih fun value later => below value (List.mem_cons_of_mem head later))

theorem largest_cons_of_le (below : ∀ other ∈ values, other ≤ value) :
    largest (value :: values) = value :=
  max_eq_left (largest_le below)

theorem secondLargest_cons_of_le (below : ∀ other ∈ values, other ≤ value) :
    secondLargest (value :: values) = largest values := by
  unfold secondLargest
  rw [largest_cons_of_le below, List.erase_cons_head]

end Largest

structure TopTwo (α β : Type) where
  best : Option α
  second : β

variable (key : α → β)

def TopTwo.keep (top : TopTwo α β) (element : α) : TopTwo α β :=
  match top.best with
  | none => { top with best := some element }
  | some best =>
      if key element ≥ key best then { best := some element, second := key best }
      else if key element > top.second then { top with second := key element }
      else top

def topTwo (elements : List α) : TopTwo α β :=
  elements.foldl (TopTwo.keep key) { best := none, second := ⊥ }

/-- The elements are the leader and the rest, none of which is ahead of it. -/
structure Leads (elements : List α) (leader : α) (rest : List α) : Prop where
  perm : elements.Perm (leader :: rest)
  ahead : ∀ other ∈ rest, key other ≤ key leader

section TopTwo

variable {key} {elements rest : List α} {leader : α}

omit [OrderBot β] in
theorem Leads.mem (leads : Leads key elements leader rest) : leader ∈ elements :=
  leads.perm.mem_iff.mpr List.mem_cons_self

omit [OrderBot β] in
theorem Leads.keys (leads : Leads key elements leader rest) :
    ∀ value ∈ rest.map key, value ≤ key leader := by
  intro value member
  obtain ⟨other, listed, rfl⟩ := List.mem_map.mp member
  exact leads.ahead other listed

theorem Leads.largest (leads : Leads key elements leader rest) :
    Library.largest (elements.map key) = key leader :=
  (largest_perm (leads.perm.map key)).trans (largest_cons_of_le leads.keys)

theorem Leads.secondLargest (leads : Leads key elements leader rest) :
    Library.secondLargest (elements.map key) = Library.largest (rest.map key) :=
  (secondLargest_perm (leads.perm.map key)).trans (secondLargest_cons_of_le leads.keys)

/-- A leader that is strictly ahead is the only one. -/
theorem Leads.unique {other : α} {others : List α} (leads : Leads key elements leader rest)
    (strict : Library.secondLargest (elements.map key) < Library.largest (elements.map key))
    (otherLeads : Leads key elements other others) : other = leader := by
  cases List.mem_cons.mp (leads.perm.mem_iff.mp otherLeads.mem) with
  | inl same => exact same
  | inr listed =>
      have behind := le_largest (List.mem_map_of_mem (f := key) listed)
      rw [← leads.secondLargest, ← otherLeads.largest] at behind
      exact absurd strict behind.not_gt

/-- One more element: it leads, or the leader stays. -/
theorem Leads.keep (leads : Leads key elements leader rest) (element : α) :
    ∃ kept others,
      TopTwo.keep key { best := some leader, second := Library.largest (rest.map key) } element =
          { best := some kept, second := Library.largest (others.map key) } ∧
        Leads key (elements ++ [element]) kept others := by
  have added : (elements ++ [element]).Perm (element :: leader :: rest) :=
    (List.perm_append_singleton element elements).trans (leads.perm.cons element)
  unfold TopTwo.keep
  dsimp only
  by_cases leader_le : key leader ≤ key element
  · refine ⟨element, leader :: rest, ?_, added, ?_⟩
    · rw [if_pos leader_le, List.map_cons, largest_cons_of_le leads.keys]
    · intro other member
      cases member with
      | head => exact leader_le
      | tail _ later => exact (leads.ahead other later).trans leader_le
  · refine ⟨leader, element :: rest, ?_, added.trans (.swap leader element rest), ?_⟩
    · rw [if_neg leader_le, List.map_cons, largest_cons]
      split
      · next above => rw [max_eq_left above.le]
      · next below => rw [max_eq_right (not_lt.mp below)]
    · intro other member
      cases member with
      | head => exact (not_le.mp leader_le).le
      | tail _ later => exact leads.ahead other later

variable (key) in
/-- What one pass keeps: a leader, and the key of the best of the rest. -/
theorem topTwo_spec (nonempty : elements ≠ []) :
    ∃ leader rest, Leads key elements leader rest ∧
      topTwo key elements = { best := some leader, second := Library.largest (rest.map key) } := by
  induction elements using List.reverseRecOn with
  | nil => exact absurd rfl nonempty
  | append_singleton before element ih =>
      unfold topTwo at ih ⊢
      rw [List.foldl_append]
      by_cases first : before = []
      · subst first
        refine ⟨element, [], ⟨.refl _, fun other member => ?_⟩, rfl⟩
        cases member
      · obtain ⟨leader, rest, leads, kept⟩ := ih first
        obtain ⟨next, others, step, nextLeads⟩ := leads.keep element
        exact ⟨next, others, nextLeads, kept ▸ step⟩

end TopTwo

end CSwitch.Library
