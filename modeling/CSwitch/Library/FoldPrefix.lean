import Mathlib

/-! An invariant rule for folds that may speak about the elements already
folded, and rules for searches. -/

set_option autoImplicit false

namespace CSwitch.Library

variable {α β : Type}

/-- What holds at the start and is kept by every step holds at the end; a step
knows which elements came before its own. -/
theorem foldl_prefix_invariant (invariant : List α → β → Prop) {step : β → α → β}
    {elements : List α} {start : β} (initial : invariant [] start)
    (kept : ∀ done element rest state, elements = done ++ element :: rest →
      invariant done state → invariant (done ++ [element]) (step state element)) :
    invariant elements (elements.foldl step start) := by
  have running : ∀ (rest done : List α) (state : β), elements = done ++ rest →
      invariant done state → invariant elements (rest.foldl step state) := by
    intro rest
    induction rest with
    | nil =>
        intro done state split holds
        rw [List.append_nil] at split
        rw [split]
        exact holds
    | cons element rest ih =>
        intro done state split holds
        refine ih (done ++ [element]) _ ?_ (kept done element rest state split holds)
        rw [List.append_assoc]
        exact split
  exact running elements [] start rfl initial

/-- A fold that can stop either runs through or stops at an element; what the
successful steps keep holds of the elements folded until then. -/
theorem foldlM_prefix_cases {ε : Type} (invariant : List α → β → Prop)
    {step : β → α → Except ε β} {elements : List α} {start : β} (initial : invariant [] start)
    (kept : ∀ done element rest state next, elements = done ++ element :: rest →
      invariant done state → step state element = .ok next →
        invariant (done ++ [element]) next) :
    (∃ final, elements.foldlM step start = .ok final ∧ invariant elements final) ∨
      ∃ done element rest state stopped, elements = done ++ element :: rest ∧
        invariant done state ∧ step state element = .error stopped ∧
        elements.foldlM step start = .error stopped := by
  have running : ∀ (rest done : List α) (state : β), elements = done ++ rest →
      invariant done state →
      (∃ final, rest.foldlM step state = .ok final ∧ invariant elements final) ∨
        ∃ before element after reached stopped, elements = before ++ element :: after ∧
          invariant before reached ∧ step reached element = .error stopped ∧
          rest.foldlM step state = .error stopped := by
    intro rest
    induction rest with
    | nil =>
        intro done state split holds
        rw [List.append_nil] at split
        exact .inl ⟨state, rfl, split ▸ holds⟩
    | cons element rest ih =>
        intro done state split holds
        rw [List.foldlM_cons]
        cases result : step state element with
        | error stopped => exact .inr ⟨done, element, rest, state, stopped, split, holds, result, rfl⟩
        | ok next =>
            apply ih (done ++ [element]) next
            · rw [List.append_assoc]
              exact split
            · exact kept done element rest state next split holds result
  exact running elements [] start rfl initial

/-- The numbers before one, where a list of all of them is split at it. -/
theorem mem_before_iff {count : Nat} {done rest : List (Fin count)} {element : Fin count}
    (split : List.finRange count = done ++ element :: rest) (idx : Fin count) :
    idx ∈ done ↔ idx < element := by
  have ordered := List.pairwise_lt_finRange count
  rw [split, List.pairwise_append, List.pairwise_cons] at ordered
  constructor
  · intro member
    exact ordered.2.2 idx member element List.mem_cons_self
  · intro less
    have listed : idx ∈ done ++ element :: rest := split ▸ List.mem_finRange idx
    rcases List.mem_append.mp listed with member | later
    · exact member
    · rcases List.mem_cons.mp later with rfl | later
      · exact absurd less (lt_irrefl _)
      · exact absurd (ordered.2.1.1 idx later) (lt_asymm less)

/-- A list split at an element is split at its last or before it. -/
theorem append_singleton_split {done before after : List α} {last element : α}
    (split : done ++ [last] = before ++ element :: after) :
    (before = done ∧ element = last) ∨ ∃ rest, done = before ++ element :: rest := by
  rcases List.eq_nil_or_concat after with rfl | ⟨rest, other, rfl⟩
  · obtain ⟨earlier, same⟩ := List.append_inj' split rfl
    exact .inl ⟨earlier.symm, (List.cons.inj same).1.symm⟩
  · rw [List.concat_eq_append, ← List.cons_append, ← List.append_assoc] at split
    exact .inr ⟨rest, (List.append_inj' split rfl).1⟩

/-- The number at which the numbers from zero are split counts those before it. -/
theorem range_split {length place : Nat} {done rest : List Nat}
    (split : List.range length = done ++ place :: rest) :
    place = done.length ∧ done.length < length := by
  have lengths := congrArg List.length split
  rw [List.length_range, List.length_append, List.length_cons] at lengths
  have within : done.length < length := by omega
  have own : (List.range length)[done.length]? = some place := by simp [split]
  rw [List.getElem?_range within] at own
  exact ⟨(Option.some.inj own).symm, within⟩

/-- An invariant holds all along a run whose steps are all allowed, where the
allowed steps keep it. -/
theorem foldl_prefixes_invariant (invariant : β → Prop) (allowed : β → α → Prop)
    {step : β → α → β} {start : β} {elements : List α} (initial : invariant start)
    (kept : ∀ done element, done ++ [element] <+: elements → invariant (done.foldl step start) →
      allowed (done.foldl step start) element → invariant (step (done.foldl step start) element))
    (fine : ∀ done element, done ++ [element] <+: elements →
      allowed (done.foldl step start) element) :
    ∀ done, done <+: elements → invariant (done.foldl step start) := by
  intro done
  induction done using List.reverseRecOn with
  | nil =>
      intro _
      exact initial
  | append_singleton done element ih =>
      intro reached
      have before := ih ((List.prefix_append done [element]).trans reached)
      rw [List.foldl_append]
      exact kept done element reached before (fine done element reached)

/-- An invariant that the steps of a run keep exactly when they are allowed holds
all along the run exactly when all of them are allowed. -/
theorem foldl_prefixes_iff {invariant : β → Prop} {allowed : β → α → Prop} {step : β → α → β}
    {start : β} {elements : List α} (initial : invariant start)
    (kept : ∀ done element, done ++ [element] <+: elements → invariant (done.foldl step start) →
      (invariant (step (done.foldl step start) element) ↔
        allowed (done.foldl step start) element)) :
    (∀ done, done <+: elements → invariant (done.foldl step start)) ↔
      ∀ done element, done ++ [element] <+: elements →
        allowed (done.foldl step start) element := by
  constructor
  · intro holds done element reached
    have before := holds done ((List.prefix_append done [element]).trans reached)
    have after := holds (done ++ [element]) reached
    rw [List.foldl_append] at after
    exact (kept done element reached before).mp after
  · exact foldl_prefixes_invariant invariant allowed initial fun done element reached before =>
      (kept done element reached before).mpr

/-- The steps of a run of two. -/
theorem forall_snoc_prefix_pair {property : List α → α → Prop} {first second : α}
    (one : property [] first) (two : property [first] second) (done : List α) (element : α)
    (reached : done ++ [element] <+: [first, second]) : property done element := by
  obtain ⟨rest, split⟩ := reached
  cases done with
  | nil =>
      obtain ⟨rfl, _⟩ := List.cons.inj split
      exact one
  | cons earlier done =>
      obtain ⟨rfl, tail⟩ := List.cons.inj split
      cases done with
      | nil =>
          obtain ⟨rfl, _⟩ := List.cons.inj tail
          exact two
      | cons later done =>
          have impossible := (List.cons.inj tail).2
          simp at impossible

/-- A fold that never loses what it has found finds nothing exactly when no
element is a find by itself. -/
theorem foldl_eq_none_iff {step : Option β → α → Option β} {elements : List α}
    (each : ∀ best element, step best element = none ↔ best = none ∧ step none element = none)
    (best : Option β) :
    elements.foldl step best = none ↔
      best = none ∧ ∀ element ∈ elements, step none element = none := by
  induction elements generalizing best with
  | nil => simp
  | cons element rest ih =>
      rw [List.foldl_cons, ih, each best element, List.forall_mem_cons, and_assoc]

theorem findSome?_congr {find other : α → Option β} {elements : List α}
    (same : ∀ element ∈ elements, find element = other element) :
    elements.findSome? find = elements.findSome? other := by
  induction elements with
  | nil => rfl
  | cons element rest ih =>
      rw [List.findSome?_cons, List.findSome?_cons, same element List.mem_cons_self,
        ih fun later member => same later (List.mem_cons_of_mem element member)]

/-- A search through the first indices stops at the least one with an answer. -/
theorem findSome?_range_iff {find : Nat → Option β} {length : Nat} {answer : β} :
    (List.range length).findSome? find = some answer ↔
      ∃ index < length, find index = some answer ∧ ∀ earlier < index, find earlier = none := by
  induction length with
  | zero => simp
  | succ length ih =>
      rw [List.range_succ, List.findSome?_append, Option.or_eq_some_iff, ih,
        List.findSome?_eq_none_iff, List.findSome?_singleton]
      constructor
      · rintro (⟨index, bound, found, first⟩ | ⟨missing, found⟩)
        · exact ⟨index, Nat.lt_succ_of_lt bound, found, first⟩
        · exact ⟨length, Nat.lt_succ_self length, found,
            fun earlier before => missing earlier (List.mem_range.mpr before)⟩
      · rintro ⟨index, bound, found, first⟩
        rcases Nat.lt_succ_iff_lt_or_eq.mp bound with before | rfl
        · exact .inl ⟨index, before, found, first⟩
        · exact .inr ⟨fun earlier member => first earlier (List.mem_range.mp member), found⟩

end CSwitch.Library
