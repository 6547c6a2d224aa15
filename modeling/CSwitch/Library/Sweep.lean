import Mathlib

/-! One pass over the slots of a table. Every slot is updated once, in order,
and hands a carried value on to the next one; what it reports is collected. -/

set_option autoImplicit false

namespace CSwitch.Library

variable {σ κ ω : Type}

/-- What the visit of one slot leaves behind. -/
structure Visit (σ κ ω : Type) where
  slot : σ
  carry : κ
  output : ω

structure Sweep (σ κ ω : Type) where
  slots : List σ
  carry : κ
  outputs : List ω

variable (visit : Nat → σ → κ → Visit σ κ ω)

def Sweep.advance (state : Sweep σ κ ω) (index : Nat) : Sweep σ κ ω :=
  match state.slots[index]? with
  | none => state
  | some slot =>
      let result := visit index slot state.carry
      { slots := state.slots.set index result.slot
        carry := result.carry
        outputs := state.outputs ++ [result.output] }

/-- The pass over the first slots. -/
def sweep (slots : List σ) (carry : κ) (count : Nat) : Sweep σ κ ω :=
  (List.range count).foldl (Sweep.advance visit) { slots, carry, outputs := [] }

variable {slots : List σ} {carry : κ} {count index : Nat} {slot : σ}

theorem sweep_succ (slots : List σ) (carry : κ) (count : Nat) :
    sweep visit slots carry (count + 1) = (sweep visit slots carry count).advance visit count := by
  simp [sweep, List.range_succ]

/-- Slots that the pass has not reached are as they were. -/
theorem sweep_slots_of_le (unreached : count ≤ index) :
    (sweep visit slots carry count).slots[index]? = slots[index]? := by
  induction count with
  | zero => rfl
  | succ count ih =>
      rw [sweep_succ, Sweep.advance]
      split
      · exact ih (by omega)
      · rw [List.getElem?_set_ne (by omega)]
        exact ih (by omega)

@[simp] theorem sweep_slots_length :
    (sweep visit slots carry count).slots.length = slots.length := by
  induction count with
  | zero => rfl
  | succ count ih =>
      rw [sweep_succ, Sweep.advance]
      split
      · exact ih
      · rw [List.length_set]
        exact ih

/-- The step of the pass at a slot of the table. -/
theorem sweep_succ_of_some (found : slots[count]? = some slot) :
    sweep visit slots carry (count + 1) =
      { slots := (sweep visit slots carry count).slots.set count
          (visit count slot (sweep visit slots carry count).carry).slot
        carry := (visit count slot (sweep visit slots carry count).carry).carry
        outputs := (sweep visit slots carry count).outputs ++
          [(visit count slot (sweep visit slots carry count).carry).output] } := by
  rw [sweep_succ, Sweep.advance, sweep_slots_of_le visit (Nat.le_refl _), found]

theorem sweep_outputs_length (carry : κ) (within : count ≤ slots.length) :
    (sweep visit slots carry count).outputs.length = count := by
  induction count with
  | zero => rfl
  | succ count ih =>
      rw [sweep_succ_of_some visit (List.getElem?_eq_getElem within), List.length_append,
        ih (by omega), List.length_singleton]

/-- A visited slot holds what its own visit left, and its report is in place. -/
theorem sweep_visited (carry : κ) (within : count ≤ slots.length) (visited : index < count)
    (found : slots[index]? = some slot) :
    (sweep visit slots carry count).slots[index]? =
        some (visit index slot (sweep visit slots carry index).carry).slot ∧
      (sweep visit slots carry count).outputs[index]? =
        some (visit index slot (sweep visit slots carry index).carry).output := by
  induction count with
  | zero => omega
  | succ count ih =>
      have length := sweep_outputs_length visit carry ((Nat.le_succ _).trans within)
      rw [sweep_succ_of_some visit (List.getElem?_eq_getElem within)]
      dsimp only
      by_cases last : index = count
      · subst last
        obtain ⟨_, rfl⟩ := List.getElem?_eq_some_iff.mp found
        constructor
        · rw [List.getElem?_set_self (by rw [sweep_slots_length]; exact within)]
        · rw [List.getElem?_append_right length.le, length, Nat.sub_self]
          rfl
      · obtain ⟨kept, reported⟩ := ih (by omega) (by omega)
        constructor
        · rw [List.getElem?_set_ne (by omega)]
          exact kept
        · rw [List.getElem?_append_left (by omega)]
          exact reported

section Tagged

variable {ε : Type} (events : ω → List ε) (tag : ε → Nat)
  (tagged : ∀ index slot carry, ∀ event ∈ events (visit index slot carry).output,
    tag event = index)

include tagged

/-- A visit reports nothing for the other slots. -/
theorem visit_events_filter_of_ne {other : Nat} (apart : index ≠ other) (slot : σ) (carry : κ) :
    (events (visit other slot carry).output).filter (tag · = index) = [] := by
  refine List.filter_eq_nil_iff.mpr ?_
  intro event member same
  exact apart ((of_decide_eq_true same).symm.trans (tagged _ _ _ event member))

theorem sweep_events_filter_of_le (within : count ≤ slots.length) (unreached : count ≤ index) :
    ((sweep visit slots carry count).outputs.flatMap events).filter (tag · = index) = [] := by
  induction count with
  | zero => rfl
  | succ count ih =>
      rw [sweep_succ_of_some visit (List.getElem?_eq_getElem within), List.flatMap_append,
        List.filter_append, ih (by omega) (by omega), List.flatMap_singleton, List.nil_append,
        visit_events_filter_of_ne visit events tag tagged (by omega)]

/-- The events that a pass reports for one slot, when every visit tags its own. -/
theorem sweep_events_filter (within : count ≤ slots.length) (found : slots[index]? = some slot) :
    ((sweep visit slots carry count).outputs.flatMap events).filter (tag · = index) =
      if index < count then
        events (visit index slot (sweep visit slots carry index).carry).output
      else [] := by
  induction count with
  | zero => simp [sweep]
  | succ count ih =>
      have here := List.getElem?_eq_getElem within
      rw [sweep_succ_of_some visit here, List.flatMap_append, List.filter_append,
        ih (by omega), List.flatMap_singleton]
      by_cases last : index = count
      · subst last
        obtain rfl := Option.some.inj (here.symm.trans found)
        rw [if_neg (Nat.lt_irrefl _), if_pos (Nat.lt_succ_self _), List.nil_append]
        exact List.filter_eq_self.mpr fun event member =>
          decide_eq_true (tagged _ _ _ event member)
      · rw [visit_events_filter_of_ne visit events tag tagged last, List.append_nil]
        exact if_congr (by omega) rfl rfl

end Tagged

end CSwitch.Library
