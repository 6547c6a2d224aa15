import Mathlib

/-! Queues with a bounded counter beside each. Items come and go with or without
their count, and the results say when the counters still tell the lengths. -/

set_option autoImplicit false

namespace CSwitch.Library

structure CountedQueues (κ α : Type) where
  queues : κ → List α
  counts : κ → Nat

namespace CountedQueues

variable {κ α : Type} {tracked : Set κ}

def empty : CountedQueues κ α := ⟨fun _ => [], fun _ => 0⟩

/-- The counter of every tracked queue is its length. -/
def Truthful (tracked : Set κ) (bank : CountedQueues κ α) : Prop :=
  ∀ key ∈ tracked, bank.counts key = (bank.queues key).length

theorem truthful_empty : (empty : CountedQueues κ α).Truthful tracked := by
  intro key _
  rfl

variable [DecidableEq κ]

def insert (bank : CountedQueues κ α) (key : κ) (item : α) : CountedQueues κ α :=
  { bank with queues := Function.update bank.queues key (bank.queues key ++ [item]) }

/-- Takes the first item, if there is one. -/
def pop (bank : CountedQueues κ α) (key : κ) : Bool × CountedQueues κ α :=
  match bank.queues key with
  | [] => (false, bank)
  | _ :: rest => (true, { bank with queues := Function.update bank.queues key rest })

/-- The counter wraps at `modulus`. -/
def countUp (modulus : Nat) (bank : CountedQueues κ α) (key : κ) : CountedQueues κ α :=
  { bank with counts := Function.update bank.counts key ((bank.counts key + 1) % modulus) }

/-- The counter stops at zero. -/
def countDown (bank : CountedQueues κ α) (key : κ) : CountedQueues κ α :=
  { bank with counts := Function.update bank.counts key (bank.counts key - 1) }

variable {bank : CountedQueues κ α} {key : κ} {item : α}

/-- An item inserted without its count is missed exactly in a tracked queue. -/
theorem truthful_insert_iff (held : bank.Truthful tracked) :
    (bank.insert key item).Truthful tracked ↔ key ∉ tracked := by
  constructor
  · intro told member
    have longer := told key member
    simp only [insert, Function.update_self, List.length_append, List.length_singleton] at longer
    have before := held key member
    omega
  · intro foreign other member
    have apart : other ≠ key := by
      rintro rfl
      exact foreign member
    simp only [insert, Function.update_of_ne apart]
    exact held other member

/-- An item inserted with its count is told unless the counter wraps. -/
theorem truthful_countUp_insert_iff {modulus : Nat} (held : bank.Truthful tracked)
    (positive : modulus ≠ 0) :
    ((bank.insert key item).countUp modulus key).Truthful tracked ↔
      (key ∈ tracked → (bank.queues key).length + 1 < modulus) := by
  constructor
  · intro told member
    have wrapped := told key member
    simp only [insert, countUp, Function.update_self, List.length_append,
      List.length_singleton] at wrapped
    rw [held key member] at wrapped
    exact (Nat.mod_eq_iff_lt positive).mp wrapped
  · intro room other member
    by_cases same : other = key
    · obtain rfl := same
      simp only [insert, countUp, Function.update_self, List.length_append, List.length_singleton]
      rw [held other member]
      exact Nat.mod_eq_of_lt (room member)
    · simp only [insert, countUp, Function.update_of_ne same]
      exact held other member

theorem pop_cases (bank : CountedQueues κ α) (key : κ) :
    bank.queues key = [] ∧ bank.pop key = (false, bank) ∨
      ∃ first rest, bank.queues key = first :: rest ∧
        bank.pop key = (true, { bank with queues := Function.update bank.queues key rest }) := by
  cases queue : bank.queues key with
  | nil => exact .inl ⟨rfl, by rw [pop, queue]⟩
  | cons first rest => exact .inr ⟨first, rest, rfl, by rw [pop, queue]⟩

theorem truthful_pop_of_notMem (held : bank.Truthful tracked) (foreign : key ∉ tracked) :
    (bank.pop key).2.Truthful tracked := by
  rcases pop_cases bank key with ⟨_, popped⟩ | ⟨_, rest, _, popped⟩
  · rw [popped]
    exact held
  · intro other member
    have apart : other ≠ key := by
      rintro rfl
      exact foreign member
    simp only [popped, Function.update_of_ne apart]
    exact held other member

/-- An item that leaves with its count. -/
theorem truthful_countDown_pop (held : bank.Truthful tracked) (found : (bank.pop key).1 = true) :
    ((bank.pop key).2.countDown key).Truthful tracked := by
  rcases pop_cases bank key with ⟨_, popped⟩ | ⟨first, rest, queue, popped⟩
  · rw [popped] at found
    cases found
  · intro other member
    by_cases same : other = key
    · obtain rfl := same
      simp only [popped, countDown, Function.update_self]
      rw [held other member, queue, List.length_cons, Nat.add_sub_cancel]
    · simp only [popped, countDown, Function.update_of_ne same]
      exact held other member

end CountedQueues

end CSwitch.Library
