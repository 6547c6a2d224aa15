import Mathlib

/-! A table of lists kept beside a map from keys to slots: slot by slot the list
holds, once each, the keys that the map sends there. -/

set_option autoImplicit false

namespace CSwitch.Library

variable {κ : Type}

structure InverseIndex (slots : List (List κ)) (slotOf : κ → Option Nat) : Prop where
  distinct : ∀ {slot : Nat} {keys : List κ}, slots[slot]? = some keys → keys.Nodup
  listed : ∀ {slot : Nat} {keys : List κ} {key : κ}, slots[slot]? = some keys →
    (key ∈ keys ↔ slotOf key = some slot)

theorem InverseIndex.empty (count : Nat) :
    InverseIndex (List.replicate count ([] : List κ)) fun _ => none := by
  constructor
  · intro slot keys found
    obtain rfl := List.eq_of_mem_replicate (List.mem_of_getElem? found)
    exact List.nodup_nil
  · intro slot keys key found
    obtain rfl := List.eq_of_mem_replicate (List.mem_of_getElem? found)
    simp

variable {slots : List (List κ)} {slotOf : κ → Option Nat}

theorem InverseIndex.congr {other : κ → Option Nat} (index : InverseIndex slots slotOf)
    (same : ∀ key, other key = slotOf key) : InverseIndex slots other := by
  rwa [funext same]

private theorem modified_cases {slot place : Nat} {update : List κ → List κ} {keys : List κ}
    (found : (slots.modify place update)[slot]? = some keys) :
    (place = slot ∧ ∃ before, slots[slot]? = some before ∧ keys = update before) ∨
      (place ≠ slot ∧ slots[slot]? = some keys) := by
  by_cases here : place = slot
  · subst here
    rw [List.getElem?_modify_eq] at found
    obtain ⟨before, lookup, rfl⟩ := Option.map_eq_some_iff.mp found
    exact .inl ⟨rfl, before, lookup, rfl⟩
  · rw [List.getElem?_modify_ne _ _ here] at found
    exact .inr ⟨here, found⟩

variable {key : κ}

/-- No key is on two lists. -/
theorem InverseIndex.apart {left right : Nat} {leftKeys rightKeys : List κ}
    (index : InverseIndex slots slotOf) (leftFound : slots[left]? = some leftKeys)
    (rightFound : slots[right]? = some rightKeys) (onLeft : key ∈ leftKeys)
    (onRight : key ∈ rightKeys) : left = right :=
  Option.some.inj (((index.listed leftFound).mp onLeft).symm.trans
    ((index.listed rightFound).mp onRight))

theorem InverseIndex.mem_flatten (index : InverseIndex slots slotOf) :
    key ∈ slots.flatten ↔ ∃ slot < slots.length, slotOf key = some slot := by
  constructor
  · intro member
    obtain ⟨keys, listed, here⟩ := List.mem_flatten.mp member
    obtain ⟨slot, found⟩ := List.mem_iff_getElem?.mp listed
    exact ⟨slot, (List.getElem?_eq_some_iff.mp found).1, (index.listed found).mp here⟩
  · rintro ⟨slot, bound, held⟩
    have found := List.getElem?_eq_getElem bound
    exact List.mem_flatten.mpr ⟨_, List.getElem_mem bound, (index.listed found).mpr held⟩

theorem InverseIndex.nodup_flatten (index : InverseIndex slots slotOf) : slots.flatten.Nodup := by
  rw [List.nodup_flatten]
  constructor
  · intro keys listed
    obtain ⟨slot, found⟩ := List.mem_iff_getElem?.mp listed
    exact index.distinct found
  · rw [List.pairwise_iff_getElem]
    intro left right leftBound rightBound before key onLeft onRight
    have same := index.apart (List.getElem?_eq_getElem leftBound)
      (List.getElem?_eq_getElem rightBound) onLeft onRight
    omega

variable [DecidableEq κ]

/-- A key leaves: it is taken off the only list that can hold it. The list may be
cut in any way that leaves the other keys. -/
theorem InverseIndex.leave {source : Nat} {remove : List κ → List κ}
    (index : InverseIndex slots slotOf)
    (removes : ∀ keys, keys.Nodup → (remove keys).Perm (keys.erase key))
    (only : ∀ slot, slotOf key = some slot → slot = source) :
    InverseIndex (slots.modify source remove) (Function.update slotOf key none) := by
  have member : ∀ {slot : Nat} {keys : List κ} {other : κ}, slots[slot]? = some keys →
      other ≠ key → (other ∈ keys ↔ Function.update slotOf key none other = some slot) := by
    intro slot keys other found different
    rw [Function.update_of_ne different]
    exact index.listed found
  constructor
  · intro slot keys found
    rcases modified_cases found with ⟨_, before, lookup, rfl⟩ | ⟨_, lookup⟩
    · have nodup := index.distinct lookup
      exact (removes before nodup).nodup_iff.mpr (nodup.erase key)
    · exact index.distinct lookup
  · intro slot keys other found
    rcases modified_cases found with ⟨_, before, lookup, rfl⟩ | ⟨elsewhere, lookup⟩
    · have nodup := index.distinct lookup
      rw [(removes before nodup).mem_iff, nodup.mem_erase_iff]
      by_cases same : other = key
      · simp [same]
      · rw [member lookup same]
        exact and_iff_right same
    · by_cases same : other = key
      · subst same
        rw [index.listed lookup, Function.update_self]
        exact iff_of_false (fun held => elsewhere (only slot held).symm)
          (Option.some_ne_none slot).symm
      · exact member lookup same

/-- A key that is nowhere enters a slot; outside the table it is only recorded. -/
theorem InverseIndex.enter {target : Nat} {insert : List κ → List κ}
    (index : InverseIndex slots slotOf) (nowhere : slotOf key = none)
    (inserts : ∀ keys, key ∉ keys → (insert keys).Perm (key :: keys)) :
    InverseIndex (slots.modify target insert) (Function.update slotOf key (some target)) := by
  have absent : ∀ {slot : Nat} {keys : List κ}, slots[slot]? = some keys → key ∉ keys := by
    intro slot keys found member
    have held := (index.listed found).mp member
    rw [nowhere] at held
    cases held
  constructor
  · intro slot keys found
    rcases modified_cases found with ⟨_, before, lookup, rfl⟩ | ⟨_, lookup⟩
    · rw [(inserts before (absent lookup)).nodup_iff]
      exact List.nodup_cons.mpr ⟨absent lookup, index.distinct lookup⟩
    · exact index.distinct lookup
  · intro slot keys other found
    by_cases same : other = key
    · subst same
      rw [Function.update_self]
      rcases modified_cases found with ⟨rfl, before, lookup, rfl⟩ | ⟨elsewhere, lookup⟩
      · rw [(inserts before (absent lookup)).mem_iff]
        simp
      · exact iff_of_false (absent lookup) fun equal => elsewhere (Option.some.inj equal)
    · rw [Function.update_of_ne same]
      rcases modified_cases found with ⟨_, before, lookup, rfl⟩ | ⟨_, lookup⟩
      · rw [(inserts before (absent lookup)).mem_iff, List.mem_cons, or_iff_right same]
        exact index.listed lookup
      · exact index.listed lookup

/-- The lists together are as long as there are keys sent into the table. -/
theorem InverseIndex.sum_length (keys : List κ) (index : InverseIndex slots slotOf)
    (once : keys.Nodup) (all : ∀ {key : κ} {slot : Nat}, slotOf key = some slot → key ∈ keys) :
    (slots.map List.length).sum =
      keys.countP fun key => decide (∃ slot < slots.length, slotOf key = some slot) := by
  rw [← List.length_flatten, List.countP_eq_length_filter]
  refine (List.perm_of_nodup_nodup_toFinset_eq index.nodup_flatten (once.filter _) ?_).length_eq
  ext key
  rw [List.mem_toFinset, List.mem_toFinset, index.mem_flatten, List.mem_filter, decide_eq_true_eq]
  exact (and_iff_right_of_imp fun ⟨_, _, held⟩ => all held).symm

end CSwitch.Library
