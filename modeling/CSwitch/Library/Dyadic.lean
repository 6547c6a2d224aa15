import Mathlib

/-! Dyadic blocks. The block of level `k` and index `i` is the `2 ^ k` units from
unit `i * 2 ^ k`; of two blocks one lies in the other, or they share no unit. -/

set_option autoImplicit false

namespace CSwitch.Library

@[ext] structure Block where
  level : Nat
  index : Nat
deriving DecidableEq

namespace Block

def first (block : Block) : Nat := block.index * 2 ^ block.level

def stop (block : Block) : Nat := (block.index + 1) * 2 ^ block.level

theorem stop_eq (block : Block) : block.stop = block.first + 2 ^ block.level :=
  Nat.add_one_mul _ _

theorem first_lt_stop (block : Block) : block.first < block.stop := by
  rw [stop_eq]
  exact Nat.lt_add_of_pos_right (Nat.two_pow_pos _)

/-- The block of a level that a unit lies in. -/
def ofUnit (level unit : Nat) : Block := ⟨level, unit / 2 ^ level⟩

@[simp] theorem ofUnit_level (level unit : Nat) : (ofUnit level unit).level = level := rfl

@[simp] theorem ofUnit_first (block : Block) : ofUnit block.level block.first = block := by
  unfold ofUnit first
  rw [Nat.mul_div_cancel _ (Nat.two_pow_pos _)]

theorem ofUnit_eq_iff {block : Block} {unit : Nat} :
    ofUnit block.level unit = block ↔ block.first ≤ unit ∧ unit < block.stop := by
  have index : ofUnit block.level unit = block ↔ unit / 2 ^ block.level = block.index := by
    constructor
    · intro same
      exact congrArg Block.index same
    · intro same
      exact Block.ext rfl same
  rw [index, Nat.div_eq_iff (Nat.two_pow_pos _), stop_eq]
  have positive := Nat.two_pow_pos block.level
  unfold first
  omega

/-- The block of a level that holds the block of a lower one. -/
theorem ofUnit_ofUnit_first {low high : Nat} (order : low ≤ high) (unit : Nat) :
    ofUnit high (ofUnit low unit).first = ofUnit high unit := by
  obtain ⟨extra, rfl⟩ := Nat.exists_eq_add_of_le order
  unfold ofUnit first
  dsimp only
  rw [Nat.pow_add, ← Nat.div_div_eq_div_mul, ← Nat.div_div_eq_div_mul,
    Nat.mul_div_cancel _ (Nat.two_pow_pos _)]

/-! ## Blocks inside blocks -/

instance : LE Block where
  le inner outer := inner.level ≤ outer.level ∧ ofUnit outer.level inner.first = outer

theorem le_def {inner outer : Block} :
    inner ≤ outer ↔ inner.level ≤ outer.level ∧ ofUnit outer.level inner.first = outer :=
  Iff.rfl

theorem ofUnit_le_ofUnit {low high : Nat} (order : low ≤ high) (unit : Nat) :
    ofUnit low unit ≤ ofUnit high unit :=
  ⟨order, ofUnit_ofUnit_first order unit⟩

instance : PartialOrder Block where
  le_refl block := ⟨le_rfl, ofUnit_first block⟩
  le_trans inner middle outer := by
    intro within holds
    refine ⟨within.1.trans holds.1, ?_⟩
    rw [← holds.2, ofUnit_level]
    conv_rhs => rw [← within.2]
    exact (ofUnit_ofUnit_first holds.1 _).symm
  le_antisymm left right := by
    intro within holds
    have level : left.level = right.level := within.1.antisymm holds.1
    rw [← ofUnit_first left, level]
    exact within.2

instance : DecidableLE Block := fun inner outer =>
  inferInstanceAs (Decidable (inner.level ≤ outer.level ∧ ofUnit outer.level inner.first = outer))

section Nesting

variable {inner outer left right : Block}

theorem le_iff :
    inner ≤ outer ↔ inner.level ≤ outer.level ∧ outer.first ≤ inner.first ∧
      inner.first < outer.stop := by
  rw [le_def, ofUnit_eq_iff]

theorem level_lt_of_lt (below : inner < outer) : inner.level < outer.level := by
  have within := below.le
  refine lt_of_le_of_ne within.1 fun level => below.ne ?_
  rw [← within.2, ← level, ofUnit_first]

theorem stop_le_of_le (within : inner ≤ outer) : inner.stop ≤ outer.stop := by
  obtain ⟨order, _, before⟩ := le_iff.mp within
  obtain ⟨extra, levels⟩ := Nat.exists_eq_add_of_le order
  -- both ends are multiples of the inner size
  have outerStop : outer.stop = (outer.index + 1) * 2 ^ extra * 2 ^ inner.level := by
    unfold stop
    rw [levels, Nat.pow_add]
    ring
  unfold first at before
  rw [outerStop] at before ⊢
  unfold stop
  exact Nat.mul_le_mul_right _ (Nat.lt_of_mul_lt_mul_right before)

/-- Two blocks around a third are nested. -/
theorem nested (inLeft : inner ≤ left) (inRight : inner ≤ right) : left ≤ right ∨ right ≤ left := by
  rw [← inLeft.2, ← inRight.2]
  cases le_total left.level right.level with
  | inl order => exact .inl (ofUnit_le_ofUnit order _)
  | inr order => exact .inr (ofUnit_le_ofUnit order _)

/-- Neither block lies in the other. -/
def Apart (left right : Block) : Prop := ¬left ≤ right ∧ ¬right ≤ left

theorem Apart.symm (apart : Apart left right) : Apart right left := ⟨apart.2, apart.1⟩

theorem Apart.ne (apart : Apart left right) : left ≠ right := by
  intro same
  exact apart.1 same.le

theorem Apart.mono (apart : Apart left outer) (within : inner ≤ outer) : Apart left inner := by
  constructor
  · intro below
    exact apart.1 (below.trans within)
  · intro above
    cases nested above within with
    | inl below => exact apart.1 below
    | inr above => exact apart.2 above

/-- Blocks that are not nested share no unit. -/
theorem Apart.disjoint (apart : Apart left right) : left.stop ≤ right.first ∨ right.stop ≤ left.first := by
  by_contra overlap
  push Not at overlap
  have order : ∀ {low high : Block}, low.level ≤ high.level → low.first < high.stop →
      high.first < low.stop → low ≤ high := by
    intro low high levels before after
    refine le_iff.mpr ⟨levels, ?_, before⟩
    -- the unit `high.first` lies in `low` or before it
    by_contra later
    push Not at later
    have within : ofUnit low.level high.first = low := ofUnit_eq_iff.mpr ⟨later.le, after⟩
    have lowest : low.first = high.first := by
      obtain ⟨extra, same⟩ := Nat.exists_eq_add_of_le levels
      have split : high.first = high.index * 2 ^ extra * 2 ^ low.level := by
        unfold first
        rw [same, Nat.pow_add]
        ring
      rw [← within]
      unfold first ofUnit
      dsimp only
      change high.first / 2 ^ low.level * 2 ^ low.level = high.first
      rw [split, Nat.mul_div_cancel _ (Nat.two_pow_pos _)]
    exact later.ne lowest
  cases le_total left.level right.level with
  | inl levels => exact apart.1 (order levels overlap.2 overlap.1)
  | inr levels => exact apart.2 (order levels overlap.1 overlap.2)

theorem apart_iff : Apart left right ↔ left.stop ≤ right.first ∨ right.stop ≤ left.first := by
  refine ⟨Apart.disjoint, fun disjoint => ?_⟩
  have leftStop := left.first_lt_stop
  have rightStop := right.first_lt_stop
  constructor
  · intro within
    obtain ⟨_, behind, before⟩ := le_iff.mp within
    omega
  · intro within
    obtain ⟨_, behind, before⟩ := le_iff.mp within
    omega

end Nesting

/-! ## Parents and buddies -/

def parent (block : Block) : Block := ⟨block.level + 1, block.index / 2⟩

/-- The other half of the parent. -/
def buddy (block : Block) : Block :=
  ⟨block.level, if block.index % 2 = 0 then block.index + 1 else block.index - 1⟩

/-- The first half of a block of positive level. -/
def leftHalf (block : Block) : Block := ⟨block.level - 1, 2 * block.index⟩

section Family

variable {block inner outer : Block}

@[simp] theorem parent_level (block : Block) : block.parent.level = block.level + 1 := rfl

@[simp] theorem buddy_level (block : Block) : block.buddy.level = block.level := rfl

theorem ofUnit_succ (level unit : Nat) : ofUnit (level + 1) unit = (ofUnit level unit).parent := by
  unfold ofUnit parent
  rw [Nat.pow_succ, Nat.div_div_eq_div_mul]

theorem lt_parent (block : Block) : block < block.parent := by
  have within : ofUnit block.level block.first ≤ ofUnit (block.level + 1) block.first :=
    ofUnit_le_ofUnit (Nat.le_succ _) _
  rw [ofUnit_succ, ofUnit_first] at within
  refine lt_of_le_of_ne within fun same => ?_
  have level := congrArg Block.level same
  simp at level

theorem parent_le_of_lt (below : inner < outer) : inner.parent ≤ outer := by
  have order := level_lt_of_lt below
  rw [← below.le.2]
  have within : ofUnit (inner.level + 1) inner.first ≤ ofUnit outer.level inner.first :=
    ofUnit_le_ofUnit order _
  rwa [ofUnit_succ, ofUnit_first] at within

@[simp] theorem buddy_parent (block : Block) : block.buddy.parent = block.parent := by
  refine Block.ext rfl ?_
  unfold buddy parent
  dsimp only
  split <;> omega

theorem buddy_ne (block : Block) : block.buddy ≠ block := by
  intro same
  have index := congrArg Block.index same
  unfold buddy at index
  dsimp only at index
  split at index <;> omega

/-- A parent has two halves. -/
theorem eq_or_eq_buddy (siblings : inner.parent = block.parent) :
    inner = block ∨ inner = block.buddy := by
  have level : inner.level = block.level := Nat.succ.inj (congrArg Block.level siblings)
  have index : inner.index / 2 = block.index / 2 := congrArg Block.index siblings
  by_cases same : inner.index = block.index
  · exact .inl (Block.ext level same)
  · refine .inr (Block.ext level ?_)
    unfold buddy
    dsimp only
    split <;> omega

theorem buddy_apart (block : Block) : Apart block block.buddy := by
  constructor
  · intro within
    exact buddy_ne block (within.eq_of_not_lt fun below => by
      have := level_lt_of_lt below
      simp at this).symm
  · intro within
    exact buddy_ne block (within.eq_of_not_lt fun below => by
      have := level_lt_of_lt below
      simp at this)

/-- What lies in the parent, and is not the parent, lies in one half. -/
theorem le_or_le_buddy (below : inner < block.parent) : inner ≤ block ∨ inner ≤ block.buddy := by
  have levels := level_lt_of_lt below
  have within : inner ≤ ofUnit block.level inner.first := by
    conv_lhs => rw [← ofUnit_first inner]
    exact ofUnit_le_ofUnit (Nat.le_of_lt_succ levels) _
  have siblings : (ofUnit block.level inner.first).parent = block.parent := by
    rw [← ofUnit_succ]
    exact below.le.2
  cases eq_or_eq_buddy siblings with
  | inl same => exact .inl (same ▸ within)
  | inr same => exact .inr (same ▸ within)

/-- The parent starts with its first half. -/
theorem parent_first (block : Block) :
    block.parent.first = if block.index % 2 = 0 then block.first else block.buddy.first := by
  unfold parent buddy first
  dsimp only
  rw [Nat.pow_succ']
  have parts := Nat.div_add_mod block.index 2
  by_cases even : block.index % 2 = 0
  · rw [if_pos even, ← Nat.mul_assoc]
    congr 1
    omega
  · rw [if_neg even, if_neg even, ← Nat.mul_assoc]
    congr 1
    omega

/-- The parent ends with its second half. -/
theorem parent_stop (block : Block) :
    block.parent.stop = if block.index % 2 = 0 then block.buddy.stop else block.stop := by
  unfold parent buddy stop
  dsimp only
  rw [Nat.pow_succ']
  have parts := Nat.div_add_mod block.index 2
  by_cases even : block.index % 2 = 0
  · rw [if_pos even, if_pos even, ← Nat.mul_assoc]
    congr 1
    omega
  · rw [if_neg even, ← Nat.mul_assoc]
    congr 1
    omega

theorem leftHalf_parent (positive : 0 < block.level) : block.leftHalf.parent = block := by
  refine Block.ext ?_ ?_
  · exact Nat.sub_add_cancel positive
  · exact Nat.mul_div_cancel_left _ (Nat.succ_pos 1)

theorem leftHalf_first (positive : 0 < block.level) : block.leftHalf.first = block.first := by
  unfold leftHalf first
  obtain ⟨level, same⟩ := Nat.exists_eq_succ_of_ne_zero positive.ne'
  rw [same, Nat.succ_sub_one, Nat.pow_succ]
  ring

theorem leftHalf_buddy (block : Block) :
    block.leftHalf.buddy = ⟨block.level - 1, 2 * block.index + 1⟩ := by
  unfold leftHalf buddy
  dsimp only
  rw [if_pos (Nat.mul_mod_right 2 _)]

end Family

end Block

end CSwitch.Library
