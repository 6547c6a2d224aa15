import CSwitch.Alloc.BuddySetup

/-! `init_free_list`. From the largest level down, at most one block of a level
fits behind those that are in the lists already; what is left at the end is
smaller than a unit. -/

set_option autoImplicit false

namespace CSwitch.Alloc

open Library

namespace BuddyAlloc

variable {alloc : BuddyAlloc} {d k : Nat} {block : Block}

/-- The levels from `d` on are done. -/
structure Filled (alloc : BuddyAlloc) (d : Nat) : Prop where
  laid : alloc.Laid
  marked : ∀ block : Block, block.level + 1 < alloc.entriesSize → block.first ≤ alloc.units →
    (alloc.flag (allocBit block) = true ↔ d ≤ block.level ∧ alloc.units < block.stop)
  divided : ∀ block : Block, block.stop ≤ alloc.units →
    (alloc.flag (splitBit block.parent) = true ↔ d ≤ block.level ∧ alloc.units < block.parent.stop)
  lists : ∃ items, alloc.Lists
    (fun block => d ≤ block.level ∧ Block.Spare alloc.units ∅ block) items

/-- When all levels are done, the memory is that of the buddy system without
live blocks. -/
theorem Filled.represents (filled : alloc.Filled 0) : alloc.Represents ∅ := by
  refine ⟨filled.laid, ?_, ?_, ?_⟩
  · intro block level within
    rw [filled.marked block level within]
    simp [Block.Occupied]
  · intro block fits
    rw [filled.divided block fits]
    simp [Block.Divided]
  · obtain ⟨items, lists⟩ := filled.lists
    refine ⟨items, lists.rings, fun k level p => ?_⟩
    rw [lists.mem_iff k level p]
    simp

theorem blockIndex_edge (laid : alloc.Laid) (level : k < alloc.entriesSize) :
    alloc.blockIndex k (alloc.addr (Block.edge alloc.units k)) =
      some (Block.edge alloc.units k).index :=
  blockIndex_addr laid level (Block.edge_first_le _ _)

theorem hasBit_edge (laid : alloc.Laid) {flag : Flag} (level : k < alloc.entriesSize)
    (positive : flag = .split → 1 ≤ k) :
    alloc.HasBit ⟨flag, k, (Block.edge alloc.units k).index⟩ := by
  refine ⟨level, ?_, positive⟩
  have index := blockIndex_edge laid level
  unfold BuddyLayout.blockIndex at index
  split at index
  · cases index
  · dsimp only at index
    split at index
    · rename_i inside
      rw [Option.some.inj index] at inside
      exact inside
    · cases index

theorem unitAddr_add_block (alloc : BuddyAlloc) (block : Block) :
    alloc.addr block + blockSize2base block.level alloc.leaf2base = alloc.unitAddr block.stop := by
  unfold BuddyLayout.addr BuddyLayout.unitAddr blockSize2base
  rw [Block.stop_eq, Nat.shiftLeft_eq, Nat.shiftLeft_eq, Nat.shiftLeft_eq, Nat.shiftLeft_eq]
  ring

theorem fillLevel_stop {entry parentEntry : Entry} {rounds base : Nat}
    (large : ¬base + blockSize2base k alloc.leaf2base ≤ alloc.endAddr) :
    fillLevel k entry parentEntry rounds base alloc = some (base, alloc) := by
  cases rounds with
  | zero => rfl
  | succ rounds => exact if_neg large

/-- One block of the level fits. -/
def fillOne (alloc : BuddyAlloc) (k : Nat) : BuddyAlloc :=
  let piece := Block.beforeEdge alloc.units k
  ((alloc.push (alloc.entries k).free (alloc.addr piece)).setFlag (allocBit piece.parent)).setFlag
    (splitBit piece.parent)

theorem addr_edge_succ (alloc : BuddyAlloc) (k : Nat) :
    alloc.addr (Block.edge alloc.units (k + 1)) = alloc.addr (Block.beforeEdge alloc.units k) := by
  rw [BuddyLayout.addr, BuddyLayout.addr, Block.beforeEdge_first]

theorem room_iff (laid : alloc.Laid) :
    alloc.addr (Block.edge alloc.units (k + 1)) + blockSize2base k alloc.leaf2base ≤ alloc.endAddr ↔
      (Block.beforeEdge alloc.units k).stop ≤ alloc.units := by
  have stop := unitAddr_add_block alloc (Block.beforeEdge alloc.units k)
  rw [Block.beforeEdge_level] at stop
  rw [addr_edge_succ, stop, unitAddr_le_iff laid.ordered]

theorem fillLevel_one (filled : alloc.Filled (k + 1)) (level : k + 1 < alloc.entriesSize)
    (fits : (Block.beforeEdge alloc.units k).stop ≤ alloc.units) :
    fillLevel k (alloc.entries k) (alloc.entries (k + 1))
        (alloc.endAddr - alloc.addr (Block.edge alloc.units (k + 1)))
        (alloc.addr (Block.edge alloc.units (k + 1))) alloc =
      some (alloc.addr (Block.edge alloc.units k), alloc.fillOne k) := by
  have laid := filled.laid
  have room := (room_iff laid).mpr fits
  have positive : 0 < blockSize2base k alloc.leaf2base := by
    unfold blockSize2base
    rw [Nat.shiftLeft_eq, Nat.shiftLeft_eq]
    positivity
  obtain ⟨rounds, count⟩ := Nat.exists_eq_add_of_lt
    (show 0 < alloc.endAddr - alloc.addr (Block.edge alloc.units (k + 1)) by omega)
  have top := blockIndex_edge laid level
  have head : alloc.blockIndex k (alloc.addr (Block.edge alloc.units (k + 1))) =
      some (Block.beforeEdge alloc.units k).index := by
    rw [addr_edge_succ]
    have below : (Block.beforeEdge alloc.units k).level < alloc.entriesSize :=
      Nat.lt_of_succ_lt level
    exact blockIndex_addr laid below ((Block.first_lt_stop _).le.trans fits)
  have fresh : ¬alloc.flag (allocBit (Block.beforeEdge alloc.units k)) = true := by
    intro set
    have done := ((filled.marked _ level ((Block.first_lt_stop _).le.trans fits)).mp set).1
    rw [Block.beforeEdge_level] at done
    omega
  have even : (Block.beforeEdge alloc.units k).index &&& 1 = 0 := by
    rw [Nat.and_one_is_mod]
    exact Nat.mul_mod_right 2 _
  -- the next block of the level starts at the edge and does not fit
  have next : alloc.addr (Block.edge alloc.units (k + 1)) + blockSize2base k alloc.leaf2base =
      alloc.addr (Block.edge alloc.units k) := by
    have stop := unitAddr_add_block alloc (Block.beforeEdge alloc.units k)
    rw [Block.beforeEdge_level] at stop
    rw [addr_edge_succ, stop, Block.edge_of_le fits, BuddyLayout.addr, Block.beforeEdge_stop]
  have full : ¬alloc.addr (Block.edge alloc.units k) + blockSize2base k alloc.leaf2base ≤
      alloc.endAddr := by
    have stop := unitAddr_add_block alloc (Block.edge alloc.units k)
    rw [Block.edge_level] at stop
    rw [stop, unitAddr_le_iff laid.ordered]
    exact (Block.lt_edge_stop _ _).not_ge
  rw [count, Nat.zero_add]
  unfold fillLevel
  dsimp only
  rw [if_pos room, head]
  simp only [Option.bind_eq_bind, Option.bind_some, push_layout]
  rw [if_neg (by exact fresh), if_pos even, top]
  simp only [Option.bind_some]
  rw [fillLevel_stop (by rw [next]; exact full), next]
  unfold fillOne
  dsimp only
  rw [Block.beforeEdge_parent, ← addr_edge_succ]
  rfl

/-- Below the level that is done only the edge is marked next. -/
theorem Filled.marks (filled : alloc.Filled (k + 1))
    (level : block.level + 1 < alloc.entriesSize) (within : block.first ≤ alloc.units)
    (other : block ≠ Block.edge alloc.units k) :
    alloc.flag (allocBit block) = true ↔ k ≤ block.level ∧ alloc.units < block.stop := by
  rw [filled.marked block level within]
  refine and_congr_left fun large => ⟨Nat.le_of_succ_le, fun order => ?_⟩
  refine lt_of_le_of_ne order fun own => other ?_
  rw [own]
  exact Block.eq_edge_iff.mpr ⟨within, large⟩

theorem Filled.none (filled : alloc.Filled (k + 1)) (level : k + 1 < alloc.entriesSize)
    (large : alloc.units < (Block.beforeEdge alloc.units k).stop) :
    (alloc.setFlag (allocBit (Block.edge alloc.units k))).Filled k := by
  have laid := filled.laid
  have edge : alloc.HasBit (allocBit (Block.edge alloc.units k)) :=
    hasBit_edge laid (Nat.lt_of_succ_lt level) (by simp)
  -- no block of the level is spare
  have empty (block : Block) (own : block.level = k) : ¬Block.Spare alloc.units ∅ block := by
    intro found
    obtain ⟨same, fits⟩ := Block.spare_empty_iff_beforeEdge.mp found
    rw [same, own] at fits
    exact large.not_ge fits
  refine ⟨laid, ?_, ?_, ?_⟩
  · intro block inside within
    have bit := BuddyLayout.hasBit_alloc laid inside within
    change (alloc.setFlag _).flag _ = true ↔ k ≤ block.level ∧ alloc.units < block.stop
    rw [flag_setFlag alloc laid edge bit]
    by_cases same : block = Block.edge alloc.units k
    · simp [same, Block.lt_edge_stop]
    · rw [if_neg (mt allocBit_inj.mp same)]
      exact filled.marks inside within same
  · intro block fits
    have bit := BuddyLayout.hasBit_split laid fits
    change (alloc.setFlag _).flag _ = true ↔ k ≤ block.level ∧ alloc.units < block.parent.stop
    rw [flag_setFlag alloc laid edge bit, if_neg (splitBit_ne_allocBit _ _), filled.divided block fits]
    refine and_congr_left fun beyond => ⟨Nat.le_of_succ_le, fun order => ?_⟩
    refine lt_of_le_of_ne order fun own => empty block own.symm ?_
    exact Block.spare_empty_iff.mpr ⟨fits, beyond⟩
  · obtain ⟨items, lists⟩ := filled.lists
    refine ⟨items, lists.rings, fun j bound p => (lists.mem_iff j bound p).trans ?_⟩
    refine exists_congr fun block => and_congr_left fun _ => and_congr_left fun found => ?_
    refine ⟨Nat.le_of_succ_le, fun order => lt_of_le_of_ne order fun own => ?_⟩
    exact empty block own.symm found

theorem Filled.one (filled : alloc.Filled (k + 1)) (level : k + 1 < alloc.entriesSize)
    (fits : (Block.beforeEdge alloc.units k).stop ≤ alloc.units) :
    ((alloc.fillOne k).setFlag (allocBit (Block.edge alloc.units k))).Filled k := by
  have laid := filled.laid
  have edge : alloc.HasBit (allocBit (Block.edge alloc.units k)) :=
    hasBit_edge laid (Nat.lt_of_succ_lt level) (by simp)
  have parent := Block.beforeEdge_parent alloc.units k
  have whole : alloc.HasBit (allocBit (Block.beforeEdge alloc.units k).parent) := by
    rw [parent]
    exact hasBit_edge laid level (by simp)
  have cut : alloc.HasBit (splitBit (Block.beforeEdge alloc.units k).parent) := by
    rw [parent]
    exact hasBit_edge laid level fun _ => Nat.succ_pos _
  have found : Block.Spare alloc.units ∅ (Block.beforeEdge alloc.units k) :=
    Block.spare_empty_iff_beforeEdge.mpr ⟨rfl, fits⟩
  have unique (block : Block) (spare : Block.Spare alloc.units ∅ block) (own : block.level = k) :
      block = Block.beforeEdge alloc.units k := by
    rw [← own]
    exact (Block.spare_empty_iff_beforeEdge.mp spare).1
  refine ⟨laid, ?_, ?_, ?_⟩
  · intro block inside within
    have bit := BuddyLayout.hasBit_alloc laid inside within
    change (((alloc.setFlag _).setFlag _).setFlag _).flag _ = true ↔
      k ≤ block.level ∧ alloc.units < block.stop
    rw [flag_setFlag ((alloc.setFlag _).setFlag _) laid edge bit,
      flag_setFlag (alloc.setFlag _) laid cut bit, flag_setFlag alloc laid whole bit,
      if_neg (splitBit_ne_allocBit _ _).symm]
    by_cases same : block = Block.edge alloc.units k
    · simp [same, Block.lt_edge_stop]
    · rw [if_neg (mt allocBit_inj.mp same)]
      by_cases above : block = (Block.beforeEdge alloc.units k).parent
      · simp [above, Block.lt_edge_stop]
      · rw [if_neg (mt allocBit_inj.mp above)]
        exact filled.marks inside within same
  · intro block small
    have bit := BuddyLayout.hasBit_split laid small
    change (((alloc.setFlag _).setFlag _).setFlag _).flag _ = true ↔
      k ≤ block.level ∧ alloc.units < block.parent.stop
    rw [flag_setFlag ((alloc.setFlag _).setFlag _) laid edge bit,
      flag_setFlag (alloc.setFlag _) laid cut bit, flag_setFlag alloc laid whole bit,
      if_neg (splitBit_ne_allocBit _ _), if_neg (splitBit_ne_allocBit _ _)]
    by_cases same : block.parent = (Block.beforeEdge alloc.units k).parent
    · have own : block.level = k := Nat.succ.inj (congrArg Block.level same)
      simp [same, own, Block.lt_edge_stop]
    · rw [if_neg (mt splitBit_inj.mp same), filled.divided block small]
      refine and_congr_left fun beyond => ⟨Nat.le_of_succ_le, fun order => ?_⟩
      refine lt_of_le_of_ne order fun own => same ?_
      rw [unique block (Block.spare_empty_iff.mpr ⟨small, beyond⟩) own.symm]
  · obtain ⟨items, lists⟩ := filled.lists
    have away (other : Block)
        (known : k + 1 ≤ other.level ∧ Block.Spare alloc.units ∅ other) :
        Block.Apart other (Block.beforeEdge alloc.units k) := by
      refine known.2.apart found fun same => ?_
      have order := known.1
      rw [same, Block.beforeEdge_level] at order
      omega
    have joins (block : Block) : (k ≤ block.level ∧ Block.Spare alloc.units ∅ block) ↔
        (k + 1 ≤ block.level ∧ Block.Spare alloc.units ∅ block) ∨
          block = Block.beforeEdge alloc.units k := by
      constructor
      · intro ⟨order, spare⟩
        cases order.eq_or_lt with
        | inl own => exact .inr (unique block spare own.symm)
        | inr later => exact .inl ⟨later, spare⟩
      · intro known
        cases known with
        | inl before => exact ⟨Nat.le_of_succ_le before.1, before.2⟩
        | inr same => exact ⟨(congrArg Block.level same).ge, same ▸ found⟩
    obtain ⟨items, lists⟩ := lists.push laid (Nat.lt_of_succ_lt level) away joins
    exact ⟨items, lists.rings, lists.mem_iff⟩

/-- The outer loop, from a level that is done down to the smallest. -/
theorem fillFrom_spec (filled : alloc.Filled d) (level : d < alloc.entriesSize) :
    ∃ after, fillFrom d (alloc.addr (Block.edge alloc.units d)) alloc =
        some (alloc.addr (Block.edge alloc.units 0), after) ∧
      after.Filled 0 ∧ after.toBuddyLayout = alloc.toBuddyLayout := by
  induction d generalizing alloc with
  | zero => exact ⟨alloc, rfl, filled, rfl⟩
  | succ k ih =>
      have laid := filled.laid
      have own : alloc.entry k = some (alloc.entries k) := if_pos (Nat.lt_of_succ_lt level)
      have above : alloc.entry (k + 1) = some (alloc.entries (k + 1)) := if_pos level
      have index := blockIndex_edge laid (Nat.lt_of_succ_lt level)
      unfold fillFrom
      simp only [Option.bind_eq_bind, own, above, Option.bind_some]
      by_cases fits : (Block.beforeEdge alloc.units k).stop ≤ alloc.units
      · obtain ⟨after, result, finished, layout⟩ :=
          ih (filled.one level fits) (Nat.lt_of_succ_lt level)
        refine ⟨after, ?_, finished, layout⟩
        rw [fillLevel_one filled level fits]
        simp only [Option.bind_some]
        rw [show (alloc.fillOne k).blockIndex k _ = _ from index]
        exact result
      · obtain ⟨after, result, finished, layout⟩ :=
          ih (filled.none level (Nat.lt_of_not_le fits)) (Nat.lt_of_succ_lt level)
        have point : alloc.addr (Block.edge alloc.units (k + 1)) =
            alloc.addr (Block.edge alloc.units k) := by
          rw [addr_edge_succ, Block.edge_of_lt (Nat.lt_of_not_le fits)]
        refine ⟨after, ?_, finished, layout⟩
        rw [fillLevel_stop (mt (room_iff laid).mp fits), point]
        simp only [Option.bind_some]
        rw [index]
        exact result

/-- What is left behind the units is less than one. -/
theorem rest_lt (layout : BuddyLayout) :
    layout.endAddr - layout.addr (Block.edge layout.units 0) < 2 ^ layout.leaf2base := by
  have split := Nat.div_add_mod' (layout.endAddr - layout.baseAddr) (2 ^ layout.leaf2base)
  have small := Nat.mod_lt (layout.endAddr - layout.baseAddr) (Nat.two_pow_pos layout.leaf2base)
  have units : (Block.edge layout.units 0).first = layout.units := by
    unfold Block.edge Block.ofUnit Block.first
    simp
  unfold BuddyLayout.addr BuddyLayout.unitAddr
  rw [units, BuddyLayout.units, Nat.shiftLeft_eq, Nat.shiftRight_eq_div_pow]
  omega

end BuddyAlloc

namespace BuddyAllocParam

variable {param : BuddyAllocParam} {memory : BuddyAlloc.Memory}

/-- Before the first level no block is in a list. -/
theorem laidOut_filled (fits : param.Fits)
    (zero : param.zeroFilled = true → ∀ address, memory.bytes address = 0#8) :
    (param.laidOut memory).Filled (param.entriesSize - 1) := by
  have laid := laidOut_laid fits memory
  refine ⟨laid, ?_, ?_, ?_⟩
  · intro block level within
    have clear := laidOut_flag zero (BuddyLayout.hasBit_alloc laid level within)
    change block.level + 1 < param.entriesSize at level
    simp only [clear, Bool.false_eq_true, false_iff, not_and]
    omega
  · intro block small
    have clear := laidOut_flag zero (BuddyLayout.hasBit_split laid small)
    have level : block.level + 1 < param.entriesSize := BuddyLayout.level_lt laid small
    simp only [clear, Bool.false_eq_true, false_iff, not_and]
    omega
  · refine ⟨_, laidOut_rings fits memory, fun k _ p => ?_⟩
    simp only [List.not_mem_nil, false_iff]
    intro ⟨block, ⟨order, found⟩, _, _⟩
    have level : block.level + 1 < param.entriesSize := BuddyLayout.level_lt laid found.prop.1
    omega

/-- The lists of a new allocator are those of the buddy system without live
blocks, on an arena behind what the allocator keeps for itself. -/
theorem new_spec (fits : param.Fits)
    (zero : param.zeroFilled = true → ∀ address, memory.bytes address = 0#8) :
    ∃ alloc, BuddyAlloc.new param memory = some alloc ∧ alloc.Represents ∅ ∧
      alloc.toBuddyLayout = (param.laidOut memory).toBuddyLayout ∧
      alloc.unavailable < 2 ^ param.leaf2base := by
  have laid := laidOut_laid fits memory
  have levels := laid.levels
  -- the row of units is shorter than the largest block
  have start : (param.laidOut memory).addr
      (Block.edge (param.laidOut memory).units (param.entriesSize - 1)) = param.arenaAddr := by
    have index : (param.laidOut memory).units / 2 ^ (param.entriesSize - 1) = 0 :=
      Nat.div_eq_of_lt laid.room
    unfold BuddyLayout.addr BuddyLayout.unitAddr Block.first Block.edge Block.ofUnit
    rw [index, Nat.zero_mul, Nat.zero_shiftLeft]
    rfl
  obtain ⟨after, result, finished, layout⟩ := BuddyAlloc.fillFrom_spec (laidOut_filled fits zero)
    (show param.entriesSize - 1 < param.entriesSize by change 2 ≤ param.entriesSize at levels; omega)
  rw [start] at result
  refine ⟨{ after with unavailable := after.endAddr -
    (param.laidOut memory).addr (Block.edge (param.laidOut memory).units 0) }, ?_, ?_, layout, ?_⟩
  · rw [new_eq fits]
    unfold BuddyAlloc.initFreeList
    rw [show BuddyAlloc.fillFrom ((param.laidOut memory).entriesSize - 1)
      (param.laidOut memory).baseAddr (param.laidOut memory) = _ from result]
    rfl
  · obtain ⟨laid, marked, divided, items, lists⟩ := finished.represents
    exact ⟨laid, marked, divided, items, lists.rings, lists.mem_iff⟩
  · change after.endAddr - _ < _
    rw [layout]
    exact BuddyAlloc.rest_lt (param.laidOut memory).toBuddyLayout

/-! ## The heap of the program -/

section Heap

variable {heap : Nat} (notNull : heap ≠ 0)

/-- The heap is large enough wherever it is. -/
theorem allocatorParam_fits (aligned : 4096 ∣ heap) : (allocatorParam heap notNull).Fits := by
  have leaf : (allocatorParam heap notNull).leaf2base = 6 := by
    change log2 64 = 6
    decide
  have start : (allocatorParam heap notNull).entriesAddr = heap := by
    unfold entriesAddr
    rw [leaf]
    exact roundup_of_dvd notNull (dvd_trans (by decide) aligned)
  have levels : (allocatorParam heap notNull).entriesSize = 22 := by
    unfold entriesSize
    rw [start, leaf]
    have length : (allocatorParam heap notNull).endAddr - heap = 67108864 := by
      change heap + heapSize - heap = 67108864
      rw [Nat.add_sub_cancel_left]
      decide
    rw [length]
    decide
  have allocBytes : (allocatorParam heap notNull).allocPart.total 0 22 = 524290 := by
    unfold allocPart
    rw [levels]
    change (Part.alloc false 22).total 0 22 = 524290
    decide
  have splitBytes : (allocatorParam heap notNull).splitPart.total 1 21 = 262146 := by
    unfold splitPart
    rw [levels]
    change (Part.split false 22).total 1 21 = 262146
    decide
  have allowed : 64 % 16 = 0 ∧ 64 ≠ 0 := by decide
  refine ⟨allowed, ?_⟩
  have bound := roundup_lt ((allocatorParam heap notNull).splitAddr +
    (allocatorParam heap notNull).splitPart.total 1 ((allocatorParam heap notNull).entriesSize - 1))
    (allocatorParam heap notNull).leaf2base
  refine bound.trans ?_
  unfold splitAddr allocAddr freeAddr
  rw [levels, start, leaf, allocBytes, splitBytes, Part.free_total]
  change _ ≤ heap + heapSize
  unfold entryBytes nodeBytes heapSize
  omega

end Heap

end BuddyAllocParam

/-- The heap of the program at some address. -/
def heapParam : BuddyAllocParam := allocatorParam 4096 (by decide)

theorem heapParam_fits : heapParam.Fits := BuddyAllocParam.allocatorParam_fits _ (dvd_refl 4096)

theorem heapParam_zero (_ : heapParam.zeroFilled = true) (address : Nat) :
    ({} : BuddyAlloc.Memory).bytes address = 0#8 := rfl

namespace BuddyAllocParam

/-! ## When `new` returns -/

variable {param : BuddyAllocParam} {memory : BuddyAlloc.Memory}

/-- `new` returns exactly when the leaf size is allowed and what it keeps for
itself fits into the memory. -/
theorem new_iff (zero : param.zeroFilled = true → ∀ address, memory.bytes address = 0#8) :
    ((BuddyAlloc.new param memory).isSome ↔ param.Fits) ∧
      ∀ alloc, BuddyAlloc.new param memory = some alloc → alloc.Represents ∅ ∧
        alloc.baseAddr = param.arenaAddr ∧ alloc.endAddr = param.endAddr ∧
        alloc.unavailable < 2 ^ param.leaf2base := by
  constructor
  · constructor
    · intro made
      obtain ⟨alloc, made⟩ := Option.isSome_iff_exists.mp made
      exact fits_of_new made
    · intro fits
      obtain ⟨alloc, made, _⟩ := new_spec fits zero
      exact Option.isSome_iff_exists.mpr ⟨alloc, made⟩
  · intro alloc made
    obtain ⟨other, result, represents, layout, rest⟩ := new_spec (fits_of_new made) zero
    cases made.symm.trans result
    exact ⟨represents, congrArg BuddyLayout.baseAddr layout, congrArg BuddyLayout.endAddr layout,
      rest⟩

theorem new_iff_heap : (BuddyAlloc.new heapParam {}).isSome ∧
    ∀ alloc, BuddyAlloc.new heapParam {} = some alloc → alloc.Represents ∅ := by
  obtain ⟨returns, made⟩ := new_iff heapParam_zero
  exact ⟨returns.mpr heapParam_fits, fun alloc result => (made alloc result).1⟩

end BuddyAllocParam

end CSwitch.Alloc
