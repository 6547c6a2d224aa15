import CSwitch.Alloc.BuddyInvariant

/-! The two calls of the allocator: the loops of `malloc` and `free` are runs of
the moves of the buddy system, and none of their assertions fails. -/

set_option autoImplicit false

namespace CSwitch.Alloc

open Library

/-! ## Sizes -/

theorem firstUpKFrom_spec {n : Nat} (small : n ≤ 2 ^ 63) (leaf rounds k : Nat)
    (enough : 64 - (leaf + k) < rounds) :
    ∃ found, firstUpKFrom n rounds k (2 ^ (leaf + k)) = some found ∧ k ≤ found ∧
      n ≤ 2 ^ (leaf + found) ∧ ∀ j, k ≤ j → j < found → 2 ^ (leaf + j) < n := by
  induction rounds generalizing k with
  | zero => omega
  | succ rounds ih =>
      unfold firstUpKFrom
      by_cases short : 2 ^ (leaf + k) < n
      · have exponent : leaf + k < 63 :=
          (Nat.pow_lt_pow_iff_right (by decide)).mp (short.trans_le small)
        -- the bit that moves up stays within the word
        have doubled : (2 ^ (leaf + k) <<< 1) % (u64Max + 1) = 2 ^ (leaf + (k + 1)) := by
          have bound : 2 ^ (leaf + (k + 1)) ≤ 2 ^ 63 :=
            Nat.pow_le_pow_right (by decide) (by omega)
          rw [Nat.shiftLeft_eq, ← Nat.pow_add]
          refine Nat.mod_eq_of_lt (bound.trans_lt ?_)
          decide
        obtain ⟨found, result, order, fits, least⟩ := ih (k + 1) (by omega)
        refine ⟨found, ?_, Nat.le_of_succ_le order, fits, ?_⟩
        · rw [if_pos short, doubled, result]
        · intro j from_ below
          cases from_.eq_or_lt with
          | inl same => exact same ▸ short
          | inr later => exact least j later below
      · refine ⟨k, if_neg short, le_rfl, Nat.le_of_not_lt short, ?_⟩
        intro j from_ below
        omega

/-- The smallest class of blocks that hold so many bytes. -/
theorem firstUpK_spec {n : Nat} (small : n ≤ 2 ^ 63) (leaf : Nat) :
    ∃ k, firstUpK n (1 <<< leaf) = some k ∧ n ≤ 2 ^ (leaf + k) ∧ ∀ j < k, 2 ^ (leaf + j) < n := by
  obtain ⟨k, result, _, fits, least⟩ :=
    firstUpKFrom_spec small leaf 65 0 (by omega)
  refine ⟨k, ?_, fits, fun j below => least j (Nat.zero_le _) below⟩
  unfold firstUpK
  rw [Nat.shiftLeft_eq, Nat.one_mul]
  exact result

namespace BuddyAlloc

section Reads

variable {alloc : BuddyAlloc} {live : Set Block} {block : Block}

theorem entry_eq (laid : alloc.Laid) (fits : block.stop ≤ alloc.units) :
    alloc.entry block.level = some (alloc.entries block.level) :=
  if_pos (Nat.lt_of_succ_lt (BuddyLayout.level_lt laid fits))

theorem entry_parent_eq (laid : alloc.Laid) (fits : block.stop ≤ alloc.units) :
    alloc.entry (block.level + 1) = some (alloc.entries (block.level + 1)) :=
  if_pos (BuddyLayout.level_lt laid fits)

theorem blockIndex_addr (laid : alloc.Laid) (level : block.level < alloc.entriesSize)
    (within : block.first ≤ alloc.units) :
    alloc.blockIndex block.level (alloc.addr block) = some block.index := by
  rw [BuddyLayout.addr, BuddyLayout.blockIndex_eq laid level within, Block.ofUnit_first]

theorem blockIndex_self (laid : alloc.Laid) (fits : block.stop ≤ alloc.units) :
    alloc.blockIndex block.level (alloc.addr block) = some block.index :=
  blockIndex_addr laid (Nat.lt_of_succ_lt (BuddyLayout.level_lt laid fits))
    (block.first_lt_stop.le.trans fits)

theorem parent_first_le (block : Block) : block.parent.first ≤ block.first :=
  (Block.le_iff.mp (Block.lt_parent block).le).2.1

theorem blockIndex_parent (laid : alloc.Laid) (fits : block.stop ≤ alloc.units) (unit : Nat)
    (inParent : block.parent.first ≤ unit) (before : unit < block.parent.stop)
    (within : unit ≤ alloc.units) :
    alloc.blockIndex (block.level + 1) (alloc.unitAddr unit) = some block.parent.index := by
  rw [BuddyLayout.blockIndex_eq laid (BuddyLayout.level_lt laid fits) within]
  exact congrArg (some ·.index) (Block.ofUnit_eq_iff.mpr ⟨inParent, before⟩)

theorem buddy_first_le (fits : block.stop ≤ alloc.units) : block.buddy.first ≤ alloc.units := by
  unfold Block.buddy Block.first
  dsimp only
  split
  · exact fits
  · refine (Nat.mul_le_mul_right _ (Nat.sub_le _ 1)).trans ?_
    exact block.first_lt_stop.le.trans fits

theorem Represents.flag_buddy (represents : alloc.Represents (insert block live))
    (fits : block.stop ≤ alloc.units) :
    alloc.flag (allocBit block.buddy) = true ↔
      alloc.units < block.buddy.stop ∨ Block.Occupied live block.buddy := by
  have below : block.level + 1 < alloc.entriesSize := BuddyLayout.level_lt represents.laid fits
  have level : block.buddy.level + 1 < alloc.entriesSize := below
  rw [represents.marked block.buddy level (buddy_first_le fits), Block.occupied_insert,
    or_iff_right (Block.buddy_apart block).1]

theorem Represents.flag_self (represents : alloc.Represents (insert block live))
    (fits : block.stop ≤ alloc.units) : alloc.flag (allocBit block) = true := by
  refine (represents.marked block (BuddyLayout.level_lt represents.laid fits)
    (block.first_lt_stop.le.trans fits)).mpr (.inr ?_)
  exact Block.occupied_insert.mpr (.inl le_rfl)

end Reads

/-! ## Cutting a block down -/

section Split

variable {alloc : BuddyAlloc} {live : Set Block} {half : Block} {fk : Nat}

/-- One round of the loop of `malloc`. -/
theorem splitTo_succ (represents : alloc.Represents (insert half.parent live))
    (fits : half.parent.stop ≤ alloc.units) (clear : Block.Clear live half.parent)
    (left : half.first = half.parent.first)
    (right : half.buddy.first = half.first + 2 ^ half.level) (deeper : fk < half.level + 1) :
    splitTo (alloc.addr half.parent) fk (half.level + 1) alloc =
      splitTo (alloc.addr half) fk half.level (alloc.halve half) := by
  have laid := represents.laid
  have small : half.stop ≤ alloc.units := (Block.stop_le_of_le (Block.lt_parent half).le).trans fits
  have found : Block.Spare alloc.units (insert half live) half.buddy :=
    (Block.spare_insert_half_iff fits clear).mpr (.inr rfl)
  have address : alloc.addr half.parent = alloc.addr half := by
    rw [BuddyLayout.addr, BuddyLayout.addr, left]
  have behind : alloc.addr half + blockSize2base half.level alloc.leaf2base =
      alloc.addr half.buddy := by
    unfold BuddyLayout.addr BuddyLayout.unitAddr blockSize2base
    rw [right, Nat.shiftLeft_eq, Nat.shiftLeft_eq, Nat.shiftLeft_eq, Nat.shiftLeft_eq]
    ring
  have whole := blockIndex_parent laid small _ left.ge (half.first_lt_stop.trans_le
    (Block.stop_le_of_le (Block.lt_parent half).le)) (half.first_lt_stop.le.trans small)
  -- the other half was not handed out
  have free : (alloc.halve half).flag (allocBit half.buddy) = false := by
    have after := (represents.halve fits clear).flag_buddy small
    rw [Bool.eq_false_iff]
    intro set
    cases after.mp set with
    | inl large => exact absurd found.prop.1 (Nat.not_le_of_lt large)
    | inr occupied =>
        refine clear.not_occupied (occupied.mono ?_)
        rw [← Block.buddy_parent]
        exact (Block.lt_parent _).le
  conv_lhs => unfold splitTo
  have top := entry_parent_eq laid small
  have next := entry_eq laid small
  have head := blockIndex_self laid small
  have tail := blockIndex_self laid found.prop.1
  rw [if_pos deeper, address, behind]
  simp only [Option.bind_eq_bind, Option.bind_some, bitSet_layout, top, next, head]
  rw [show alloc.blockIndex (half.level + 1) (alloc.addr half) = some half.parent.index from whole,
    show alloc.blockIndex half.level (alloc.addr half.buddy) = some half.buddy.index from tail]
  exact if_neg (Bool.eq_false_iff.mp free)

/-- The loop of `malloc` cuts the block down to its first piece of level `fk`. -/
theorem splitTo_spec {block : Block} (represents : alloc.Represents (insert block live))
    (fits : block.stop ≤ alloc.units) (clear : Block.Clear live block) (order : fk ≤ block.level) :
    ∃ piece after, splitTo (alloc.addr block) fk block.level alloc = some after ∧
      piece.level = fk ∧ piece.first = block.first ∧ piece ≤ block ∧
      after.Represents (insert piece live) ∧ alloc.Keeps after live := by
  induction level : block.level generalizing alloc block with
  | zero =>
      refine ⟨block, alloc, rfl, ?_, rfl, le_rfl, represents, Keeps.refl _ _⟩
      omega
  | succ k ih =>
      by_cases deeper : fk < k + 1
      · have positive : 0 < block.level := by omega
        have whole := Block.leftHalf_parent positive
        have halfLevel : block.leftHalf.level = k := by
          change block.level - 1 = k
          omega
        have left := Block.leftHalf_first positive
        have right : block.leftHalf.buddy.first =
            block.leftHalf.first + 2 ^ block.leftHalf.level := by
          rw [Block.leftHalf_buddy]
          exact Nat.add_one_mul _ _
        rw [← whole] at represents fits clear
        have small := Block.stop_le_of_le (Block.lt_parent block.leftHalf).le
        have round := splitTo_succ represents fits clear (by rw [whole, left]) right
          (by rw [halfLevel]; exact deeper)
        obtain ⟨piece, after, result, levels, first, within, finished, kept⟩ :=
          ih (represents.halve fits clear) (small.trans fits)
            (clear.mono (Block.lt_parent _).le) (by omega) halfLevel
        rw [whole, halfLevel] at round
        refine ⟨piece, after, round.trans result, levels, first.trans left, ?_, finished, ?_⟩
        · rw [← whole]
          exact within.trans (Block.lt_parent _).le
        · exact (represents.halve_keeps fits clear).trans kept
      · refine ⟨block, alloc, ?_, by omega, rfl, le_rfl, represents, Keeps.refl _ _⟩
        unfold splitTo
        exact if_neg deeper

end Split

/-! ## Taking a block -/

section Malloc

variable {alloc : BuddyAlloc} {live : Set Block} {block : Block}

theorem addr_aligned (laid : alloc.Laid) (unit : Nat) :
    (alloc.unitAddr unit >>> alloc.leaf2base) <<< alloc.leaf2base = alloc.unitAddr unit := by
  rw [Nat.shiftRight_eq_div_pow, Nat.shiftLeft_eq]
  refine Nat.div_mul_cancel ?_
  unfold BuddyLayout.unitAddr
  rw [Nat.shiftLeft_eq]
  exact Nat.dvd_add laid.aligned (Nat.dvd_mul_left _ _)

/-- A list is empty when no block of its level is spare. -/
theorem Represents.isEmpty_iff (represents : alloc.Represents live) {k : Nat}
    (level : k < alloc.entriesSize) :
    alloc.nodes.isEmptyRing (alloc.entries k).free = true ↔
      ∀ block, Block.Spare alloc.units live block → block.level ≠ k := by
  obtain ⟨items, lists⟩ := represents.lists
  rw [(lists.rings.ring k level).isEmpty_iff, List.eq_nil_iff_forall_not_mem]
  constructor
  · intro empty block found own
    exact empty _ ((lists.mem_iff k level _).mpr ⟨block, found, own, rfl⟩)
  · intro none_ p member
    obtain ⟨block, found, own, _⟩ := (lists.mem_iff k level p).mp member
    exact none_ block found own

/-- `pop` gives a spare block of the level. -/
theorem Represents.pop (represents : alloc.Represents live) {k : Nat}
    (level : k < alloc.entriesSize)
    (present : alloc.nodes.isEmptyRing (alloc.entries k).free = false) :
    ∃ block, Block.Spare alloc.units live block ∧ block.level = k ∧
      alloc.pop (alloc.entries k).free = some (alloc.addr block, alloc.remove (alloc.addr block)) := by
  obtain ⟨items, lists⟩ := represents.lists
  have ring := lists.rings.ring k level
  cases entries : items k with
  | nil =>
      rw [ring.isEmpty_iff.mpr entries] at present
      exact absurd present (by decide)
  | cons p rest =>
      obtain ⟨block, found, own, same⟩ := (lists.mem_iff k level p).mp (by simp [entries])
      rw [entries] at ring
      refine ⟨block, found, own, ?_⟩
      unfold BuddyAlloc.pop
      rw [present, ring.first, same]
      rfl

/-- `malloc` gives a clear block of the smallest class that is large enough, and
nothing when there is none. -/
theorem malloc_spec (represents : alloc.Represents live) {nbytes fk : Nat}
    (sized : firstUpK nbytes (1 <<< alloc.leaf2base) = some fk) :
    ((∀ block, block.level = fk → block.stop ≤ alloc.units → ¬Block.Clear live block) ∧
        alloc.malloc nbytes = some (none, alloc)) ∨
      ∃ block after, block.level = fk ∧ block.stop ≤ alloc.units ∧ Block.Clear live block ∧
        alloc.malloc nbytes = some (some (alloc.addr block), after) ∧
        after.Represents (insert block live) ∧ alloc.Keeps after live := by
  have laid := represents.laid
  unfold malloc
  rw [sized]
  simp only [Option.bind_eq_bind, Option.bind_some]
  cases search : (List.range' fk (alloc.entriesSize - fk)).find? fun k =>
      !alloc.nodes.isEmptyRing (alloc.entries k).free with
  | none =>
      refine .inl ⟨fun block own fits clear => ?_, rfl⟩
      obtain ⟨spare, within, found⟩ := Block.exists_spare fits clear
      have level := BuddyLayout.level_lt laid found.prop.1
      have order := within.1
      have empty := List.find?_eq_none.mp search spare.level
        (List.mem_range'_1.mpr ⟨by omega, by omega⟩)
      simp only [Bool.not_eq_true', Bool.not_eq_false] at empty
      exact (represents.isEmpty_iff (by omega)).mp empty spare found rfl
  | some k =>
      right
      obtain ⟨order, below⟩ := List.mem_range'_1.mp (List.mem_of_find?_eq_some search)
      have present := List.find?_some search
      simp only [Bool.not_eq_true'] at present
      obtain ⟨block, found, rfl, popped⟩ := represents.pop (k := k) (by omega) present
      obtain ⟨fits, clear⟩ := found.prop
      obtain ⟨piece, after, result, own, first, within, finished, kept⟩ :=
        splitTo_spec (represents.take found) fits clear order
      refine ⟨piece, after, own, (Block.stop_le_of_le within).trans fits, clear.mono within, ?_,
        finished, (represents.take_keeps found).trans kept⟩
      have index := blockIndex_self laid fits
      have address : alloc.addr block = alloc.addr piece := by
        rw [BuddyLayout.addr, BuddyLayout.addr, first]
      have layout := kept.layout
      simp only [entry_eq laid fits, Option.bind_some, popped, remove_layout, index]
      change (splitTo (alloc.addr block) fk block.level (alloc.take block)).bind _ = _
      have pieces : splitTo (alloc.addr block) fk block.level (alloc.take block) = some after := result
      rw [pieces]
      simp only [Option.bind_some, layout]
      change (if (alloc.addr block >>> alloc.leaf2base) <<< alloc.leaf2base = alloc.addr block
        then _ else _) = _
      rw [address, BuddyLayout.addr, addr_aligned laid, if_pos rfl]

end Malloc

/-! ## Giving a block back -/

section Free

variable {alloc : BuddyAlloc} {live : Set Block} {block : Block}

/-- Every level below that of a live block is passed. -/
theorem findKFrom_spec (represents : alloc.Represents (insert block live))
    (fits : block.stop ≤ alloc.units) (clear : Block.Clear live block) {rounds k : Nat}
    (below : k ≤ block.level) (last : k + rounds = alloc.entriesSize - 1) :
    alloc.findKFrom (alloc.addr block) rounds k = some block.level := by
  have laid := represents.laid
  have level := BuddyLayout.level_lt laid fits
  induction rounds generalizing k with
  | zero => omega
  | succ rounds ih =>
      -- the block of level `k` at the start of the live block
      obtain ⟨inner, rfl, start⟩ : ∃ inner : Block, inner.level = k ∧
          Block.ofUnit inner.level block.first = inner := ⟨Block.ofUnit k block.first, rfl, rfl⟩
      obtain ⟨first, before⟩ := Block.ofUnit_eq_iff.mp start
      have within : inner ≤ block := by
        rw [← start]
        conv_rhs => rw [← Block.ofUnit_first block]
        exact Block.ofUnit_le_ofUnit below _
      have small := (Block.stop_le_of_le within).trans fits
      have position : alloc.blockIndex (inner.level + 1) (alloc.addr block) =
          some inner.parent.index :=
        blockIndex_parent laid small _ ((parent_first_le inner).trans first)
          (before.trans_le (Block.stop_le_of_le (Block.lt_parent inner).le))
          (block.first_lt_stop.le.trans fits)
      have divided := represents.divided inner small
      rw [Block.divided_insert] at divided
      unfold findKFrom
      simp only [Option.bind_eq_bind, entry_parent_eq laid small, Option.bind_some, position]
      change (if alloc.flag (splitBit inner.parent) = true then _ else _) = _
      cases below.eq_or_lt with
      | inl own =>
          have same : inner = block := by
            rw [← start, own, Block.ofUnit_first]
          subst same
          rw [if_pos (divided.mpr (.inr (.inl (Block.lt_parent inner))))]
          simp only [entry_eq laid fits, Option.bind_some, blockIndex_self laid fits]
          exact if_pos (represents.flag_self fits)
      | inr deeper =>
          have around : inner.parent ≤ block :=
            Block.parent_le_of_lt (within.lt_of_ne fun same => deeper.ne (congrArg _ same))
          have inside := Block.stop_le_of_le around
          have whole : ¬alloc.flag (splitBit inner.parent) = true := by
            intro set
            rcases divided.mp set with large | wider | inner
            · omega
            · exact absurd around wider.not_ge
            · exact (clear.mono around).not_occupied inner.occupied
          rw [if_neg whole]
          exact ih deeper (by omega)

/-- One round of the loop of `free`. -/
theorem mergeFrom_succ (represents : alloc.Represents (insert block live))
    (fits : block.stop ≤ alloc.units) (rounds : Nat) :
    mergeFrom (rounds + 1) block.level (alloc.addr block) alloc =
      if alloc.flag (allocBit block.buddy) = true then some (alloc.release block)
      else mergeFrom rounds (block.level + 1) (alloc.addr block.parent) (alloc.join block) := by
  have laid := represents.laid
  have held := represents.hasBit fits
  have level := BuddyLayout.level_lt laid fits
  have buddyHeld : alloc.HasBit (allocBit block.buddy) :=
    BuddyLayout.hasBit_alloc laid level (buddy_first_le fits)
  have cleared : alloc.bitClear (alloc.entries block.level).alloc block.index =
      some (alloc.clearFlag (allocBit block)) := bitClear_eq (represents.flag_self fits)
  have buddy : (alloc.clearFlag (allocBit block)).flag (allocBit block.buddy) =
      alloc.flag (allocBit block.buddy) := by
    rw [flag_clearFlag alloc laid held buddyHeld,
      if_neg (mt allocBit_inj.mp (Block.buddy_ne block))]
  have index : (if block.index &&& 1 = 0 then block.index + 1 else block.index - 1) =
      block.buddy.index := by
    rw [Nat.and_one_is_mod]
    rfl
  have head : (if block.index &&& 1 = 0 then alloc.addr block else alloc.addr block.buddy) =
      alloc.addr block.parent := by
    rw [Nat.and_one_is_mod, BuddyLayout.addr, BuddyLayout.addr, BuddyLayout.addr,
      Block.parent_first, apply_ite alloc.unitAddr]
  have top := blockIndex_parent laid fits block.parent.first le_rfl
    block.parent.first_lt_stop
    ((parent_first_le block).trans (block.first_lt_stop.le.trans fits))
  have divided : alloc.flag (splitBit block.parent) = true :=
    (represents.divided block fits).mpr
      (.inr (Block.divided_insert.mpr (.inl (Block.lt_parent block))))
  conv_lhs => unfold mergeFrom
  simp only [Option.bind_eq_bind, entry_eq laid fits, blockIndex_self laid fits, Option.bind_some,
    cleared, index]
  change (if (alloc.clearFlag (allocBit block)).flag (allocBit block.buddy) = true then _ else _) = _
  rw [buddy]
  refine if_congr Iff.rfl ?_ ?_
  · -- the block goes back as it is
    have own : (alloc.clearFlag (allocBit block)).flag (allocBit block) = false := by
      rw [flag_clearFlag alloc laid held held, if_pos rfl]
    unfold pushFree
    simp only [Option.bind_eq_bind, clearFlag_layout, entry_eq laid fits, Option.bind_some,
      blockIndex_self laid fits]
    exact if_neg (Bool.eq_false_iff.mp own)
  · -- the block takes its buddy in
    have address : alloc.blockAddr block.level block.buddy.index = alloc.addr block.buddy :=
      BuddyLayout.blockAddr_eq block.buddy
    have whole : ((alloc.clearFlag (allocBit block)).remove (alloc.addr block.buddy)).flag
        (splitBit block.parent) = true := by
      change (alloc.clearFlag (allocBit block)).flag (splitBit block.parent) = true
      rw [flag_clearFlag alloc laid held (BuddyLayout.hasBit_split laid fits),
        if_neg (splitBit_ne_allocBit _ _), divided]
    simp only [clearFlag_layout, remove_layout, address, head, entry_parent_eq laid fits,
      Option.bind_some]
    rw [BuddyLayout.addr, top]
    exact congrArg (Option.bind · _) (bitClear_eq whole)

/-- The loop of `free` gives a live block back, joined with what is spare. -/
theorem mergeFrom_spec (represents : alloc.Represents (insert block live))
    (fits : block.stop ≤ alloc.units) (clear : Block.Clear live block) (rounds : Nat)
    (last : block.level + rounds = alloc.entriesSize - 1) :
    ∃ after, mergeFrom rounds block.level (alloc.addr block) alloc = some after ∧
      after.Represents live ∧ alloc.Keeps after live := by
  induction rounds generalizing alloc block with
  | zero =>
      have := BuddyLayout.level_lt represents.laid fits
      omega
  | succ rounds ih =>
      have buddy := represents.flag_buddy fits
      rw [mergeFrom_succ represents fits]
      by_cases taken : alloc.flag (allocBit block.buddy) = true
      · rw [if_pos taken]
        have found : Block.Spare alloc.units live block := by
          refine Block.spare_of_buddy fits clear ((buddy.mp taken).imp_left fun large => ?_)
          refine large.trans_le (Block.stop_le_of_le ?_)
          rw [← Block.buddy_parent]
          exact (Block.lt_parent _).le
        exact ⟨_, rfl, represents.release found, represents.release_keeps found⟩
      · rw [if_neg taken]
        have free := mt buddy.mpr taken
        push Not at free
        have whole := Block.clear_parent_of_buddy clear free.2
        have room : block.parent.stop ≤ alloc.units := by
          rw [Block.parent_stop]
          split
          · exact free.1
          · exact fits
        obtain ⟨after, result, finished, kept⟩ := ih (represents.join room whole) room whole
          (by rw [Block.parent_level]; change _ = alloc.entriesSize - 1; omega)
        exact ⟨after, result, finished, (represents.join_keeps room whole).trans kept⟩

/-- `free` gives a live block back, whatever else is live. -/
theorem free_spec (represents : alloc.Represents (insert block live))
    (fits : block.stop ≤ alloc.units) (clear : Block.Clear live block) :
    ∃ after, alloc.free (alloc.addr block) = some after ∧ after.Represents live ∧
      alloc.Keeps after live := by
  have level := BuddyLayout.level_lt represents.laid fits
  have found : alloc.findKForP (alloc.addr block) = some block.level :=
    findKFrom_spec represents fits clear (Nat.zero_le _) (Nat.zero_add _)
  obtain ⟨after, result, finished, kept⟩ :=
    mergeFrom_spec represents fits clear (alloc.entriesSize - 1 - block.level) (by omega)
  refine ⟨after, ?_, finished, kept⟩
  unfold free
  rw [found]
  exact result

end Free

end BuddyAlloc

end CSwitch.Alloc
