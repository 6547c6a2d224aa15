import CSwitch.Alloc.BuddyProperties

/-! What `new` makes of a piece of memory: the heads of the lists and the bit
arrays are laid out one behind the other, and the blocks of the arena that are
put into the lists are those of the buddy system without live blocks. -/

set_option autoImplicit false

namespace CSwitch.Alloc

open Library

/-! ## Sizes -/

theorem le_roundup (n sz2base : Nat) : n ≤ roundup n sz2base := by
  have below := Nat.lt_div_mul_add (a := n - 1) (Nat.two_pow_pos sz2base)
  unfold roundup
  rw [Nat.shiftRight_eq_div_pow, Nat.shiftLeft_eq, Nat.add_one_mul]
  omega

theorem roundup_of_dvd {n sz2base : Nat} (positive : n ≠ 0) (aligned : 2 ^ sz2base ∣ n) :
    roundup n sz2base = n := by
  obtain ⟨parts, rfl⟩ := aligned
  have nonzero : 0 < parts := by
    refine Nat.pos_of_ne_zero fun zero => positive ?_
    rw [zero, Nat.mul_zero]
  unfold roundup
  rw [Nat.shiftRight_eq_div_pow, Nat.shiftLeft_eq, Nat.mul_comm _ parts]
  congr 1
  have below : (parts * 2 ^ sz2base - 1) / 2 ^ sz2base = parts - 1 := by
    have size := Nat.two_pow_pos sz2base
    rw [Nat.div_eq_iff size]
    have split : parts * 2 ^ sz2base = (parts - 1) * 2 ^ sz2base + 2 ^ sz2base := by
      rw [← Nat.add_one_mul, Nat.sub_add_cancel nonzero]
    omega
  omega

theorem roundup_lt (n sz2base : Nat) : roundup n sz2base ≤ n + 2 ^ sz2base := by
  have split := Nat.div_mul_le_self (n - 1) (2 ^ sz2base)
  unfold roundup
  rw [Nat.shiftRight_eq_div_pow, Nat.shiftLeft_eq, Nat.add_one_mul]
  omega

theorem dvd_roundup (n sz2base : Nat) : 2 ^ sz2base ∣ roundup n sz2base := by
  unfold roundup
  rw [Nat.shiftLeft_eq]
  exact Nat.dvd_mul_left _ _

theorem shift_of_dvd {n sz2base : Nat} (aligned : 2 ^ sz2base ∣ n) :
    (n >>> sz2base) <<< sz2base = n := by
  rw [Nat.shiftRight_eq_div_pow, Nat.shiftLeft_eq]
  exact Nat.div_mul_cancel aligned

/-- The bytes of an array hold a bit for every block. -/
theorem lt_bitBytes {k entriesSize index : Nat} (inside : index < nblock k entriesSize) :
    index / 8 < BuddyAlloc.bitBytes k entriesSize := by
  have bytes : BuddyAlloc.bitBytes k entriesSize = (nblock k entriesSize - 1) / 8 + 1 := by
    unfold BuddyAlloc.bitBytes roundup
    rw [Nat.shiftLeft_shiftRight, Nat.shiftRight_eq_div_pow]
  rw [bytes]
  have order := Nat.div_le_div_right (c := 8) (Nat.le_sub_one_of_lt inside)
  omega

/-- The units that lie within the arena. -/
theorem unitAddr_le_iff {layout : BuddyLayout} (ordered : layout.baseAddr ≤ layout.endAddr)
    {unit : Nat} : layout.unitAddr unit ≤ layout.endAddr ↔ unit ≤ layout.units := by
  unfold BuddyLayout.unitAddr BuddyLayout.units
  rw [Nat.shiftLeft_eq, Nat.shiftRight_eq_div_pow, Nat.le_div_iff_mul_le (Nat.two_pow_pos _)]
  omega

/-! ## The loops of `new` -/

namespace Part

variable {part : Part} {alloc : BuddyAlloc} {rounds k base : Nat}

/-- The bytes of `count` levels from `k` up. -/
def total (part : Part) (k count : Nat) : Nat := ∑ i ∈ Finset.range count, part.size (k + i)

theorem total_succ (part : Part) (k count : Nat) :
    part.total k (count + 1) = part.size k + part.total (k + 1) count := by
  unfold total
  rw [Finset.sum_range_succ', Nat.add_comm]
  simp only [Nat.add_zero, Nat.add_assoc, Nat.add_comm 1]

theorem total_add_le (part : Part) (k : Nat) {low high : Nat} (order : low < high) :
    part.total k low + part.size (k + low) ≤ part.total k high := by
  unfold total
  rw [← Finset.sum_range_succ]
  exact Finset.sum_le_sum_of_subset (Finset.range_mono order)

/-- What is written to the memory for some levels. -/
def placeNodes (part : Part) : (rounds k base : Nat) → NodeHeap → NodeHeap
  | 0, _, _, heap => heap
  | rounds + 1, k, base, heap =>
      part.placeNodes rounds (k + 1) (base + part.size k) (part.nodes base heap)

def placeBytes (part : Part) : (rounds k base : Nat) → Bytes → Bytes
  | 0, _, _, bytes => bytes
  | rounds + 1, k, base, bytes =>
      part.placeBytes rounds (k + 1) (base + part.size k) (part.bytes base (part.size k) bytes)

/-- The pointers of some levels, one part behind the other. -/
def placeEntries (part : Part) (rounds k base : Nat) (entries : Nat → Entry) (j : Nat) : Entry :=
  if k ≤ j ∧ j < k + rounds then part.store (entries j) (base + part.total k (j - k)) else entries j

def place (part : Part) (rounds k base : Nat) (alloc : BuddyAlloc) : BuddyAlloc :=
  { alloc with
    entries := part.placeEntries rounds k base alloc.entries
    nodes := part.placeNodes rounds k base alloc.nodes
    bytes := part.placeBytes rounds k base alloc.bytes }

theorem placeEntries_succ (entries : Nat → Entry) :
    part.placeEntries rounds (k + 1) (base + part.size k)
      (Function.update entries k (part.store (entries k) base)) =
      part.placeEntries (rounds + 1) k base entries := by
  funext j
  unfold placeEntries
  by_cases own : j = k
  · subst own
    simp [total]
  · rw [Function.update_of_ne own]
    by_cases inside : k + 1 ≤ j ∧ j < k + 1 + rounds
    · obtain ⟨gap, rfl⟩ := Nat.exists_eq_add_of_le inside.1
      rw [if_pos inside, if_pos (by omega), show k + 1 + gap - k = gap + 1 by omega, total_succ,
        Nat.add_sub_cancel_left, Nat.add_assoc base]
    · rw [if_neg inside, if_neg (by omega)]

theorem placeEntries_of_mem (entries : Nat → Entry) {j : Nat} (low : k ≤ j) (high : j < k + rounds) :
    part.placeEntries rounds k base entries j =
      part.store (entries j) (base + part.total k (j - k)) :=
  if_pos ⟨low, high⟩

/-- The other pointers of the entries are left as they are. -/
theorem placeEntries_field (part : Part) (field : Entry → Nat)
    (same : ∀ entry base, field (part.store entry base) = field entry) (entries : Nat → Entry)
    (j : Nat) : field (part.placeEntries rounds k base entries j) = field (entries j) := by
  unfold placeEntries
  split
  · exact same _ _
  · rfl

theorem free_total (count : Nat) : free.total k count = nodeBytes * count := by
  unfold total free
  rw [Finset.sum_const, Finset.card_range, smul_eq_mul, Nat.mul_comm]

theorem layOut_eq (room : base + part.total k rounds ≤ alloc.endAddr) :
    part.layOut rounds k base alloc =
      some (base + part.total k rounds, part.place rounds k base alloc) := by
  induction rounds generalizing k base alloc with
  | zero =>
      have outside : part.placeEntries 0 k base alloc.entries = alloc.entries := by
        funext j
        exact if_neg (by omega)
      unfold layOut place
      rw [outside]
      rfl
  | succ rounds ih =>
      rw [total_succ, ← Nat.add_assoc] at room
      unfold layOut
      rw [if_neg (by omega)]
      refine (ih (by exact room)).trans ?_
      unfold place
      rw [placeEntries_succ, total_succ, Nat.add_assoc]
      rfl

theorem layOut_base {stop : Nat} {after : BuddyAlloc}
    (result : part.layOut rounds k base alloc = some (stop, after)) :
    stop = base + part.total k rounds ∧ after.endAddr = alloc.endAddr := by
  induction rounds generalizing k base alloc with
  | zero =>
      cases result
      exact ⟨rfl, rfl⟩
  | succ rounds ih =>
      unfold layOut at result
      split at result
      · cases result
      · obtain ⟨place, last⟩ := ih result
        refine ⟨?_, last⟩
        rw [place, total_succ, Nat.add_assoc]

theorem placeNodes_free_of_lt (heap : NodeHeap) {address : Nat} (below : address < base) :
    free.placeNodes rounds k base heap address = heap address := by
  induction rounds generalizing k base heap with
  | zero => rfl
  | succ rounds ih =>
      have own : heap.initRing base address = heap address := by
        unfold NodeHeap.initRing
        rw [NodeHeap.setPrev_of_ne below.ne, NodeHeap.setNext_of_ne below.ne]
      exact (ih _ (below.trans_le (Nat.le_add_right _ _))).trans own

/-- Every list that is laid out is empty. -/
theorem placeNodes_free (heap : NodeHeap) {j : Nat} (inside : j < rounds) :
    Ring (free.placeNodes rounds k base heap) (base + nodeBytes * j) [] := by
  induction rounds generalizing k base heap j with
  | zero => omega
  | succ rounds ih =>
      cases j with
      | zero =>
          refine (Ring.init heap base).frame fun node member => ?_
          rw [List.mem_singleton] at member
          subst member
          exact placeNodes_free_of_lt _ (Nat.lt_add_of_pos_right (show 0 < nodeBytes by decide))
      | succ j =>
          have later : Ring (free.placeNodes rounds (k + 1) (base + nodeBytes) (free.nodes base heap))
              (base + nodeBytes + nodeBytes * j) [] := ih _ (Nat.lt_of_succ_lt_succ inside)
          have place : base + nodeBytes * (j + 1) = base + nodeBytes + nodeBytes * j := by ring
          rw [place]
          exact later

/-- The bit arrays are no nodes, and the heads are no bits. -/
theorem placeNodes_of_id (same : part.nodes = fun _ heap => heap) (heap : NodeHeap) :
    part.placeNodes rounds k base heap = heap := by
  induction rounds generalizing k base with
  | zero => rfl
  | succ rounds ih =>
      unfold placeNodes
      rw [same]
      exact ih

theorem placeBytes_of_id (same : part.bytes = fun _ _ bytes => bytes) (bytes : Bytes) :
    part.placeBytes rounds k base bytes = bytes := by
  induction rounds generalizing k base with
  | zero => rfl
  | succ rounds ih =>
      unfold placeBytes
      rw [same]
      exact ih

/-- The bit arrays that are laid out are zero, and what was zero stays so. -/
theorem placeBytes_zero {zeroFilled : Bool} {bytes : Bytes}
    (fills : part.bytes = fun base usedBytes bytes =>
      if zeroFilled then bytes else bytes.zero base usedBytes) {address : Nat}
    (zero : bytes address = 0#8 ∨ zeroFilled = false ∧ base ≤ address ∧
      address < base + part.total k rounds) :
    part.placeBytes rounds k base bytes address = 0#8 := by
  induction rounds generalizing k base bytes with
  | zero =>
      cases zero with
      | inl zero => exact zero
      | inr inside =>
          simp only [total, Finset.range_zero, Finset.sum_empty] at inside
          omega
  | succ rounds ih =>
      refine ih ?_
      rw [fills]
      cases zeroFilled with
      | true => exact .inl (zero.resolve_right fun inside => absurd inside.1 (by decide))
      | false =>
          rw [total_succ] at zero
          by_cases own : base ≤ address ∧ address < base + part.size k
          · exact .inl (if_pos own)
          · refine zero.imp (fun zero => (if_neg own).trans zero) fun inside => ?_
            exact ⟨rfl, by omega, by omega⟩

end Part

/-! ## Where `new` puts things -/

namespace BuddyAllocParam

variable (param : BuddyAllocParam)

def leaf2base : Nat := log2 param.leafSize

def endAddr : Nat := param.baseAddr + param.len

/-- The entries are at the start of the memory, from the first unit on. -/
def entriesAddr : Nat := roundup param.baseAddr param.leaf2base

def entriesSize : Nat := log2 ((param.endAddr - param.entriesAddr) >>> param.leaf2base) + 2

def freeAddr : Nat := param.entriesAddr + entryBytes * param.entriesSize

def allocPart : Part := .alloc param.zeroFilled param.entriesSize

def splitPart : Part := .split param.zeroFilled param.entriesSize

def allocAddr : Nat := param.freeAddr + Part.free.total 0 param.entriesSize

def splitAddr : Nat := param.allocAddr + param.allocPart.total 0 param.entriesSize

/-- The blocks are in what is left, from the next unit on. -/
def arenaAddr : Nat :=
  roundup (param.splitAddr + param.splitPart.total 1 (param.entriesSize - 1)) param.leaf2base

/-- The memory is large enough for a leaf size that is allowed. -/
def Fits : Prop :=
  (param.leafSize % minLeafSizeAlign = 0 ∧ param.leafSize ≠ 0) ∧ param.arenaAddr ≤ param.endAddr

def begun (memory : BuddyAlloc.Memory) : BuddyAlloc where
  baseAddr := 0
  endAddr := param.endAddr
  entriesSize := param.entriesSize
  leaf2base := param.leaf2base
  entries := memory.entries
  nodes := memory.nodes
  bytes := memory.bytes

/-- The allocator before the blocks are put into the lists. -/
def laidOut (memory : BuddyAlloc.Memory) : BuddyAlloc :=
  { param.splitPart.place (param.entriesSize - 1) 1 param.splitAddr
      (param.allocPart.place param.entriesSize 0 param.allocAddr
        (Part.free.place param.entriesSize 0 param.freeAddr (param.begun memory))) with
    baseAddr := param.arenaAddr }

variable {param} {memory : BuddyAlloc.Memory}

theorem new_eq (fits : param.Fits) :
    BuddyAlloc.new param memory = (param.laidOut memory).initFreeList := by
  obtain ⟨leaf, room⟩ := fits
  -- the parts lie one behind the other, so that the last check is the strongest
  have last := (le_roundup (param.splitAddr + param.splitPart.total 1 (param.entriesSize - 1))
    param.leaf2base).trans room
  have second : param.allocAddr + param.allocPart.total 0 param.entriesSize ≤ param.endAddr :=
    (Nat.le_add_right _ _).trans last
  have first : param.freeAddr + Part.free.total 0 param.entriesSize ≤ param.endAddr :=
    (Nat.le_add_right _ _).trans second
  have entries : param.entriesAddr + entryBytes * param.entriesSize ≤ param.endAddr :=
    (Nat.le_add_right _ _).trans first
  have front : param.entriesAddr ≤ param.endAddr := (Nat.le_add_right _ _).trans entries
  unfold BuddyAlloc.new
  dsimp only
  rw [if_pos leaf]
  change (if param.endAddr < param.entriesAddr then none else
    if param.endAddr < param.entriesAddr + entryBytes * param.entriesSize then none else
      (Part.free.layOut param.entriesSize 0 param.freeAddr (param.begun memory)).bind _) = _
  rw [if_neg front.not_gt, if_neg entries.not_gt, Part.layOut_eq (by exact first)]
  change (param.allocPart.layOut param.entriesSize 0 param.allocAddr _).bind _ = _
  rw [Part.layOut_eq (by exact second)]
  change (param.splitPart.layOut (param.entriesSize - 1) 1 param.splitAddr _).bind _ = _
  rw [Part.layOut_eq (by exact last)]
  change (if param.endAddr < param.arenaAddr then none else
    if (param.arenaAddr >>> param.leaf2base) <<< param.leaf2base = param.arenaAddr then
      (param.laidOut memory).initFreeList else none) = _
  rw [if_neg room.not_gt,
    if_pos (shift_of_dvd (n := param.arenaAddr) (dvd_roundup _ _))]

theorem fits_of_new {after : BuddyAlloc} (result : BuddyAlloc.new param memory = some after) :
    param.Fits := by
  unfold BuddyAlloc.new at result
  dsimp only at result
  split at result
  · rename_i leaf
    change (if param.endAddr < param.entriesAddr then none else
      if param.endAddr < param.entriesAddr + entryBytes * param.entriesSize then none else
        (Part.free.layOut param.entriesSize 0 param.freeAddr (param.begun memory)).bind _) = _
      at result
    split at result
    · cases result
    · split at result
      · cases result
      · obtain ⟨⟨stop, first⟩, made, result⟩ := Option.bind_eq_some_iff.mp result
        obtain ⟨rfl, _⟩ := Part.layOut_base made
        obtain ⟨⟨stop, second⟩, made, result⟩ := Option.bind_eq_some_iff.mp result
        obtain ⟨rfl, _⟩ := Part.layOut_base made
        obtain ⟨⟨stop, third⟩, made, result⟩ := Option.bind_eq_some_iff.mp result
        obtain ⟨rfl, _⟩ := Part.layOut_base made
        dsimp only at result
        split at result
        · cases result
        · rename_i room
          exact ⟨leaf, Nat.le_of_not_lt room⟩
  · cases result

/-! ## The places -/

variable {j : Nat} {left right ref : BitRef}

/-- The bytes of a bit array. -/
def arrayAddr (param : BuddyAllocParam) : Flag → Nat → Nat
  | .alloc, j => param.allocAddr + param.allocPart.total 0 j
  | .split, j => param.splitAddr + param.splitPart.total 1 (j - 1)

theorem laidOut_free (level : j < param.entriesSize) :
    ((param.laidOut memory).entries j).free = param.freeAddr + nodeBytes * j := by
  unfold laidOut Part.place
  dsimp only
  rw [Part.placeEntries_field param.splitPart Entry.free fun _ _ => rfl,
    Part.placeEntries_field param.allocPart Entry.free fun _ _ => rfl,
    Part.placeEntries_of_mem _ (Nat.zero_le _) (by omega), Part.free_total]
  rfl

theorem laidOut_array (held : (param.laidOut memory).HasBit ref) :
    ((param.laidOut memory).entries ref.level).array ref.flag =
      param.arrayAddr ref.flag ref.level := by
  obtain ⟨level, _, positive⟩ := held
  change ref.level < param.entriesSize at level
  unfold laidOut Part.place
  dsimp only
  cases flag : ref.flag with
  | alloc =>
      change (Part.placeEntries _ _ _ _ _ _).alloc = _
      rw [Part.placeEntries_field param.splitPart Entry.alloc fun _ _ => rfl,
        Part.placeEntries_of_mem _ (Nat.zero_le _) (by omega)]
      rfl
  | split =>
      rw [Part.placeEntries_of_mem _ (positive flag) (by omega)]
      rfl

/-- The byte of a bit lies in its array. -/
theorem byte_mem (held : (param.laidOut memory).HasBit ref) :
    param.arrayAddr ref.flag ref.level ≤ (param.laidOut memory).bitPosition ref / 8 ∧
      (param.laidOut memory).bitPosition ref / 8 <
        param.arrayAddr ref.flag ref.level + BuddyAlloc.bitBytes ref.level param.entriesSize := by
  have inside := lt_bitBytes held.2.1
  unfold BuddyLayout.bitPosition
  rw [laidOut_array held, Bytes.position_div, Nat.shiftRight_eq_div_pow]
  exact ⟨Nat.le_add_right _ _, Nat.add_lt_add_left inside _⟩

theorem array_alloc_stop (param : BuddyAllocParam) {low high : Nat} (order : low < high) :
    param.arrayAddr .alloc low + BuddyAlloc.bitBytes low param.entriesSize ≤
      param.allocAddr + param.allocPart.total 0 high := by
  have step := Part.total_add_le param.allocPart 0 order
  rw [Nat.zero_add] at step
  unfold arrayAddr
  rw [Nat.add_assoc]
  exact Nat.add_le_add_left step _

theorem array_split_stop (param : BuddyAllocParam) {low high : Nat} (positive : 1 ≤ low) (order : low < high) :
    param.arrayAddr .split low + BuddyAlloc.bitBytes low param.entriesSize ≤
      param.splitAddr + param.splitPart.total 1 (high - 1) := by
  obtain ⟨gap, rfl⟩ := Nat.exists_eq_add_of_le positive
  have below : gap < high - 1 := by omega
  have step := Part.total_add_le param.splitPart 1 below
  dsimp only [arrayAddr]
  rw [Nat.add_sub_cancel_left, Nat.add_assoc]
  exact Nat.add_le_add_left step _

/-- Arrays that share a byte are the same array. -/
theorem array_unique (heldLeft : (param.laidOut memory).HasBit left)
    (heldRight : (param.laidOut memory).HasBit right)
    (same : (param.laidOut memory).bitPosition left / 8 =
      (param.laidOut memory).bitPosition right / 8) :
    left.flag = right.flag ∧ left.level = right.level := by
  obtain ⟨leftLow, leftHigh⟩ := byte_mem heldLeft
  obtain ⟨rightLow, rightHigh⟩ := byte_mem heldRight
  rw [same] at leftLow leftHigh
  have leftLevel : left.level < param.entriesSize := heldLeft.1
  have rightLevel : right.level < param.entriesSize := heldRight.1
  have boundary (j : Nat) : param.splitAddr ≤ param.arrayAddr .split j := Nat.le_add_right _ _
  cases leftFlag : left.flag with
  | alloc =>
      rw [leftFlag] at leftLow leftHigh
      cases rightFlag : right.flag with
      | alloc =>
          rw [rightFlag] at rightLow rightHigh
          refine ⟨rfl, ?_⟩
          rcases Nat.lt_trichotomy left.level right.level with before | level | behind
          · exact absurd (leftHigh.trans_le (array_alloc_stop param before)) rightLow.not_gt
          · exact level
          · exact absurd (rightHigh.trans_le (array_alloc_stop param behind)) leftLow.not_gt
      | split =>
          rw [rightFlag] at rightLow
          have before := leftHigh.trans_le (array_alloc_stop param leftLevel)
          exact absurd before ((boundary _).trans rightLow).not_gt
  | split =>
      rw [leftFlag] at leftLow leftHigh
      cases rightFlag : right.flag with
      | alloc =>
          rw [rightFlag] at rightHigh
          have before := rightHigh.trans_le (array_alloc_stop param rightLevel)
          exact absurd before ((boundary _).trans leftLow).not_gt
      | split =>
          rw [rightFlag] at rightLow rightHigh
          refine ⟨rfl, ?_⟩
          rcases Nat.lt_trichotomy left.level right.level with before | level | behind
          · have stop := array_split_stop param (heldLeft.2.2 leftFlag) before
            exact absurd (leftHigh.trans_le stop) rightLow.not_gt
          · exact level
          · have stop := array_split_stop param (heldRight.2.2 rightFlag) behind
            exact absurd (rightHigh.trans_le stop) leftLow.not_gt

theorem array_lt_arena (held : (param.laidOut memory).HasBit ref) :
    (param.laidOut memory).bitPosition ref / 8 < param.arenaAddr := by
  have level : ref.level < param.entriesSize := held.1
  have arena := le_roundup (param.splitAddr + param.splitPart.total 1 (param.entriesSize - 1))
    param.leaf2base
  refine (byte_mem held).2.trans_le (le_trans ?_ arena)
  cases flag : ref.flag with
  | alloc => exact (array_alloc_stop param level).trans (Nat.le_add_right _ _)
  | split => exact array_split_stop param (held.2.2 flag) level

theorem laidOut_laid (fits : param.Fits) (memory : BuddyAlloc.Memory) :
    (param.laidOut memory).Laid where
  leaf := by
    have large : 2 ^ 4 ≤ param.leafSize := by
      obtain ⟨⟨divides, positive⟩, _⟩ := fits
      exact Nat.le_of_dvd (Nat.pos_of_ne_zero positive) (Nat.dvd_of_mod_eq_zero divides)
    exact (Nat.le_log2 fits.1.2).mpr large
  ordered := fits.2
  aligned := dvd_roundup _ _
  levels := Nat.le_add_left _ _
  room := by
    have front : param.entriesAddr ≤ param.arenaAddr := by
      refine le_trans ?_ (le_roundup _ _)
      unfold splitAddr allocAddr freeAddr
      omega
    have bound := Nat.lt_log2_self (n := (param.endAddr - param.entriesAddr) >>> param.leaf2base)
    refine lt_of_le_of_lt ?_ bound
    change (param.endAddr - param.arenaAddr) >>> param.leaf2base ≤ _
    rw [Nat.shiftRight_eq_div_pow, Nat.shiftRight_eq_div_pow]
    exact Nat.div_le_div_right (Nat.sub_le_sub_left front _)
  heads := by
    intro k level
    rw [laidOut_free level]
    change _ ≤ param.arenaAddr
    have order : nodeBytes * (k + 1) ≤ nodeBytes * param.entriesSize := Nat.mul_le_mul_left _ level
    rw [Nat.mul_succ] at order
    refine le_trans ?_ (le_roundup _ _)
    unfold splitAddr allocAddr
    rw [Part.free_total]
    omega
  headsApart := by
    intro j levelJ k levelK same
    rw [laidOut_free levelJ, laidOut_free levelK] at same
    exact Nat.eq_of_mul_eq_mul_left (by decide) (Nat.add_left_cancel same)
  bits := fun _ => array_lt_arena
  bitsApart := by
    intro left right heldLeft heldRight same
    obtain ⟨flag, level⟩ := array_unique heldLeft heldRight (congrArg (· / 8) same)
    have index : left.index = right.index := by
      unfold BuddyLayout.bitPosition Bytes.position at same
      rw [flag, level] at same
      exact Nat.add_left_cancel same
    cases left
    cases right
    simp_all

/-- No list holds a block yet. -/
theorem laidOut_rings (fits : param.Fits) (memory : BuddyAlloc.Memory) :
    Rings (param.laidOut memory).nodes param.entriesSize
      (fun k => ((param.laidOut memory).entries k).free) (fun _ => []) := by
  constructor
  · intro k level
    rw [laidOut_free level]
    unfold laidOut Part.place
    dsimp only
    rw [Part.placeNodes_of_id rfl, Part.placeNodes_of_id rfl]
    exact Part.placeNodes_free _ level
  · intro left levelLeft right levelRight different
    rw [List.disjoint_singleton, List.mem_singleton]
    exact fun same => different ((laidOut_laid fits memory).headsApart _ levelLeft _ levelRight same.symm)

/-- No bit is set yet. -/
theorem laidOut_flag {memory : BuddyAlloc.Memory}
    (zero : param.zeroFilled = true → ∀ address, memory.bytes address = 0#8)
    (held : (param.laidOut memory).HasBit ref) : (param.laidOut memory).flag ref = false := by
  have level : ref.level < param.entriesSize := held.1
  obtain ⟨low, high⟩ := byte_mem held
  rw [BuddyAlloc.flag_eq]
  refine Bytes.bitAt_of_zero ?_
  generalize (param.laidOut memory).bitPosition ref / 8 = address at low high
  unfold laidOut Part.place
  dsimp only
  cases filled : param.zeroFilled with
  | true =>
      refine Part.placeBytes_zero rfl (.inl (Part.placeBytes_zero rfl (.inl ?_)))
      rw [Part.placeBytes_of_id rfl]
      exact zero filled address
  | false =>
      cases flag : ref.flag with
      | alloc =>
          rw [flag] at low high
          have below := high.trans_le (array_alloc_stop param level)
          refine Part.placeBytes_zero rfl (.inl (Part.placeBytes_zero rfl (.inr ⟨filled, ?_, below⟩)))
          exact (Nat.le_add_right _ _).trans low
      | split =>
          rw [flag] at low high
          have below := high.trans_le (array_split_stop param (held.2.2 flag) level)
          refine Part.placeBytes_zero rfl (.inr ⟨filled, ?_, below⟩)
          exact (Nat.le_add_right _ _).trans low

end BuddyAllocParam

end CSwitch.Alloc
