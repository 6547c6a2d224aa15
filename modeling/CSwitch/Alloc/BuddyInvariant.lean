import CSwitch.Alloc.Buddy
import CSwitch.Library.BuddySystem

/-! What the memory of the allocator says about the live blocks. The bits and the
lists are those of the buddy system on the units of the arena, and each of its
four moves is matched by what the code writes for it. -/

set_option autoImplicit false

namespace CSwitch.Alloc

open Library

/-! ## Places in memory -/

inductive Flag where
  | alloc
  | split
deriving DecidableEq

def Entry.array (entry : Entry) : Flag → Nat
  | .alloc => entry.alloc
  | .split => entry.split

/-- A bit of one of the arrays. -/
structure BitRef where
  flag : Flag
  level : Nat
  index : Nat
deriving DecidableEq

def allocBit (block : Block) : BitRef := ⟨.alloc, block.level, block.index⟩

def splitBit (block : Block) : BitRef := ⟨.split, block.level, block.index⟩

namespace BuddyLayout

variable (layout : BuddyLayout)

/-- The blocks of the smallest size that fit. -/
def units : Nat := (layout.endAddr - layout.baseAddr) >>> layout.leaf2base

def unitAddr (unit : Nat) : Nat := layout.baseAddr + unit <<< layout.leaf2base

def addr (block : Block) : Nat := layout.unitAddr block.first

/-- The arrays have such a bit. -/
def HasBit (ref : BitRef) : Prop :=
  ref.level < layout.entriesSize ∧ ref.index < nblock ref.level layout.entriesSize ∧
    (ref.flag = .split → 1 ≤ ref.level)

def bitPosition (ref : BitRef) : Nat :=
  Bytes.position ((layout.entries ref.level).array ref.flag) ref.index

/-- What `new` arranges: aligned units, and in front of them the heads of the
lists and the bits, each in a place of its own. -/
structure Laid (layout : BuddyLayout) : Prop where
  leaf : 4 ≤ layout.leaf2base
  ordered : layout.baseAddr ≤ layout.endAddr
  aligned : 2 ^ layout.leaf2base ∣ layout.baseAddr
  levels : 2 ≤ layout.entriesSize
  room : layout.units < 2 ^ (layout.entriesSize - 1)
  heads : ∀ k < layout.entriesSize, (layout.entries k).free + nodeBytes ≤ layout.baseAddr
  headsApart : ∀ j < layout.entriesSize, ∀ k < layout.entriesSize,
    (layout.entries j).free = (layout.entries k).free → j = k
  bits : ∀ ref, layout.HasBit ref → layout.bitPosition ref / 8 < layout.baseAddr
  bitsApart : ∀ left right, layout.HasBit left → layout.HasBit right →
    layout.bitPosition left = layout.bitPosition right → left = right

variable {layout} {block other : Block} {unit : Nat}

theorem unitAddr_inj {left right : Nat} (same : layout.unitAddr left = layout.unitAddr right) :
    left = right := by
  unfold unitAddr at same
  rw [Nat.shiftLeft_eq, Nat.shiftLeft_eq] at same
  exact Nat.eq_of_mul_eq_mul_right (Nat.two_pow_pos _) (Nat.add_left_cancel same)

theorem blockAddr_eq (block : Block) : layout.blockAddr block.level block.index = layout.addr block := by
  unfold blockAddr addr unitAddr Block.first
  rw [Nat.shiftLeft_eq block.index]

theorem nblock_eq (k : Nat) : nblock k layout.entriesSize = 2 ^ (layout.entriesSize - 1 - k) := by
  unfold nblock
  rw [Nat.shiftLeft_eq, Nat.one_mul]
  congr 1
  omega

/-- The index of the block of level `k` around a unit. -/
theorem blockIndex_eq (laid : layout.Laid) {k : Nat} (level : k < layout.entriesSize)
    (within : unit ≤ layout.units) :
    layout.blockIndex k (layout.unitAddr unit) = some (Block.ofUnit k unit).index := by
  have offset : layout.unitAddr unit - layout.baseAddr = unit * 2 ^ layout.leaf2base := by
    unfold unitAddr
    rw [Nat.shiftLeft_eq]
    omega
  have index : (unit * 2 ^ layout.leaf2base) >>> k >>> layout.leaf2base = unit / 2 ^ k := by
    rw [Nat.shiftRight_eq_div_pow, Nat.shiftRight_eq_div_pow, Nat.div_right_comm,
      Nat.mul_div_cancel _ (Nat.two_pow_pos _)]
  have small : unit / 2 ^ k < nblock k layout.entriesSize := by
    rw [nblock_eq, Nat.div_lt_iff_lt_mul (Nat.two_pow_pos _), ← Nat.pow_add]
    have exponent : layout.entriesSize - 1 - k + k = layout.entriesSize - 1 := by omega
    rw [exponent]
    exact within.trans_lt laid.room
  unfold blockIndex
  rw [if_neg (by unfold unitAddr; omega)]
  dsimp only
  rw [offset, index, if_pos small]
  rfl

theorem level_lt (laid : layout.Laid) (fits : block.stop ≤ layout.units) :
    block.level + 1 < layout.entriesSize := by
  have size : 2 ^ block.level ≤ block.stop := Nat.le_mul_of_pos_left _ (Nat.succ_pos _)
  have below := (size.trans fits).trans_lt laid.room
  have := (Nat.pow_lt_pow_iff_right (by decide)).mp below
  omega

theorem hasBit_alloc (laid : layout.Laid) (level : block.level + 1 < layout.entriesSize)
    (within : block.first ≤ layout.units) : layout.HasBit (allocBit block) := by
  refine ⟨Nat.lt_of_succ_lt level, ?_, by simp [allocBit]⟩
  change block.index < nblock block.level layout.entriesSize
  rw [nblock_eq]
  refine Nat.lt_of_mul_lt_mul_right (a := 2 ^ block.level) ?_
  rw [← Nat.pow_add]
  have exponent : layout.entriesSize - 1 - block.level + block.level = layout.entriesSize - 1 := by
    omega
  rw [exponent]
  exact within.trans_lt laid.room

theorem hasBit_split (laid : layout.Laid) (fits : block.stop ≤ layout.units) :
    layout.HasBit (splitBit block.parent) := by
  have level := level_lt laid fits
  obtain ⟨_, index, _⟩ := hasBit_alloc laid level (block.first_lt_stop.le.trans fits)
  refine ⟨level, ?_, fun _ => Nat.succ_pos _⟩
  change block.index / 2 < nblock (block.level + 1) layout.entriesSize
  change block.index < nblock block.level layout.entriesSize at index
  rw [nblock_eq] at index ⊢
  have exponent : layout.entriesSize - 1 - block.level =
      layout.entriesSize - 1 - (block.level + 1) + 1 := by omega
  rw [exponent, Nat.pow_succ] at index
  omega

end BuddyLayout

/-! ## The invariant -/

namespace BuddyAlloc

def flag (alloc : BuddyAlloc) (ref : BitRef) : Bool :=
  alloc.bitIsset ((alloc.entries ref.level).array ref.flag) ref.index

/-- Every list holds the blocks of its level among some. -/
structure Lists (alloc : BuddyAlloc) (held : Block → Prop) (items : Nat → List Nat) : Prop where
  rings : Rings alloc.nodes alloc.entriesSize (fun k => (alloc.entries k).free) items
  mem_iff : ∀ k < alloc.entriesSize, ∀ p, p ∈ items k ↔
    ∃ block, held block ∧ block.level = k ∧ alloc.addr block = p

/-- The memory is that of the buddy system with these live blocks. -/
structure Represents (alloc : BuddyAlloc) (live : Set Block) : Prop where
  laid : alloc.Laid
  marked : ∀ block : Block, block.level + 1 < alloc.entriesSize → block.first ≤ alloc.units →
    (alloc.flag (allocBit block) = true ↔ alloc.units < block.stop ∨ Block.Occupied live block)
  divided : ∀ block : Block, block.stop ≤ alloc.units →
    (alloc.flag (splitBit block.parent) = true ↔
      alloc.units < block.parent.stop ∨ Block.Divided live block.parent)
  lists : ∃ items, alloc.Lists (Block.Spare alloc.units live) items

/-- Nothing is written to the live blocks. -/
structure Keeps (before after : BuddyAlloc) (live : Set Block) : Prop where
  layout : after.toBuddyLayout = before.toBuddyLayout
  nodes : ∀ address, after.nodes address ≠ before.nodes address → ∀ block ∈ live,
    address + nodeBytes ≤ before.addr block ∨ before.unitAddr block.stop ≤ address
  bytes : ∀ address, before.baseAddr ≤ address → after.bytes address = before.bytes address

theorem Keeps.refl (alloc : BuddyAlloc) (live : Set Block) : alloc.Keeps alloc live :=
  ⟨rfl, fun _ changed => absurd rfl changed, fun _ _ => rfl⟩

theorem Keeps.trans {first middle last : BuddyAlloc} {live : Set Block}
    (before : first.Keeps middle live) (behind : middle.Keeps last live) :
    first.Keeps last live := by
  have layout := before.layout
  refine ⟨behind.layout.trans layout, ?_, ?_⟩
  · intro address changed block member
    by_cases early : middle.nodes address = first.nodes address
    · have off := behind.nodes address (early ▸ changed) block member
      rwa [layout] at off
    · exact before.nodes address early block member
  · intro address arena
    refine (behind.bytes address ?_).trans (before.bytes address arena)
    rwa [layout]

@[simp] theorem bitSet_layout (alloc : BuddyAlloc) (bits i : Nat) :
    (alloc.bitSet bits i).toBuddyLayout = alloc.toBuddyLayout := rfl

@[simp] theorem push_layout (alloc : BuddyAlloc) (list p : Nat) :
    (alloc.push list p).toBuddyLayout = alloc.toBuddyLayout := rfl

@[simp] theorem remove_layout (alloc : BuddyAlloc) (list : Nat) :
    (alloc.remove list).toBuddyLayout = alloc.toBuddyLayout := rfl

/-! ## Bits -/

section Bits

variable {alloc : BuddyAlloc} {ref other : BitRef}

def setFlag (alloc : BuddyAlloc) (ref : BitRef) : BuddyAlloc :=
  alloc.bitSet ((alloc.entries ref.level).array ref.flag) ref.index

/-- `bit_clear` without its assertion. -/
def clearFlag (alloc : BuddyAlloc) (ref : BitRef) : BuddyAlloc :=
  { alloc with
    bytes := alloc.bytes.clearBit ((alloc.entries ref.level).array ref.flag) ref.index }

@[simp] theorem clearFlag_layout (alloc : BuddyAlloc) (ref : BitRef) :
    (alloc.clearFlag ref).toBuddyLayout = alloc.toBuddyLayout := rfl

theorem flag_eq (alloc : BuddyAlloc) (ref : BitRef) :
    alloc.flag ref = alloc.bytes.bitAt (alloc.bitPosition ref) :=
  Bytes.isSet_eq _ _

theorem bitPosition_eq_iff (laid : alloc.Laid) (held : alloc.HasBit ref) (read : alloc.HasBit other) :
    alloc.bitPosition other = alloc.bitPosition ref ↔ other = ref :=
  ⟨laid.bitsApart _ _ read held, congrArg _⟩

theorem flag_setFlag (alloc : BuddyAlloc) (laid : alloc.Laid) (held : alloc.HasBit ref) (read : alloc.HasBit other) :
    (alloc.setFlag ref).flag other = if other = ref then true else alloc.flag other := by
  have position := bitPosition_eq_iff laid held read
  rw [flag_eq, flag_eq]
  change (alloc.bytes.setBit _ _).bitAt (alloc.bitPosition other) = _
  rw [Bytes.bitAt_setBit]
  change (if alloc.bitPosition other = alloc.bitPosition ref then _ else _) = _
  simp only [position]

theorem flag_clearFlag (alloc : BuddyAlloc) (laid : alloc.Laid) (held : alloc.HasBit ref) (read : alloc.HasBit other) :
    (alloc.clearFlag ref).flag other = if other = ref then false else alloc.flag other := by
  have position := bitPosition_eq_iff laid held read
  rw [flag_eq, flag_eq]
  change (alloc.bytes.clearBit _ _).bitAt (alloc.bitPosition other) = _
  rw [Bytes.bitAt_clearBit]
  change (if alloc.bitPosition other = alloc.bitPosition ref then _ else _) = _
  simp only [position]

theorem bitClear_eq (set : alloc.flag ref = true) :
    alloc.bitClear ((alloc.entries ref.level).array ref.flag) ref.index =
      some (alloc.clearFlag ref) :=
  if_pos set

theorem bytes_setFlag (alloc : BuddyAlloc) (laid : alloc.Laid) (held : alloc.HasBit ref) {address : Nat}
    (arena : alloc.baseAddr ≤ address) : (alloc.setFlag ref).bytes address = alloc.bytes address := by
  refine Bytes.setBit_of_ne fun same => ?_
  have front := laid.bits ref held
  rw [BuddyLayout.bitPosition, Bytes.position_div] at front
  omega

theorem bytes_clearFlag (alloc : BuddyAlloc) (laid : alloc.Laid) (held : alloc.HasBit ref) {address : Nat}
    (arena : alloc.baseAddr ≤ address) :
    (alloc.clearFlag ref).bytes address = alloc.bytes address := by
  refine Bytes.clearBit_of_ne fun same => ?_
  have front := laid.bits ref held
  rw [BuddyLayout.bitPosition, Bytes.position_div] at front
  omega

end Bits

/-! ## Lists -/

section Lists

variable {alloc : BuddyAlloc} {live after : Set Block} {items : Nat → List Nat} {block : Block}

theorem head_lt (laid : alloc.Laid) {k : Nat} (level : k < alloc.entriesSize) (unit : Nat) :
    (alloc.entries k).free + nodeBytes ≤ alloc.unitAddr unit :=
  (laid.heads k level).trans (Nat.le_add_right _ _)

/-- Blocks that share no unit have different addresses. -/
theorem addr_ne {left right : Block} (apart : Block.Apart left right) :
    alloc.addr left ≠ alloc.addr right := by
  intro same
  have first := BuddyLayout.unitAddr_inj same
  have leftStop := left.first_lt_stop
  have rightStop := right.first_lt_stop
  cases apart.disjoint with
  | inl before => omega
  | inr before => omega

/-- The node of a block lies within it. -/
theorem node_fits (laid : alloc.Laid) (block : Block) :
    alloc.addr block + nodeBytes ≤ alloc.unitAddr block.stop := by
  have size : 2 ^ 4 ≤ 2 ^ alloc.leaf2base := Nat.pow_le_pow_right (Nat.succ_pos 1) laid.leaf
  have next := Nat.mul_le_mul_right (2 ^ alloc.leaf2base) (Nat.succ_le_of_lt block.first_lt_stop)
  rw [Nat.succ_mul] at next
  unfold BuddyLayout.addr BuddyLayout.unitAddr nodeBytes
  rw [Nat.shiftLeft_eq, Nat.shiftLeft_eq]
  omega

theorem unitAddr_mono {left right : Nat} (order : left ≤ right) :
    alloc.unitAddr left ≤ alloc.unitAddr right := by
  unfold BuddyLayout.unitAddr
  rw [Nat.shiftLeft_eq, Nat.shiftLeft_eq]
  exact Nat.add_le_add_left (Nat.mul_le_mul_right _ order) _

/-- The places of a node that the allocator may write: heads and spare blocks. -/
def Linkable (alloc : BuddyAlloc) (live : Set Block) (address : Nat) : Prop :=
  (∃ k < alloc.entriesSize, address = (alloc.entries k).free) ∨
    ∃ spare, Block.Spare alloc.units live spare ∧ address = alloc.addr spare

theorem Lists.linkable (lists : alloc.Lists (Block.Spare alloc.units live) items) {k : Nat} (level : k < alloc.entriesSize)
    {address : Nat} (member : address ∈ (alloc.entries k).free :: items k) :
    alloc.Linkable live address := by
  cases List.mem_cons.mp member with
  | inl head => exact .inl ⟨k, level, head⟩
  | inr item =>
      obtain ⟨spare, found, _, same⟩ := (lists.mem_iff k level address).mp item
      exact .inr ⟨spare, found, same.symm⟩

/-- Linkable places are off every live block. -/
theorem Linkable.off (laid : alloc.Laid) {address : Nat} (linkable : alloc.Linkable live address)
    (member : block ∈ live) :
    address + nodeBytes ≤ alloc.addr block ∨ alloc.unitAddr block.stop ≤ address := by
  cases linkable with
  | inl head =>
      obtain ⟨k, level, rfl⟩ := head
      exact .inl (head_lt laid level _)
  | inr spare =>
      obtain ⟨spare, found, rfl⟩ := spare
      cases (found.prop.2 block member).symm.disjoint with
      | inl before => exact .inl ((node_fits laid spare).trans (unitAddr_mono before))
      | inr behind => exact .inr (unitAddr_mono behind)

/-- A block is pushed that is away from those in the lists. -/
theorem Lists.push {held joined : Block → Prop} (laid : alloc.Laid) (lists : alloc.Lists held items)
    (level : block.level < alloc.entriesSize)
    (away : ∀ other, held other → Block.Apart other block)
    (joins : ∀ other, joined other ↔ held other ∨ other = block) :
    ∃ items, (alloc.push (alloc.entries block.level).free (alloc.addr block)).Lists joined items := by
  have outside : ∀ k < alloc.entriesSize, alloc.addr block ∉ (alloc.entries k).free :: items k := by
    intro k bound member
    cases List.mem_cons.mp member with
    | inl head =>
        have front := head_lt laid bound block.first
        unfold nodeBytes at front
        change alloc.unitAddr block.first = _ at head
        omega
    | inr item =>
        obtain ⟨other, known, _, same⟩ := (lists.mem_iff k bound _).mp item
        exact addr_ne (away other known) same
  refine ⟨_, lists.rings.push level outside, ?_⟩
  intro k bound p
  change _ ↔ ∃ other, joined other ∧ other.level = k ∧ alloc.addr other = p
  by_cases own : k = block.level
  · subst own
    rw [Function.update_self, List.mem_cons, lists.mem_iff _ bound]
    constructor
    · intro member
      cases member with
      | inl same => exact ⟨block, (joins block).mpr (.inr rfl), rfl, same.symm⟩
      | inr item =>
          obtain ⟨other, known, levels, same⟩ := item
          exact ⟨other, (joins other).mpr (.inl known), levels, same⟩
    · intro ⟨other, known, levels, same⟩
      cases (joins other).mp known with
      | inl before => exact .inr ⟨other, before, levels, same⟩
      | inr equal =>
          subst equal
          exact .inl same.symm
  · rw [Function.update_of_ne own, lists.mem_iff _ bound]
    refine exists_congr fun other => and_congr_left fun levels => ?_
    rw [joins other]
    refine (or_iff_left fun equal => own ?_).symm
    rw [← levels.1, equal]

/-- A spare block is taken out of its list. -/
theorem Lists.remove (lists : alloc.Lists (Block.Spare alloc.units live) items) (laid : alloc.Laid)
    (found : Block.Spare alloc.units live block)
    (spare : ∀ other, Block.Spare alloc.units after other ↔
      Block.Spare alloc.units live other ∧ other ≠ block) :
    ∃ items, (alloc.remove (alloc.addr block)).Lists (Block.Spare alloc.units after) items := by
  have level : block.level < alloc.entriesSize :=
    Nat.lt_of_succ_lt (BuddyLayout.level_lt laid found.prop.1)
  have member : alloc.addr block ∈ items block.level :=
    (lists.mem_iff _ level _).mpr ⟨block, found, rfl, rfl⟩
  refine ⟨_, lists.rings.remove level member, ?_⟩
  intro k bound p
  change _ ↔ ∃ other, Block.Spare alloc.units after other ∧ other.level = k ∧ alloc.addr other = p
  by_cases own : k = block.level
  · subst own
    have distinct := (List.nodup_cons.mp (lists.rings.ring _ bound).distinct).2
    rw [Function.update_self, distinct.mem_erase_iff, lists.mem_iff _ bound]
    constructor
    · intro ⟨different, other, known, levels, same⟩
      refine ⟨other, (spare other).mpr ⟨known, fun equal => different ?_⟩, levels, same⟩
      rw [← same, equal]
    · intro ⟨other, known, levels, same⟩
      obtain ⟨before, different⟩ := (spare other).mp known
      refine ⟨?_, other, before, levels, same⟩
      rw [← same]
      exact addr_ne (before.apart found different)
  · rw [Function.update_of_ne own, lists.mem_iff _ bound]
    refine exists_congr fun other => and_congr_left fun levels => ?_
    rw [spare other]
    refine (and_iff_left fun equal => own ?_).symm
    rw [← levels.1, equal]

/-- A push writes to linkable places only. -/
theorem Lists.push_frame (laid : alloc.Laid) (lists : alloc.Lists (Block.Spare alloc.units live) items)
    (fits : block.stop ≤ alloc.units) {address : Nat}
    (changed : alloc.nodes.push (alloc.entries block.level).free (alloc.addr block) address ≠
      alloc.nodes address) : alloc.Linkable live address ∨ address = alloc.addr block := by
  have level : block.level < alloc.entriesSize := Nat.lt_of_succ_lt (BuddyLayout.level_lt laid fits)
  by_contra outside
  push Not at outside
  refine changed ((lists.rings.ring _ level).push_frame ?_ outside.2 fun member =>
    outside.1 (lists.linkable level member))
  have front := head_lt laid level block.first
  unfold nodeBytes at front
  change alloc.unitAddr block.first ≠ _
  omega

theorem Lists.remove_frame (laid : alloc.Laid) (lists : alloc.Lists (Block.Spare alloc.units live) items)
    (found : Block.Spare alloc.units live block) {address : Nat}
    (changed : alloc.nodes.remove (alloc.addr block) address ≠ alloc.nodes address) :
    alloc.Linkable live address := by
  have level : block.level < alloc.entriesSize :=
    Nat.lt_of_succ_lt (BuddyLayout.level_lt laid found.prop.1)
  have member : alloc.addr block ∈ items block.level :=
    (lists.mem_iff _ level _).mpr ⟨block, found, rfl, rfl⟩
  have ring := lists.rings.ring _ level
  obtain ⟨before, behind, parts⟩ := List.append_of_mem member
  rw [parts] at ring
  by_contra outside
  refine changed (ring.remove_frame fun inside => outside (lists.linkable level ?_))
  rw [parts]
  simp only [List.mem_cons, List.mem_append] at inside ⊢
  tauto

end Lists

/-! ## The four moves -/

section Moves

variable {alloc : BuddyAlloc} {live : Set Block} {block half : Block}

theorem allocBit_inj {left right : Block} : allocBit left = allocBit right ↔ left = right := by
  simp [allocBit, Block.ext_iff]

theorem splitBit_inj {left right : Block} : splitBit left = splitBit right ↔ left = right := by
  simp [splitBit, Block.ext_iff]

theorem splitBit_ne_allocBit (left right : Block) : splitBit left ≠ allocBit right := by
  simp [splitBit, allocBit]

/-- What `malloc` does to the spare block that it found. -/
def take (alloc : BuddyAlloc) (block : Block) : BuddyAlloc :=
  (alloc.remove (alloc.addr block)).setFlag (allocBit block)

/-- One round of `malloc`: a live block is cut down to one of its halves. -/
def halve (alloc : BuddyAlloc) (half : Block) : BuddyAlloc :=
  ((alloc.setFlag (splitBit half.parent)).setFlag (allocBit half)).push
    (alloc.entries half.level).free (alloc.addr half.buddy)

/-- One round of `free`: a live block takes its buddy in. -/
def join (alloc : BuddyAlloc) (half : Block) : BuddyAlloc :=
  ((alloc.clearFlag (allocBit half)).remove (alloc.addr half.buddy)).clearFlag
    (splitBit half.parent)

/-- The last round of `free`. -/
def release (alloc : BuddyAlloc) (block : Block) : BuddyAlloc :=
  (alloc.clearFlag (allocBit block)).push (alloc.entries block.level).free (alloc.addr block)

theorem Represents.hasBit (represents : alloc.Represents live) (fits : block.stop ≤ alloc.units) :
    alloc.HasBit (allocBit block) :=
  BuddyLayout.hasBit_alloc represents.laid (BuddyLayout.level_lt represents.laid fits)
    (block.first_lt_stop.le.trans fits)

theorem half_lt_iff (different : block ≠ half) : half ≤ block ↔ half.parent ≤ block :=
  ⟨fun within => Block.parent_le_of_lt (within.lt_of_ne different.symm),
    (Block.lt_parent half).le.trans⟩

theorem Represents.take (represents : alloc.Represents live)
    (found : Block.Spare alloc.units live block) :
    (alloc.take block).Represents (insert block live) := by
  have laid := represents.laid
  have held := represents.hasBit found.prop.1
  -- above the block nothing changes, as it is divided already
  have above : ∀ other, block < other → alloc.units < other.stop ∨ Block.Divided live other := by
    intro other below
    by_cases fits : other.stop ≤ alloc.units
    · exact .inr (found.divided below fits)
    · exact .inl (by omega)
  refine ⟨laid, ?_, ?_, ?_⟩
  · intro other level within
    have bit := BuddyLayout.hasBit_alloc laid level within
    change (alloc.setFlag _).flag _ = true ↔ alloc.units < _ ∨ _
    rw [flag_setFlag alloc laid held bit, Block.occupied_insert]
    by_cases same : other = block
    · simp [same]
    · rw [if_neg (mt allocBit_inj.mp same)]
      refine (represents.marked other level within).trans ⟨fun before => ?_, fun after => ?_⟩
      · exact before.imp_right .inr
      · rcases after with large | within | occupied
        · exact .inl large
        · exact (above other (within.lt_of_ne (Ne.symm same))).imp_right Block.Divided.occupied
        · exact .inr occupied
  · intro other fits
    have bit := BuddyLayout.hasBit_split laid fits
    change (alloc.setFlag _).flag _ = true ↔ alloc.units < _ ∨ _
    rw [flag_setFlag alloc laid held bit, Block.divided_insert, if_neg (splitBit_ne_allocBit _ _)]
    refine (represents.divided other fits).trans ⟨fun before => ?_, fun after => ?_⟩
    · exact before.imp_right .inr
    · rcases after with large | below | divided
      · exact .inl large
      · exact above _ below
      · exact .inr divided
  · obtain ⟨items, lists⟩ := represents.lists
    obtain ⟨items, lists⟩ := lists.remove laid found fun _ => Block.spare_insert_iff found
    exact ⟨items, lists.rings, lists.mem_iff⟩

theorem Represents.halve (represents : alloc.Represents (insert half.parent live))
    (fits : half.parent.stop ≤ alloc.units) (clear : Block.Clear live half.parent) :
    (alloc.halve half).Represents (insert half live) := by
  have laid := represents.laid
  have small : half.stop ≤ alloc.units := (Block.stop_le_of_le (Block.lt_parent half).le).trans fits
  have held := represents.hasBit small
  have whole := BuddyLayout.hasBit_split laid small
  refine ⟨laid, ?_, ?_, ?_⟩
  · intro other level within
    have bit := BuddyLayout.hasBit_alloc laid level within
    change ((alloc.setFlag _).setFlag _).flag _ = true ↔ alloc.units < _ ∨ _
    rw [flag_setFlag (alloc.setFlag _) laid held bit, flag_setFlag alloc laid whole bit,
      Block.occupied_insert, if_neg (splitBit_ne_allocBit _ _).symm]
    by_cases same : other = half
    · simp [same]
    · rw [if_neg (mt allocBit_inj.mp same), half_lt_iff same, ← Block.occupied_insert]
      exact represents.marked other level within
  · intro other inside
    have bit := BuddyLayout.hasBit_split laid inside
    change ((alloc.setFlag _).setFlag _).flag _ = true ↔ alloc.units < _ ∨ _
    rw [flag_setFlag (alloc.setFlag _) laid held bit, flag_setFlag alloc laid whole bit,
      Block.divided_insert, if_neg (splitBit_ne_allocBit _ _)]
    by_cases same : other.parent = half.parent
    · simp [same, Block.lt_parent half]
    · rw [if_neg (mt splitBit_inj.mp same)]
      refine (represents.divided other inside).trans ?_
      rw [Block.divided_insert]
      refine or_congr_right (or_congr_left ⟨(Block.lt_parent half).trans, fun below => ?_⟩)
      exact (Block.parent_le_of_lt below).lt_of_ne (Ne.symm same)
  · obtain ⟨items, lists⟩ := represents.lists
    have split (other : Block) : Block.Spare alloc.units (insert half live) other ↔
        Block.Spare alloc.units (insert half.parent live) other ∨ other = half.buddy :=
      Block.spare_insert_half_iff fits clear
    have found := (split half.buddy).mpr (.inr rfl)
    obtain ⟨items, lists⟩ := lists.push laid (Nat.lt_of_succ_lt (BuddyLayout.level_lt laid found.prop.1))
      (fun other known => ((split other).mpr (.inl known)).apart found fun same =>
        Block.buddy_not_spare (same ▸ known)) split
    exact ⟨items, lists.rings, lists.mem_iff⟩

theorem Represents.join (represents : alloc.Represents (insert half live))
    (fits : half.parent.stop ≤ alloc.units) (clear : Block.Clear live half.parent) :
    (alloc.join half).Represents (insert half.parent live) := by
  have laid := represents.laid
  have below := Block.lt_parent half
  have small : half.stop ≤ alloc.units := (Block.stop_le_of_le below.le).trans fits
  have held := represents.hasBit small
  have whole := BuddyLayout.hasBit_split laid small
  refine ⟨laid, ?_, ?_, ?_⟩
  · intro other level within
    have bit := BuddyLayout.hasBit_alloc laid level within
    change ((alloc.clearFlag _).clearFlag _).flag _ = true ↔ alloc.units < _ ∨ _
    rw [flag_clearFlag (alloc.clearFlag _) laid whole bit, flag_clearFlag alloc laid held bit,
      Block.occupied_insert, if_neg (splitBit_ne_allocBit _ _).symm]
    by_cases same : other = half
    · subst same
      have free := (clear.mono below.le).not_occupied
      simp [free, below.not_ge, small]
    · rw [if_neg (mt allocBit_inj.mp same), ← half_lt_iff same, ← Block.occupied_insert]
      exact represents.marked other level within
  · intro other inside
    have bit := BuddyLayout.hasBit_split laid inside
    change ((alloc.clearFlag _).clearFlag _).flag _ = true ↔ alloc.units < _ ∨ _
    rw [flag_clearFlag (alloc.clearFlag _) laid whole bit, flag_clearFlag alloc laid held bit,
      Block.divided_insert]
    by_cases same : other.parent = half.parent
    · have free : ¬Block.Divided live half.parent := fun divided =>
        clear.not_occupied divided.occupied
      simp [same, free, fits]
    · rw [if_neg (mt splitBit_inj.mp same), if_neg (splitBit_ne_allocBit _ _)]
      refine (represents.divided other inside).trans ?_
      rw [Block.divided_insert]
      refine or_congr_right (or_congr_left ⟨fun within => ?_, below.trans⟩)
      exact (Block.parent_le_of_lt within).lt_of_ne (Ne.symm same)
  · obtain ⟨items, lists⟩ := represents.lists
    have buddy : Block.Spare alloc.units (insert half live) half.buddy :=
      (Block.spare_insert_half_iff fits clear).mpr (.inr rfl)
    obtain ⟨items, lists⟩ :=
      lists.remove laid buddy fun _ => Block.spare_insert_parent_iff fits clear
    exact ⟨items, lists.rings, lists.mem_iff⟩

theorem Represents.release (represents : alloc.Represents (insert block live))
    (found : Block.Spare alloc.units live block) : (alloc.release block).Represents live := by
  have laid := represents.laid
  have fits := found.prop.1
  have held := represents.hasBit fits
  have above : ∀ other, block < other → alloc.units < other.stop ∨ Block.Divided live other := by
    intro other below
    by_cases inside : other.stop ≤ alloc.units
    · exact .inr (found.divided below inside)
    · exact .inl (by omega)
  refine ⟨laid, ?_, ?_, ?_⟩
  · intro other level within
    have bit := BuddyLayout.hasBit_alloc laid level within
    change (alloc.clearFlag _).flag _ = true ↔ alloc.units < _ ∨ _
    rw [flag_clearFlag alloc laid held bit]
    by_cases same : other = block
    · simp [same, found.prop.2.not_occupied, fits]
    · rw [if_neg (mt allocBit_inj.mp same), represents.marked other level within, Block.occupied_insert]
      constructor
      · intro before
        rcases before with large | within | occupied
        · exact .inl large
        · exact (above other (within.lt_of_ne (Ne.symm same))).imp_right Block.Divided.occupied
        · exact .inr occupied
      · intro after
        exact after.imp_right .inr
  · intro other inside
    have bit := BuddyLayout.hasBit_split laid inside
    change (alloc.clearFlag _).flag _ = true ↔ alloc.units < _ ∨ _
    rw [flag_clearFlag alloc laid held bit, if_neg (splitBit_ne_allocBit _ _),
      represents.divided other inside, Block.divided_insert]
    constructor
    · intro before
      rcases before with large | below | divided
      · exact .inl large
      · exact above _ below
      · exact .inr divided
    · intro after
      exact after.imp_right .inr
  · obtain ⟨items, lists⟩ := represents.lists
    have away (other : Block) (known : Block.Spare alloc.units (insert block live) other) :
        Block.Apart other block := by
      obtain ⟨before, different⟩ := (Block.spare_insert_iff found).mp known
      exact before.apart found different
    obtain ⟨items, lists⟩ := lists.push laid (Nat.lt_of_succ_lt (BuddyLayout.level_lt laid fits))
      away fun _ => Block.spare_iff_insert found
    exact ⟨items, lists.rings, lists.mem_iff⟩

theorem Represents.take_keeps (represents : alloc.Represents live)
    (found : Block.Spare alloc.units live block) : alloc.Keeps (alloc.take block) live := by
  have laid := represents.laid
  obtain ⟨items, lists⟩ := represents.lists
  refine ⟨rfl, ?_, ?_⟩
  · intro address changed held member
    exact (lists.remove_frame laid found changed).off laid member
  · intro address arena
    exact bytes_setFlag alloc laid (represents.hasBit found.prop.1) arena

theorem Represents.halve_keeps (represents : alloc.Represents (insert half.parent live))
    (fits : half.parent.stop ≤ alloc.units) (clear : Block.Clear live half.parent) :
    alloc.Keeps (alloc.halve half) live := by
  have laid := represents.laid
  have small : half.stop ≤ alloc.units := (Block.stop_le_of_le (Block.lt_parent half).le).trans fits
  have found : Block.Spare alloc.units (insert half live) half.buddy :=
    (Block.spare_insert_half_iff fits clear).mpr (.inr rfl)
  obtain ⟨items, lists⟩ := represents.lists
  refine ⟨rfl, ?_, ?_⟩
  · intro address changed held member
    have kept {block : Block} : held ∈ insert block live := Set.mem_insert_of_mem _ member
    cases lists.push_frame laid found.prop.1 changed with
    | inl linkable => exact linkable.off laid kept
    | inr own => exact Linkable.off laid (.inr ⟨_, found, own⟩) kept
  · intro address arena
    have last := bytes_setFlag (alloc.setFlag (splitBit half.parent)) laid
      (represents.hasBit small) arena
    exact last.trans (bytes_setFlag alloc laid (BuddyLayout.hasBit_split laid small) arena)

theorem Represents.join_keeps (represents : alloc.Represents (insert half live))
    (fits : half.parent.stop ≤ alloc.units) (clear : Block.Clear live half.parent) :
    alloc.Keeps (alloc.join half) live := by
  have laid := represents.laid
  have small : half.stop ≤ alloc.units := (Block.stop_le_of_le (Block.lt_parent half).le).trans fits
  have found : Block.Spare alloc.units (insert half live) half.buddy :=
    (Block.spare_insert_half_iff fits clear).mpr (.inr rfl)
  obtain ⟨items, lists⟩ := represents.lists
  refine ⟨rfl, ?_, ?_⟩
  · intro address changed held member
    exact (lists.remove_frame laid found changed).off laid (Set.mem_insert_of_mem _ member)
  · intro address arena
    have last := bytes_clearFlag (alloc.clearFlag (allocBit half)) laid
      (BuddyLayout.hasBit_split laid small) arena
    exact last.trans (bytes_clearFlag alloc laid (represents.hasBit small) arena)

theorem Represents.release_keeps (represents : alloc.Represents (insert block live))
    (found : Block.Spare alloc.units live block) : alloc.Keeps (alloc.release block) live := by
  have laid := represents.laid
  obtain ⟨items, lists⟩ := represents.lists
  refine ⟨rfl, ?_, ?_⟩
  · intro address changed held member
    cases lists.push_frame laid found.prop.1 changed with
    | inl linkable => exact linkable.off laid (Set.mem_insert_of_mem _ member)
    | inr own => exact Linkable.off laid (.inr ⟨_, found, own⟩) member
  · intro address arena
    exact bytes_clearFlag alloc laid (represents.hasBit found.prop.1) arena

end Moves

end BuddyAlloc

end CSwitch.Alloc
