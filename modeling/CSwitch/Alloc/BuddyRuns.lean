import CSwitch.Alloc.BuddyFill

/-! Whole runs of the allocator: a program asks for memory and gives it back in
any order. Only what was granted and not yet returned is given back. -/

set_option autoImplicit false

namespace CSwitch.Alloc

open Library

structure Grant where
  layout : Layout
  ptr : Nat

/-- The allocator and what the program holds. -/
structure Session where
  allocator : UserAllocator
  grants : List Grant := []

namespace Session

def start (param : BuddyAllocParam) (memory : BuddyAlloc.Memory) : Session :=
  { allocator := { buddyAllocParam := param, memory } }

/-- One call. A call that panics is no step. -/
inductive Step : Session → Session → Prop where
  | granted {session : Session} {layout : Layout} {ptr : Nat} {next : UserAllocator}
      (call : session.allocator.alloc layout = some (some ptr, next)) :
      Step session ⟨next, ⟨layout, ptr⟩ :: session.grants⟩
  | refused {session : Session} {layout : Layout} {next : UserAllocator}
      (call : session.allocator.alloc layout = some (none, next)) :
      Step session ⟨next, session.grants⟩
  | returned {session : Session} {before behind : List Grant} {grant : Grant}
      {next : UserAllocator} (held : session.grants = before ++ grant :: behind)
      (call : session.allocator.dealloc grant.ptr = some ((), next)) :
      Step session ⟨next, before ++ behind⟩

/-- The sessions that calls lead to. -/
def Reachable (param : BuddyAllocParam) (memory : BuddyAlloc.Memory) : Session → Prop :=
  Relation.ReflTransGen Step (start param memory)

end Session

/-! ## The blocks of the grants -/

namespace BuddyLayout

variable (layout : BuddyLayout)

/-- The class of blocks for a number of bytes. -/
def sizeClass (nbytes : Nat) : Nat := (firstUpK nbytes (1 <<< layout.leaf2base)).getD 0

def blockOf (grant : Grant) : Block :=
  .ofUnit (layout.sizeClass grant.layout.size) ((grant.ptr - layout.baseAddr) >>> layout.leaf2base)

/-- The grant is a whole block of its class. -/
structure Placed (layout : BuddyLayout) (grant : Grant) : Prop where
  fits : (layout.blockOf grant).stop ≤ layout.units
  addr : layout.addr (layout.blockOf grant) = grant.ptr

def liveBlocks (grants : List Grant) : Set Block :=
  { block | ∃ grant ∈ grants, layout.blockOf grant = block }

variable {layout} {grant : Grant} {grants : List Grant} {block : Block}

theorem sizeClass_spec {nbytes : Nat} (small : nbytes ≤ isizeMax) :
    firstUpK nbytes (1 <<< layout.leaf2base) = some (layout.sizeClass nbytes) ∧
      nbytes ≤ 2 ^ (layout.leaf2base + layout.sizeClass nbytes) := by
  have bound : nbytes ≤ 2 ^ 63 := small.trans (by decide)
  obtain ⟨k, result, fits, _⟩ := firstUpK_spec bound layout.leaf2base
  unfold sizeClass
  rw [result]
  exact ⟨rfl, fits⟩

theorem blockOf_addr {request : Layout} (own : block.level = layout.sizeClass request.size) :
    layout.blockOf ⟨request, layout.addr block⟩ = block := by
  have offset : (layout.addr block - layout.baseAddr) >>> layout.leaf2base = block.first := by
    unfold addr unitAddr
    rw [Nat.add_sub_cancel_left, Nat.shiftLeft_shiftRight]
  unfold blockOf
  rw [offset, ← own, Block.ofUnit_first]

theorem liveBlocks_cons :
    layout.liveBlocks (grant :: grants) = insert (layout.blockOf grant) (layout.liveBlocks grants) := by
  ext block
  simp [liveBlocks, eq_comm]

theorem liveBlocks_append_cons {before behind : List Grant} :
    layout.liveBlocks (before ++ grant :: behind) =
      insert (layout.blockOf grant) (layout.liveBlocks (before ++ behind)) := by
  rw [← liveBlocks_cons]
  ext block
  exact exists_congr fun _ => and_congr_left' List.perm_middle.mem_iff

end BuddyLayout

/-- The memory is that of the buddy system whose live blocks are the grants. -/
structure Serves (alloc : BuddyAlloc) (grants : List Grant) : Prop where
  represents : alloc.Represents (alloc.liveBlocks grants)
  placed : ∀ grant ∈ grants, alloc.Placed grant
  apart : grants.Pairwise fun left right =>
    Block.Apart (alloc.blockOf left) (alloc.blockOf right)

namespace Serves

variable {alloc after : BuddyAlloc} {grants : List Grant} {grant : Grant} {block : Block}

theorem layout_congr {live : List Grant} (same : after.toBuddyLayout = alloc.toBuddyLayout)
    (represents : after.Represents (alloc.liveBlocks live))
    (placed : ∀ grant ∈ live, alloc.Placed grant)
    (apart : live.Pairwise fun left right =>
      Block.Apart (alloc.blockOf left) (alloc.blockOf right)) : Serves after live := by
  rw [← same] at represents placed apart
  exact ⟨represents, placed, apart⟩

/-- A new grant does not meet those that are held. -/
theorem add (serves : Serves alloc grants) {layout : Layout}
    (own : block.level = alloc.sizeClass layout.size) (fits : block.stop ≤ alloc.units)
    (clear : Block.Clear (alloc.liveBlocks grants) block)
    (represents : after.Represents (insert block (alloc.liveBlocks grants)))
    (same : after.toBuddyLayout = alloc.toBuddyLayout) :
    Serves after (⟨layout, alloc.addr block⟩ :: grants) := by
  have named : alloc.blockOf ⟨layout, alloc.addr block⟩ = block := BuddyLayout.blockOf_addr own
  refine layout_congr same ?_ ?_ ?_
  · rw [BuddyLayout.liveBlocks_cons, named]
    exact represents
  · intro held member
    cases List.mem_cons.mp member with
    | inl new =>
        subst new
        exact ⟨by rw [named]; exact fits, by rw [named]⟩
    | inr old => exact serves.placed held old
  · refine List.pairwise_cons.mpr ⟨fun held member => ?_, serves.apart⟩
    rw [named]
    exact (clear _ ⟨held, member, rfl⟩).symm

/-- A grant that goes back does not meet those that stay. -/
theorem clear {before behind : List Grant} (serves : Serves alloc (before ++ grant :: behind)) :
    Block.Clear (alloc.liveBlocks (before ++ behind)) (alloc.blockOf grant) := by
  have front := serves.apart.perm List.perm_middle fun apart => Block.Apart.symm apart
  intro held ⟨other, member, same⟩
  rw [← same]
  exact (List.rel_of_pairwise_cons front member).symm

/-- What `malloc` does to the grants. -/
theorem malloc (serves : Serves alloc grants) (layout : Layout) :
    ((∀ block, block.level = alloc.sizeClass layout.size → block.stop ≤ alloc.units →
        ¬Block.Clear (alloc.liveBlocks grants) block) ∧
        alloc.malloc layout.size = some (none, alloc)) ∨
      ∃ block after, block.level = alloc.sizeClass layout.size ∧ block.stop ≤ alloc.units ∧
        Block.Clear (alloc.liveBlocks grants) block ∧
        alloc.malloc layout.size = some (some (alloc.addr block), after) ∧
        Serves after (⟨layout, alloc.addr block⟩ :: grants) ∧
        alloc.Keeps after (alloc.liveBlocks grants) := by
  cases BuddyAlloc.malloc_spec serves.represents (BuddyLayout.sizeClass_spec layout.fits).1 with
  | inl refused => exact .inl refused
  | inr granted =>
      obtain ⟨block, after, own, fits, clear, call, represents, keeps⟩ := granted
      exact .inr ⟨block, after, own, fits, clear, call,
        serves.add own fits clear represents keeps.layout, keeps⟩

theorem free {before behind : List Grant} (serves : Serves alloc (before ++ grant :: behind)) :
    ∃ after, alloc.free grant.ptr = some after ∧ Serves after (before ++ behind) ∧
      alloc.Keeps after (alloc.liveBlocks (before ++ behind)) := by
  have placed := serves.placed grant (by simp)
  have represents := serves.represents
  rw [BuddyLayout.liveBlocks_append_cons] at represents
  obtain ⟨after, call, represents, keeps⟩ := BuddyAlloc.free_spec represents placed.fits serves.clear
  rw [placed.addr] at call
  have fewer : (before ++ behind).Sublist (before ++ grant :: behind) :=
    (List.sublist_cons_self grant behind).append_left before
  refine ⟨after, call, layout_congr keeps.layout represents ?_ ?_, keeps⟩
  · exact fun held member => serves.placed held (fewer.subset member)
  · exact serves.apart.sublist fewer

end Serves

/-! ## Bytes -/

namespace BuddyAllocParam

/-- The bytes of a block that is granted for so many. -/
def blockBytes (param : BuddyAllocParam) (nbytes : Nat) : Nat :=
  blockSize2base ((firstUpK nbytes (1 <<< param.leaf2base)).getD 0) param.leaf2base

/-- The bytes of two grants do not overlap. -/
def Separate (param : BuddyAllocParam) (left right : Grant) : Prop :=
  left.ptr + param.blockBytes left.layout.size ≤ right.ptr ∨
    right.ptr + param.blockBytes right.layout.size ≤ left.ptr

end BuddyAllocParam

section Addresses

variable {param : BuddyAllocParam} {memory : BuddyAlloc.Memory} {alloc : BuddyAlloc}
  {left right grant : Grant} {block : Block}

theorem unitAddr_le_unitAddr {low high : Nat} :
    alloc.unitAddr low ≤ alloc.unitAddr high ↔ low ≤ high := by
  refine ⟨fun order => ?_, BuddyAlloc.unitAddr_mono⟩
  unfold BuddyLayout.unitAddr at order
  rw [Nat.shiftLeft_eq, Nat.shiftLeft_eq] at order
  exact Nat.le_of_mul_le_mul_right (Nat.le_of_add_le_add_left order) (Nat.two_pow_pos _)

theorem le_blockBytes {nbytes : Nat} (small : nbytes ≤ isizeMax) :
    nbytes ≤ param.blockBytes nbytes := by
  have bound : nbytes ≤ 2 ^ 63 := small.trans (by decide)
  obtain ⟨k, result, fits, _⟩ := firstUpK_spec bound param.leaf2base
  unfold BuddyAllocParam.blockBytes blockSize2base
  rw [result, Nat.shiftLeft_eq, Nat.shiftLeft_eq, Nat.one_mul, ← Nat.pow_add, Nat.add_comm]
  exact fits

/-- The bytes from the start of a block of some class up to its end. -/
theorem addr_add_blockBytes (same : alloc.toBuddyLayout = (param.laidOut memory).toBuddyLayout)
    {nbytes : Nat} (own : block.level = alloc.sizeClass nbytes) :
    alloc.addr block + param.blockBytes nbytes = alloc.unitAddr block.stop := by
  have leaf : alloc.leaf2base = param.leaf2base := congrArg BuddyLayout.leaf2base same
  have stop := BuddyAlloc.unitAddr_add_block alloc block
  unfold BuddyLayout.sizeClass at own
  rw [own, leaf] at stop
  exact stop

theorem Placed_stop (same : alloc.toBuddyLayout = (param.laidOut memory).toBuddyLayout)
    (placed : alloc.Placed grant) :
    grant.ptr + param.blockBytes grant.layout.size = alloc.unitAddr (alloc.blockOf grant).stop := by
  rw [← addr_add_blockBytes same rfl, placed.addr]

theorem separate_iff (same : alloc.toBuddyLayout = (param.laidOut memory).toBuddyLayout)
    (placedLeft : alloc.Placed left) (placedRight : alloc.Placed right) :
    param.Separate left right ↔ Block.Apart (alloc.blockOf left) (alloc.blockOf right) := by
  unfold BuddyAllocParam.Separate
  rw [Placed_stop same placedLeft, Placed_stop same placedRight, ← placedLeft.addr,
    ← placedRight.addr, Block.apart_iff]
  exact or_congr unitAddr_le_unitAddr unitAddr_le_unitAddr

theorem blockBytes_eq (same : alloc.toBuddyLayout = (param.laidOut memory).toBuddyLayout)
    (nbytes : Nat) :
    param.blockBytes nbytes = 2 ^ alloc.sizeClass nbytes * 2 ^ alloc.leaf2base := by
  have leaf : alloc.leaf2base = param.leaf2base := congrArg BuddyLayout.leaf2base same
  unfold BuddyAllocParam.blockBytes BuddyLayout.sizeClass blockSize2base
  rw [leaf, Nat.shiftLeft_eq, Nat.shiftLeft_eq, Nat.one_mul]

/-- An aligned place in the arena is a block. -/
theorem exists_block (same : alloc.toBuddyLayout = (param.laidOut memory).toBuddyLayout)
    (ordered : alloc.baseAddr ≤ alloc.endAddr) {ptr nbytes : Nat} (low : param.arenaAddr ≤ ptr)
    (aligned : param.blockBytes nbytes ∣ ptr - param.arenaAddr)
    (high : ptr + param.blockBytes nbytes ≤ param.endAddr) :
    ∃ block, block.level = alloc.sizeClass nbytes ∧ alloc.addr block = ptr ∧
      block.stop ≤ alloc.units := by
  have base : alloc.baseAddr = param.arenaAddr := congrArg BuddyLayout.baseAddr same
  have stop : alloc.endAddr = param.endAddr := congrArg BuddyLayout.endAddr same
  obtain ⟨index, offset⟩ := aligned
  rw [blockBytes_eq same] at offset
  have place : alloc.addr ⟨alloc.sizeClass nbytes, index⟩ = ptr := by
    rw [Nat.sub_eq_iff_eq_add low] at offset
    unfold BuddyLayout.addr BuddyLayout.unitAddr Block.first
    rw [offset, base, Nat.shiftLeft_eq]
    ring
  refine ⟨⟨alloc.sizeClass nbytes, index⟩, rfl, place, ?_⟩
  rw [← unitAddr_le_iff ordered, ← addr_add_blockBytes same rfl, place, stop]
  exact high

end Addresses

/-! ## Runs -/

namespace UserAllocator

variable {allocator : UserAllocator} {alloc : BuddyAlloc}

/-- The allocator after a call. -/
def store (allocator : UserAllocator) (inner : BuddyAlloc) : UserAllocator :=
  { allocator with innerBuddyAlloc := some inner }

theorem alloc_eq (made : allocator.getOrInsert = some alloc) (layout : Layout) :
    allocator.alloc layout =
      (alloc.malloc layout.size).map fun result => (result.1, allocator.store result.2) := by
  unfold UserAllocator.alloc fetchBuddyAlloc
  rw [made]
  simp only [Option.bind_eq_bind, Option.bind_some]
  cases alloc.malloc layout.size <;> rfl

theorem dealloc_eq (made : allocator.getOrInsert = some alloc) (ptr : Nat) :
    allocator.dealloc ptr = (alloc.free ptr).map fun inner => ((), allocator.store inner) := by
  unfold UserAllocator.dealloc fetchBuddyAlloc
  rw [made]
  simp only [Option.bind_eq_bind, Option.bind_some]
  cases alloc.free ptr <;> rfl

end UserAllocator

namespace Session

variable {param : BuddyAllocParam} {memory : BuddyAlloc.Memory} {session next : Session}

/-- The allocator, if need be the one that the next call makes, serves the grants. -/
def Sound (param : BuddyAllocParam) (memory : BuddyAlloc.Memory) (session : Session) : Prop :=
  ∃ alloc, session.allocator.getOrInsert = some alloc ∧ Serves alloc session.grants ∧
    alloc.toBuddyLayout = (param.laidOut memory).toBuddyLayout

theorem sound_start (fits : param.Fits)
    (zero : param.zeroFilled = true → ∀ address, memory.bytes address = 0#8) :
    (start param memory).Sound param memory := by
  obtain ⟨alloc, made, represents, layout, _⟩ := BuddyAllocParam.new_spec fits zero
  refine ⟨alloc, made, ⟨?_, by simp [start], .nil⟩, layout⟩
  have empty : alloc.liveBlocks [] = ∅ := by simp [BuddyLayout.liveBlocks]
  exact empty ▸ represents

theorem sound_step (sound : session.Sound param memory) (step : Step session next) :
    next.Sound param memory := by
  obtain ⟨alloc, made, serves, layout⟩ := sound
  cases step with
  | @granted request _ allocator call =>
      rw [UserAllocator.alloc_eq made] at call
      rcases serves.malloc request with ⟨_, result⟩ | granted
      · rw [result] at call
        cases call
      · obtain ⟨block, after, _, _, _, result, served, keeps⟩ := granted
        rw [result] at call
        cases call
        exact ⟨after, rfl, served, keeps.layout.trans layout⟩
  | @refused request allocator call =>
      rw [UserAllocator.alloc_eq made] at call
      rcases serves.malloc request with ⟨_, result⟩ | granted
      · rw [result] at call
        cases call
        exact ⟨alloc, rfl, serves, layout⟩
      · obtain ⟨_, _, _, _, _, result, _, _⟩ := granted
        rw [result] at call
        cases call
  | @returned before behind grant allocator held call =>
      rw [held] at serves
      obtain ⟨after, result, served, keeps⟩ := serves.free
      rw [UserAllocator.dealloc_eq made, result] at call
      cases call
      exact ⟨after, rfl, served, keeps.layout.trans layout⟩

theorem Reachable.sound (fits : param.Fits)
    (zero : param.zeroFilled = true → ∀ address, memory.bytes address = 0#8)
    (reachable : Reachable param memory session) : session.Sound param memory := by
  induction reachable with
  | refl => exact sound_start fits zero
  | tail _ step ih => exact sound_step ih step

/-! ## The heap of the program -/

section Heap

/-- Every request is a step, granted or not. -/
theorem exists_step (sound : session.Sound param memory) (layout : Layout) :
    ∃ next, Step session next ∧ ∀ grant ∈ session.grants, grant ∈ next.grants := by
  obtain ⟨alloc, made, serves, _⟩ := sound
  have call := UserAllocator.alloc_eq made layout
  rcases serves.malloc layout with ⟨_, result⟩ | ⟨_, _, _, _, _, result, _, _⟩
  · rw [result] at call
    exact ⟨_, .refused call, fun _ member => member⟩
  · rw [result] at call
    exact ⟨_, .granted call, fun _ member => List.mem_cons_of_mem _ member⟩

/-- The first request is granted. -/
theorem exists_grant (layout : Layout)
    (room : heapParam.arenaAddr + heapParam.blockBytes layout.size ≤ heapParam.endAddr) :
    ∃ (session : Session) (grant : Grant), Reachable heapParam {} session ∧ session.grants = [grant] ∧
      grant.layout = layout := by
  obtain ⟨alloc, made, serves, same⟩ := sound_start heapParam_fits heapParam_zero
  have call := UserAllocator.alloc_eq made layout
  rcases serves.malloc layout with ⟨full, _⟩ | ⟨block, _, _, _, _, result, _, _⟩
  · obtain ⟨block, own, _, small⟩ := exists_block same serves.represents.laid.ordered le_rfl
      (by rw [Nat.sub_self]; exact Nat.dvd_zero _) room
    refine absurd ?_ (full block own small)
    intro held ⟨grant, member, _⟩
    cases member
  · rw [result] at call
    exact ⟨_, _, .single (.granted call), rfl, rfl⟩

/-- A request for a page of memory. -/
def page : Layout := ⟨4096, 8, by decide⟩

theorem page_room : heapParam.arenaAddr + heapParam.blockBytes page.size ≤ heapParam.endAddr := by
  decide

end Heap

/-! ## What a program can rely on -/

/-- The free lists and the bits of the allocator are at all times those of the
buddy system whose live blocks are the grants. -/
theorem serves_grants (fits : param.Fits)
    (zero : param.zeroFilled = true → ∀ address, memory.bytes address = 0#8)
    (reachable : Reachable param memory session) :
    ∃ alloc, session.allocator.getOrInsert = some alloc ∧
      alloc.Represents (alloc.liveBlocks session.grants) ∧
      alloc.toBuddyLayout = (param.laidOut memory).toBuddyLayout := by
  obtain ⟨alloc, made, serves, layout⟩ := reachable.sound fits zero
  exact ⟨alloc, made, serves.represents, layout⟩

theorem serves_grants_page : ∃ (session : Session) (alloc : BuddyAlloc), session.grants.length = 1 ∧
    session.allocator.getOrInsert = some alloc ∧
    alloc.Represents (alloc.liveBlocks session.grants) := by
  obtain ⟨session, grant, reachable, held, _⟩ := exists_grant page page_room
  obtain ⟨alloc, made, represents, _⟩ := serves_grants heapParam_fits heapParam_zero reachable
  exact ⟨session, alloc, by rw [held]; rfl, made, represents⟩

/-- No assertion fails and nothing panics, whatever a program asks for and in
whatever order it gives back what it holds. -/
theorem never_fails (fits : param.Fits)
    (zero : param.zeroFilled = true → ∀ address, memory.bytes address = 0#8)
    (reachable : Reachable param memory session) :
    (∀ layout, (session.allocator.alloc layout).isSome) ∧
      ∀ grant ∈ session.grants, (session.allocator.dealloc grant.ptr).isSome := by
  obtain ⟨alloc, made, serves, _⟩ := reachable.sound fits zero
  constructor
  · intro layout
    rw [UserAllocator.alloc_eq made, Option.isSome_map]
    rcases serves.malloc layout with ⟨_, result⟩ | ⟨_, _, _, _, _, result, _, _⟩
    · rw [result]
      rfl
    · rw [result]
      rfl
  · intro grant member
    obtain ⟨before, behind, held⟩ := List.append_of_mem member
    rw [held] at serves
    obtain ⟨after, result, _, _⟩ := serves.free
    rw [UserAllocator.dealloc_eq made, Option.isSome_map, result]
    rfl

theorem never_fails_page : ∃ (session : Session) (grant : Grant), session.grants = [grant] ∧
    (∀ layout, (session.allocator.alloc layout).isSome) ∧
    (session.allocator.dealloc grant.ptr).isSome := by
  obtain ⟨session, grant, reachable, held, _⟩ := exists_grant page page_room
  obtain ⟨takes, gives⟩ := never_fails heapParam_fits heapParam_zero reachable
  exact ⟨session, grant, held, takes, gives grant (by rw [held]; exact List.mem_singleton_self _)⟩

/-- What is granted lies in the arena, is large and aligned enough, and overlaps
nothing else that is held. -/
theorem grants_separate (fits : param.Fits)
    (zero : param.zeroFilled = true → ∀ address, memory.bytes address = 0#8)
    (reachable : Reachable param memory session) :
    session.grants.Pairwise param.Separate ∧
      ∀ grant ∈ session.grants, param.arenaAddr ≤ grant.ptr ∧
        grant.ptr + param.blockBytes grant.layout.size ≤ param.endAddr ∧
        grant.layout.size ≤ param.blockBytes grant.layout.size ∧
        (grant.layout.align ∣ 2 ^ param.leaf2base → grant.layout.align ∣ grant.ptr) := by
  obtain ⟨alloc, made, serves, same⟩ := reachable.sound fits zero
  have leaf : alloc.leaf2base = param.leaf2base := congrArg BuddyLayout.leaf2base same
  have base : alloc.baseAddr = param.arenaAddr := congrArg BuddyLayout.baseAddr same
  have stop : alloc.endAddr = param.endAddr := congrArg BuddyLayout.endAddr same
  constructor
  · refine serves.apart.imp_of_mem fun memberLeft memberRight apart => ?_
    exact (separate_iff same (serves.placed _ memberLeft) (serves.placed _ memberRight)).mpr apart
  · intro grant member
    have placed := serves.placed grant member
    refine ⟨?_, ?_, le_blockBytes grant.layout.fits, fun aligned => ?_⟩
    · rw [← placed.addr, ← base]
      exact Nat.le_add_right _ _
    · rw [Placed_stop same placed, ← stop, unitAddr_le_iff serves.represents.laid.ordered]
      exact placed.fits
    · refine aligned.trans ?_
      have whole := serves.represents.laid.aligned
      rw [← placed.addr, ← leaf]
      unfold BuddyLayout.addr BuddyLayout.unitAddr
      rw [Nat.shiftLeft_eq]
      exact Nat.dvd_add whole (Nat.dvd_mul_left _ _)

theorem grants_separate_page : ∃ (session : Session) (grant : Grant), session.grants = [grant] ∧
    session.grants.Pairwise heapParam.Separate ∧ heapParam.arenaAddr ≤ grant.ptr ∧
    8 ∣ grant.ptr := by
  obtain ⟨session, grant, reachable, held, layout⟩ := exists_grant page page_room
  obtain ⟨separate, placed⟩ := grants_separate heapParam_fits heapParam_zero reachable
  obtain ⟨low, _, _, aligned⟩ := placed grant (by rw [held]; exact List.mem_singleton_self _)
  rw [layout] at aligned
  exact ⟨session, grant, held, separate, low, aligned (by decide)⟩

/-- A request is refused only when every aligned place for it in the arena meets
something that is held: what was given back is joined again without loss. -/
theorem request_refused_iff (fits : param.Fits)
    (zero : param.zeroFilled = true → ∀ address, memory.bytes address = 0#8)
    (reachable : Reachable param memory session) (layout : Layout) :
    (∃ next, session.allocator.alloc layout = some (none, next)) ↔
      ∀ ptr, param.arenaAddr ≤ ptr → param.blockBytes layout.size ∣ ptr - param.arenaAddr →
        ptr + param.blockBytes layout.size ≤ param.endAddr →
        ∃ grant ∈ session.grants, ¬param.Separate grant ⟨layout, ptr⟩ := by
  obtain ⟨alloc, made, serves, same⟩ := reachable.sound fits zero
  have ordered := serves.represents.laid.ordered
  -- a block meets a grant that is held when the bytes of the two overlap
  have meets {block : Block} (own : block.level = alloc.sizeClass layout.size)
      (small : block.stop ≤ alloc.units) : Block.Clear (alloc.liveBlocks session.grants) block ↔
        ∀ grant ∈ session.grants, param.Separate grant ⟨layout, alloc.addr block⟩ := by
    have named : alloc.blockOf ⟨layout, alloc.addr block⟩ = block := BuddyLayout.blockOf_addr own
    have placed : alloc.Placed ⟨layout, alloc.addr block⟩ :=
      ⟨by rw [named]; exact small, by rw [named]⟩
    constructor
    · intro clear grant member
      rw [separate_iff same (serves.placed grant member) placed, named]
      exact clear _ ⟨grant, member, rfl⟩
    · intro separate held ⟨grant, member, blocks⟩
      have apart := (separate_iff same (serves.placed grant member) placed).mp
        (separate grant member)
      rwa [named, blocks] at apart
  rw [UserAllocator.alloc_eq made]
  rcases serves.malloc layout with ⟨full, result⟩ | ⟨block, _, own, small, clear, result, _⟩
  · rw [result]
    refine iff_of_true ⟨_, rfl⟩ fun ptr low aligned high => ?_
    obtain ⟨block, own, place, small⟩ := exists_block same ordered low aligned high
    have met := mt (meets own small).mpr (full block own small)
    push Not at met
    rw [place] at met
    exact met
  · rw [result]
    refine iff_of_false (by simp) fun all => ?_
    have base : alloc.baseAddr = param.arenaAddr := congrArg BuddyLayout.baseAddr same
    have stop : alloc.endAddr = param.endAddr := congrArg BuddyLayout.endAddr same
    have low : param.arenaAddr ≤ alloc.addr block := base ▸ Nat.le_add_right _ _
    have aligned : param.blockBytes layout.size ∣ alloc.addr block - param.arenaAddr := by
      unfold BuddyLayout.addr BuddyLayout.unitAddr
      rw [base, Nat.add_sub_cancel_left, blockBytes_eq same, ← own, Nat.shiftLeft_eq]
      exact Nat.mul_dvd_mul_right (Nat.dvd_mul_left _ _) _
    have high : alloc.addr block + param.blockBytes layout.size ≤ param.endAddr := by
      rw [addr_add_blockBytes same own, ← stop, unitAddr_le_iff ordered]
      exact small
    obtain ⟨grant, member, met⟩ := all _ low aligned high
    exact met ((meets own small).mp clear grant member)

theorem request_refused_iff_page : ∃ (session : Session) (grant : Grant), session.grants = [grant] ∧
    ((∃ next, session.allocator.alloc page = some (none, next)) ↔
      ∀ ptr, heapParam.arenaAddr ≤ ptr →
        heapParam.blockBytes page.size ∣ ptr - heapParam.arenaAddr →
        ptr + heapParam.blockBytes page.size ≤ heapParam.endAddr →
        ¬heapParam.Separate grant ⟨page, ptr⟩) := by
  obtain ⟨session, grant, reachable, held, _⟩ := exists_grant page page_room
  have refused := request_refused_iff heapParam_fits heapParam_zero reachable page
  simp only [held, List.mem_singleton, exists_eq_left] at refused
  exact ⟨session, grant, held, refused⟩

/-- A call writes nothing into what is held before it and after it. -/
theorem step_keeps (fits : param.Fits)
    (zero : param.zeroFilled = true → ∀ address, memory.bytes address = 0#8)
    (reachable : Reachable param memory session) (step : Step session next) :
    ∃ before after, session.allocator.getOrInsert = some before ∧
      next.allocator.getOrInsert = some after ∧
      ∀ grant ∈ session.grants, grant ∈ next.grants →
        (∀ address, after.nodes address ≠ before.nodes address → address + nodeBytes ≤ grant.ptr ∨
          grant.ptr + param.blockBytes grant.layout.size ≤ address) ∧
        ∀ address, grant.ptr ≤ address → after.bytes address = before.bytes address := by
  obtain ⟨alloc, made, serves, same⟩ := reachable.sound fits zero
  have off {live : List Grant} {after : BuddyAlloc} (keeps : alloc.Keeps after (alloc.liveBlocks live))
      (grant : Grant) (held : grant ∈ session.grants) (stays : grant ∈ live) :
      (∀ address, after.nodes address ≠ alloc.nodes address → address + nodeBytes ≤ grant.ptr ∨
          grant.ptr + param.blockBytes grant.layout.size ≤ address) ∧
        ∀ address, grant.ptr ≤ address → after.bytes address = alloc.bytes address := by
    have placed := serves.placed grant held
    rw [Placed_stop same placed, ← placed.addr]
    refine ⟨fun address changed => keeps.nodes address changed _ ⟨grant, stays, rfl⟩, ?_⟩
    intro address behind
    exact keeps.bytes address ((Nat.le_add_right _ _).trans behind)
  cases step with
  | @granted request _ allocator call =>
      rw [UserAllocator.alloc_eq made] at call
      rcases serves.malloc request with ⟨_, result⟩ | ⟨_, after, _, _, _, result, _, keeps⟩
      · rw [result] at call
        cases call
      · rw [result] at call
        cases call
        exact ⟨alloc, after, made, rfl, fun grant held _ => off keeps grant held held⟩
  | @refused request allocator call =>
      rw [UserAllocator.alloc_eq made] at call
      rcases serves.malloc request with ⟨_, result⟩ | ⟨_, _, _, _, _, result, _, _⟩
      · rw [result] at call
        cases call
        exact ⟨alloc, alloc, made, rfl, fun grant held _ =>
          off (BuddyAlloc.Keeps.refl alloc _) grant held held⟩
      · rw [result] at call
        cases call
  | @returned before behind grant allocator held call =>
      have split := serves
      rw [held] at split
      obtain ⟨after, result, _, keeps⟩ := split.free
      rw [UserAllocator.dealloc_eq made, result] at call
      cases call
      exact ⟨alloc, after, made, rfl, fun grant member stays => off keeps grant member stays⟩

theorem step_keeps_page : ∃ (session next : Session) (grant : Grant) (before after : BuddyAlloc), grant ∈ session.grants ∧
    Step session next ∧ session.allocator.getOrInsert = some before ∧
    next.allocator.getOrInsert = some after ∧
    ∀ address, grant.ptr ≤ address → after.bytes address = before.bytes address := by
  obtain ⟨session, grant, reachable, held, _⟩ := exists_grant page page_room
  have member : grant ∈ session.grants := by rw [held]; exact List.mem_singleton_self _
  obtain ⟨next, step, stay⟩ := exists_step (reachable.sound heapParam_fits heapParam_zero) page
  obtain ⟨before, after, made, stored, keeps⟩ :=
    step_keeps heapParam_fits heapParam_zero reachable step
  exact ⟨session, next, grant, before, after, member, step, made, stored,
    (keeps grant member (stay grant member)).2⟩

end Session

end CSwitch.Alloc
