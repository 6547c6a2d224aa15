import CSwitch.Machine
import CSwitch.Library.RingList
import CSwitch.Library.BitArray

/-! The buddy allocator that serves all of the scheduler's memory. A debug
assertion or a panic is `none`; a null pointer is `none` inside. The lists link
the free blocks themselves and the bit arrays lie in front of them. -/

set_option autoImplicit false

namespace CSwitch.Alloc

open Library

def minLeafSizeAlign : Nat := 16

/-- `size_of::<Entry>()` and `size_of::<Node>()`. -/
def entryBytes : Nat := 24
def nodeBytes : Nat := 16

def blockSize2base (k leaf2base : Nat) : Nat := (1 <<< k) <<< leaf2base

def nblock (k entriesSize : Nat) : Nat := 1 <<< (entriesSize - k - 1)

/-- `n` is positive at every call: an address or a number of blocks. -/
def roundup (n sz2base : Nat) : Nat := (((n - 1) >>> sz2base) + 1) <<< sz2base

/-- `log2`; of zero it is zero. -/
def log2 (n : Nat) : Nat := Nat.log2 n

/-- The loop of `first_up_k`. A `usize` loses the bits that are shifted out. -/
def firstUpKFrom (n : Nat) : (rounds k size : Nat) → Option Nat
  | 0, _, _ => none
  | rounds + 1, k, size =>
      if size < n then firstUpKFrom n rounds (k + 1) ((size <<< 1) % (u64Max + 1)) else some k

/-- `first_up_k`. After 64 rounds the size is zero, and the loop goes on for ever. -/
def firstUpK (n leafSize : Nat) : Option Nat := firstUpKFrom n 65 0 leafSize

/-- The pointers of an entry: the head of its list and its two bit arrays. -/
structure Entry where
  free : Nat := 0
  alloc : Nat := 0
  split : Nat := 0

/-- `BuddyAllocParam`; the start of the memory is not null. -/
structure BuddyAllocParam where
  baseAddr : Nat
  len : Nat
  leafSize : Nat
  zeroFilled : Bool := false
  notNull : baseAddr ≠ 0

/-- The fields of `BuddyAlloc` that are written by `new` only. -/
structure BuddyLayout where
  baseAddr : Nat
  endAddr : Nat
  entries : Nat → Entry
  entriesSize : Nat
  leaf2base : Nat

/-- `BuddyAlloc`, with the memory that it manages: the links in it as the nodes
of the lists, and the bytes of the bit arrays. -/
structure BuddyAlloc extends BuddyLayout where
  unavailable : Nat := 0
  nodes : NodeHeap
  bytes : Bytes

namespace BuddyLayout

variable (layout : BuddyLayout)

def entry (i : Nat) : Option Entry :=
  if i < layout.entriesSize then some (layout.entries i) else none

def blockIndex (k p : Nat) : Option Nat :=
  if p < layout.baseAddr then none
  else
    let n := p - layout.baseAddr
    let index := (n >>> k) >>> layout.leaf2base
    if index < nblock k layout.entriesSize then some index else none

def blockAddr (k i : Nat) : Nat := layout.baseAddr + (i <<< k) <<< layout.leaf2base

end BuddyLayout

namespace BuddyAlloc

variable (alloc : BuddyAlloc)

def bitIsset (bits i : Nat) : Bool := alloc.bytes.isSet bits i

def bitSet (bits i : Nat) : BuddyAlloc := { alloc with bytes := alloc.bytes.setBit bits i }

def bitClear (bits i : Nat) : Option BuddyAlloc :=
  if alloc.bitIsset bits i then some { alloc with bytes := alloc.bytes.clearBit bits i } else none

def push (list p : Nat) : BuddyAlloc := { alloc with nodes := alloc.nodes.push list p }

def remove (list : Nat) : BuddyAlloc := { alloc with nodes := alloc.nodes.remove list }

def pop (list : Nat) : Option (Nat × BuddyAlloc) :=
  if alloc.nodes.isEmptyRing list then none
  else
    let nList := (alloc.nodes list).next
    some (nList, alloc.remove nList)

/-! ## Taking a block -/

/-- The loop of `malloc`: the block is halved down to level `fk`. -/
def splitTo (p fk : Nat) : Nat → BuddyAlloc → Option BuddyAlloc
  | 0, alloc => some alloc
  | k + 1, alloc =>
      if fk < k + 1 then do
        let q := p + blockSize2base k alloc.leaf2base
        let entry ← alloc.entry (k + 1)
        let alloc := alloc.bitSet entry.split (← alloc.blockIndex (k + 1) p)
        let parentEntry ← alloc.entry k
        let alloc := alloc.bitSet parentEntry.alloc (← alloc.blockIndex k p)
        if alloc.bitIsset parentEntry.alloc (← alloc.blockIndex k q) then none
        else splitTo p fk k (alloc.push parentEntry.free q)
      else some alloc

def malloc (nbytes : Nat) : Option (Option Nat × BuddyAlloc) := do
  let fk ← firstUpK nbytes (1 <<< alloc.leaf2base)
  match (List.range' fk (alloc.entriesSize - fk)).find? fun k =>
      !alloc.nodes.isEmptyRing (alloc.entries k).free with
  | none => some (none, alloc)
  | some k =>
      let entry ← alloc.entry k
      let (p, alloc) ← alloc.pop entry.free
      let alloc := alloc.bitSet entry.alloc (← alloc.blockIndex k p)
      let alloc ← splitTo p fk k alloc
      if (p >>> alloc.leaf2base) <<< alloc.leaf2base = p then some (some p, alloc) else none

/-! ## Giving a block back -/

/-- The loop of `find_k_for_p` with `rounds` levels to go. -/
def findKFrom (p : Nat) : (rounds k : Nat) → Option Nat
  | 0, _ => some 0
  | rounds + 1, k => do
      let parentEntry ← alloc.entry (k + 1)
      if alloc.bitIsset parentEntry.split (← alloc.blockIndex (k + 1) p) then
        let entry ← alloc.entry k
        if alloc.bitIsset entry.alloc (← alloc.blockIndex k p) then some k else none
      else findKFrom p rounds (k + 1)

def findKForP (p : Nat) : Option Nat := alloc.findKFrom p (alloc.entriesSize - 1) 0

/-- The end of `free`. -/
def pushFree (p k : Nat) : Option BuddyAlloc := do
  let entry ← alloc.entry k
  if alloc.bitIsset entry.alloc (← alloc.blockIndex k p) then none
  else some (alloc.push entry.free p)

/-- The loop of `free` with `rounds` levels up to the last: `k + rounds` is
`entries_size - 1`. -/
def mergeFrom : (rounds k p : Nat) → BuddyAlloc → Option BuddyAlloc
  | 0, k, p, alloc => alloc.pushFree p k
  | rounds + 1, k, p, alloc => do
      let blockIndex ← alloc.blockIndex k p
      let entry ← alloc.entry k
      let alloc ← alloc.bitClear entry.alloc blockIndex
      let isHead := blockIndex &&& 1 = 0
      let buddy := if isHead then blockIndex + 1 else blockIndex - 1
      if alloc.bitIsset entry.alloc buddy then alloc.pushFree p k
      else
        let q := alloc.blockAddr k buddy
        let alloc := alloc.remove q
        let p := if isHead then p else q
        let parentEntry ← alloc.entry (k + 1)
        let alloc ← alloc.bitClear parentEntry.split (← alloc.blockIndex (k + 1) p)
        mergeFrom rounds (k + 1) p alloc

def free (p : Nat) : Option BuddyAlloc := do
  let k ← alloc.findKForP p
  mergeFrom (alloc.entriesSize - 1 - k) k p alloc

/-! ## Setting up -/

/-- The inner loop of `init_free_list`: blocks of one level while they fit. -/
def fillLevel (k : Nat) (entry parentEntry : Entry) :
    (rounds base : Nat) → BuddyAlloc → Option (Nat × BuddyAlloc)
  | 0, base, alloc => some (base, alloc)
  | rounds + 1, base, alloc =>
      let blockSize := blockSize2base k alloc.leaf2base
      if base + blockSize ≤ alloc.endAddr then do
        let blockIndex ← alloc.blockIndex k base
        if alloc.bitIsset entry.alloc blockIndex then none
        else
          let alloc := alloc.push entry.free base
          let alloc ←
            if blockIndex &&& 1 = 0 then do
              let parentIndex ← alloc.blockIndex (k + 1) base
              some ((alloc.bitSet parentEntry.alloc parentIndex).bitSet parentEntry.split parentIndex)
            else some alloc
          fillLevel k entry parentEntry rounds (base + blockSize) alloc
      else some (base, alloc)

/-- The outer loop of `init_free_list`, from level `levels - 1` down. -/
def fillFrom : (levels base : Nat) → BuddyAlloc → Option (Nat × BuddyAlloc)
  | 0, base, alloc => some (base, alloc)
  | k + 1, base, alloc => do
      let entry ← alloc.entry k
      let parentEntry ← alloc.entry (k + 1)
      -- every round of the inner loop goes one block further
      let (base, alloc) ← fillLevel k entry parentEntry (alloc.endAddr - base) base alloc
      let unavailableBlockIndex ← alloc.blockIndex k base
      fillFrom k base (alloc.bitSet entry.alloc unavailableBlockIndex)

def initFreeList : Option BuddyAlloc := do
  let (base, alloc) ← fillFrom (alloc.entriesSize - 1) alloc.baseAddr alloc
  some { alloc with unavailable := alloc.endAddr - base }

/-- The bytes for one bit for each block of level `k`. -/
def bitBytes (k entriesSize : Nat) : Nat := roundup (nblock k entriesSize) 3 >>> 3

end BuddyAlloc

/-- What the three loops of `new` differ in: the bytes for a level, the pointer
that is set and what is written there. -/
structure Part where
  size : Nat → Nat
  store : Entry → Nat → Entry
  nodes : Nat → NodeHeap → NodeHeap := fun _ heap => heap
  bytes : Nat → Nat → Bytes → Bytes := fun _ _ bytes => bytes

namespace Part

def free : Part where
  size _ := nodeBytes
  store entry base := { entry with free := base }
  nodes base heap := heap.initRing base

def alloc (zeroFilled : Bool) (entriesSize : Nat) : Part where
  size k := BuddyAlloc.bitBytes k entriesSize
  store entry base := { entry with alloc := base }
  bytes base usedBytes bytes := if zeroFilled then bytes else bytes.zero base usedBytes

def split (zeroFilled : Bool) (entriesSize : Nat) : Part :=
  { alloc zeroFilled entriesSize with store entry base := { entry with split := base } }

/-- Such a loop, from level `k` on. -/
def layOut (part : Part) : (rounds k base : Nat) → BuddyAlloc → Option (Nat × BuddyAlloc)
  | 0, _, base, alloc => some (base, alloc)
  | rounds + 1, k, base, alloc =>
      if alloc.endAddr < base + part.size k then none
      else
        part.layOut rounds (k + 1) (base + part.size k) { alloc with
          entries := Function.update alloc.entries k (part.store (alloc.entries k) base)
          nodes := part.nodes base alloc.nodes
          bytes := part.bytes base (part.size k) alloc.bytes }

end Part

namespace BuddyAlloc

/-- What the memory holds before it is given to the allocator. -/
structure Memory where
  entries : Nat → Entry := fun _ => {}
  nodes : NodeHeap := ⟨fun _ => ⟨0, 0⟩⟩
  bytes : Bytes := ⟨fun _ => 0#8⟩

/-- `BuddyAlloc::new`. The difference of the addresses must not overflow. -/
def new (param : BuddyAllocParam) (memory : Memory) : Option BuddyAlloc :=
  let endAddr := param.baseAddr + param.len
  if param.leafSize % minLeafSizeAlign = 0 ∧ param.leafSize ≠ 0 then
    let leaf2base := log2 param.leafSize
    let base := roundup param.baseAddr leaf2base
    if endAddr < base then none
    else
      let entriesSize := log2 ((endAddr - base) >>> leaf2base) + 2
      let usedBytes := entryBytes * entriesSize
      if endAddr < base + usedBytes then none
      else do
        let alloc : BuddyAlloc :=
          { baseAddr := 0, endAddr, entriesSize, leaf2base, entries := memory.entries,
            nodes := memory.nodes, bytes := memory.bytes }
        let (base, alloc) ← Part.free.layOut entriesSize 0 (base + usedBytes) alloc
        let (base, alloc) ← (Part.alloc param.zeroFilled entriesSize).layOut entriesSize 0 base alloc
        let (base, alloc) ← (Part.split param.zeroFilled entriesSize).layOut (entriesSize - 1) 1 base alloc
        let base := roundup base leaf2base
        if endAddr < base then none
        else if (base >>> leaf2base) <<< leaf2base = base then
          initFreeList { alloc with baseAddr := base }
        else none
  else none

end BuddyAlloc

/-! ## The global allocator -/

/-- `isize::MAX`. -/
def isizeMax : Nat := 9223372036854775807

/-- `Layout`: no object is larger than `isize::MAX`. -/
structure Layout where
  size : Nat
  align : Nat := 1
  fits : size ≤ isizeMax

/-- `UserAllocator`; the buddy allocator is made at the first call. The lock
makes the calls follow one another. -/
structure UserAllocator where
  buddyAllocParam : BuddyAllocParam
  memory : BuddyAlloc.Memory
  innerBuddyAlloc : Option BuddyAlloc := none

namespace UserAllocator

variable (allocator : UserAllocator)

/-- `get_or_insert_with`. -/
def getOrInsert : Option BuddyAlloc :=
  match allocator.innerBuddyAlloc with
  | some inner => some inner
  | none => BuddyAlloc.new allocator.buddyAllocParam allocator.memory

def fetchBuddyAlloc {α : Type} (f : BuddyAlloc → Option (α × BuddyAlloc)) :
    Option (α × UserAllocator) := do
  let inner ← allocator.getOrInsert
  let (result, inner) ← f inner
  some (result, { allocator with innerBuddyAlloc := some inner })

def alloc (layout : Layout) : Option (Option Nat × UserAllocator) :=
  allocator.fetchBuddyAlloc fun buddy => buddy.malloc layout.size

def dealloc (ptr : Nat) : Option (Unit × UserAllocator) :=
  allocator.fetchBuddyAlloc fun buddy => (buddy.free ptr).map ((), ·)

end UserAllocator

def heapSize : Nat := 64 * 1024 * 1024

def leafSize : Nat := 64

/-- The parameters of `ALLOCATOR`. The heap is a static, aligned to 4096 bytes. -/
def allocatorParam (heap : Nat) (notNull : heap ≠ 0) : BuddyAllocParam where
  baseAddr := heap
  len := heapSize
  leafSize
  notNull

end CSwitch.Alloc
