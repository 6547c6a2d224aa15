import Mathlib

/-! Circular doubly linked lists whose nodes are the memory they link. A list is
its head, which is no item, and the addresses of its items in order. -/

set_option autoImplicit false

namespace CSwitch.Library

structure Node where
  next : Nat
  prev : Nat

/-- The memory, as the node that starts at every address. -/
structure NodeHeap where
  node : Nat → Node

instance : CoeFun NodeHeap fun _ => Nat → Node := ⟨NodeHeap.node⟩

namespace NodeHeap

variable (heap : NodeHeap)

def write (address : Nat) (node : Node) : NodeHeap := ⟨Function.update heap.node address node⟩

def setNext (address next : Nat) : NodeHeap := heap.write address { heap address with next }

def setPrev (address prev : Nat) : NodeHeap := heap.write address { heap address with prev }

/-- The empty list of a head. -/
def initRing (head : Nat) : NodeHeap := (heap.setNext head head).setPrev head head

/-- Takes a node out of the list that it is in. -/
def remove (node : Nat) : NodeHeap :=
  let heap := heap.setNext (heap node).prev (heap node).next
  heap.setPrev (heap node).next (heap node).prev

/-- Puts a node in front of the list. -/
def push (head node : Nat) : NodeHeap :=
  let heap := heap.write node { prev := head, next := (heap head).next }
  let heap := heap.setPrev (heap head).next node
  heap.setNext head node

def isEmptyRing (head : Nat) : Bool := (heap head).next == head

variable {heap}

@[simp] theorem write_self (address : Nat) (node : Node) : heap.write address node address = node :=
  Function.update_self _ _ _

theorem write_of_ne {address other : Nat} {node : Node} (apart : other ≠ address) :
    heap.write address node other = heap other :=
  Function.update_of_ne apart _ _

@[simp] theorem setNext_next (address next other : Nat) :
    (heap.setNext address next other).next = if other = address then next else (heap other).next := by
  unfold setNext
  by_cases same : other = address
  · subst same
    simp
  · simp [write_of_ne same, same]

@[simp] theorem setNext_prev (address next other : Nat) :
    (heap.setNext address next other).prev = (heap other).prev := by
  unfold setNext
  by_cases same : other = address
  · subst same
    simp
  · simp [write_of_ne same]

@[simp] theorem setPrev_prev (address prev other : Nat) :
    (heap.setPrev address prev other).prev = if other = address then prev else (heap other).prev := by
  unfold setPrev
  by_cases same : other = address
  · subst same
    simp
  · simp [write_of_ne same, same]

@[simp] theorem setPrev_next (address prev other : Nat) :
    (heap.setPrev address prev other).next = (heap other).next := by
  unfold setPrev
  by_cases same : other = address
  · subst same
    simp
  · simp [write_of_ne same]

section Links

variable {head node other : Nat}

theorem remove_next (apart : (heap node).prev ≠ node) :
    (heap.remove node other).next =
      if other = (heap node).prev then (heap node).next else (heap other).next := by
  unfold remove
  simp [apart.symm]

theorem remove_prev (apart : (heap node).prev ≠ node) :
    (heap.remove node other).prev =
      if other = (heap node).next then (heap node).prev else (heap other).prev := by
  unfold remove
  simp [apart.symm]

theorem push_next (apart : node ≠ head) :
    (heap.push head node other).next =
      if other = head then node else if other = node then (heap head).next
        else (heap other).next := by
  unfold push
  by_cases own : other = node
  · subst own
    simp [apart]
  · simp [write_of_ne own, own]

theorem push_prev (apart : node ≠ head) :
    (heap.push head node other).prev =
      if other = (heap head).next then node else if other = node then head
        else (heap other).prev := by
  unfold push
  by_cases own : other = node
  · subst own
    simp [write_of_ne apart.symm]
  · simp [write_of_ne own, own, write_of_ne apart.symm]

end Links

theorem setNext_of_ne {address next other : Nat} (apart : other ≠ address) :
    heap.setNext address next other = heap other :=
  write_of_ne apart

theorem setPrev_of_ne {address prev other : Nat} (apart : other ≠ address) :
    heap.setPrev address prev other = heap other :=
  write_of_ne apart

end NodeHeap

/-! ## Chains -/

/-- Each of the two nodes names the other. -/
structure Linked (heap : NodeHeap) (left right : Nat) : Prop where
  next : (heap left).next = right
  prev : (heap right).prev = left

/-- The items lead from one node to another. -/
inductive Chain (heap : NodeHeap) : Nat → List Nat → Nat → Prop where
  | nil {first last} : Linked heap first last → Chain heap first [] last
  | cons {first item items last} :
      Linked heap first item → Chain heap item items last → Chain heap first (item :: items) last

namespace Chain

variable {heap after : NodeHeap} {first middle last target : Nat} {items left right : List Nat}

theorem append (before : Chain heap first left middle) (rest : Chain heap middle right last) :
    Chain heap first (left ++ middle :: right) last := by
  induction before with
  | nil linked => exact .cons linked rest
  | cons linked _ ih => exact .cons linked (ih rest)

theorem split (chain : Chain heap first (left ++ middle :: right) last) :
    Chain heap first left middle ∧ Chain heap middle right last := by
  induction left generalizing first with
  | nil =>
      cases chain with
      | cons linked rest => exact ⟨.nil linked, rest⟩
  | cons item left ih =>
      cases chain with
      | cons linked rest =>
          obtain ⟨before, behind⟩ := ih rest
          exact ⟨.cons linked before, behind⟩

/-- A chain reads the forward links of all but its end and the backward links of
all but its start. -/
theorem frame (chain : Chain heap first items last)
    (next : ∀ node ∈ first :: items, (after node).next = (heap node).next)
    (prev : ∀ node ∈ items ++ [last], (after node).prev = (heap node).prev) :
    Chain after first items last := by
  induction chain with
  | nil linked =>
      refine .nil ⟨?_, ?_⟩
      · rw [next _ List.mem_cons_self, linked.next]
      · rw [prev _ (by simp), linked.prev]
  | cons linked rest ih =>
      refine .cons ⟨?_, ?_⟩ (ih ?_ ?_)
      · rw [next _ List.mem_cons_self, linked.next]
      · rw [prev _ (by simp), linked.prev]
      · exact fun node member => next node (List.mem_cons_of_mem _ member)
      · exact fun node member => prev node (List.mem_cons_of_mem _ member)

theorem prev_mem (chain : Chain heap first items last) : (heap last).prev ∈ first :: items := by
  induction chain with
  | nil linked =>
      rw [linked.prev]
      exact List.mem_cons_self
  | cons _ _ ih => exact List.mem_cons_of_mem _ ih

theorem next_mem (chain : Chain heap first items last) : (heap first).next ∈ items ++ [last] := by
  cases chain with
  | nil linked => simp [linked.next]
  | cons linked _ => simp [linked.next]

/-- The last link of a chain is bent to another node. -/
theorem redirect (chain : Chain heap first items last) (distinct : (first :: items).Nodup)
    (next : ∀ node ∈ first :: items, node ≠ (heap last).prev →
      (after node).next = (heap node).next)
    (prev : ∀ node ∈ items, (after node).prev = (heap node).prev)
    (link : Linked after (heap last).prev target) : Chain after first items target := by
  induction chain with
  | nil linked =>
      rw [linked.prev] at link
      exact .nil link
  | cons linked rest ih =>
      obtain ⟨absent, distinct⟩ := List.nodup_cons.mp distinct
      refine .cons ⟨?_, ?_⟩ (ih distinct ?_ ?_ link)
      · rw [next _ List.mem_cons_self fun same => absent (same ▸ rest.prev_mem), linked.next]
      · rw [prev _ List.mem_cons_self, linked.prev]
      · exact fun node member => next node (List.mem_cons_of_mem _ member)
      · exact fun node member => prev node (List.mem_cons_of_mem _ member)

end Chain

/-! ## Rings -/

/-- The list of a head holds the items. -/
structure Ring (heap : NodeHeap) (head : Nat) (items : List Nat) : Prop where
  chain : Chain heap head items head
  distinct : (head :: items).Nodup

namespace Ring

variable {heap after : NodeHeap} {head node : Nat} {items before behind : List Nat}

theorem frame (ring : Ring heap head items) (same : ∀ node ∈ head :: items, after node = heap node) :
    Ring after head items := by
  refine ⟨ring.chain.frame ?_ ?_, ring.distinct⟩
  · intro node member
    rw [same node member]
  · intro node member
    rw [same node (by simpa [or_comm] using member)]

theorem init (heap : NodeHeap) (head : Nat) : Ring (heap.initRing head) head [] := by
  refine ⟨.nil ⟨?_, ?_⟩, by simp⟩
  · simp [NodeHeap.initRing]
  · simp [NodeHeap.initRing]

theorem isEmpty_iff (ring : Ring heap head items) : heap.isEmptyRing head = true ↔ items = [] := by
  unfold NodeHeap.isEmptyRing
  rw [beq_iff_eq]
  obtain ⟨chain, distinct⟩ := ring
  cases chain with
  | nil linked => simp [linked.next]
  | cons linked _ =>
      have apart := (List.nodup_cons.mp distinct).1
      simp only [List.mem_cons, not_or] at apart
      simp [linked.next, Ne.symm apart.1]

theorem first (ring : Ring heap head (node :: items)) : (heap head).next = node := by
  cases ring.chain with
  | cons linked _ => exact linked.next

theorem push (ring : Ring heap head items) (fresh : node ∉ head :: items) :
    Ring (heap.push head node) head (node :: items) := by
  obtain ⟨chain, distinct⟩ := ring
  have apart : node ≠ head := fun same => fresh (same ▸ List.mem_cons_self)
  have absent : node ∉ items := fun member => fresh (List.mem_cons_of_mem _ member)
  have front : Linked (heap.push head node) head node := by
    constructor
    · rw [NodeHeap.push_next apart, if_pos rfl]
    · rw [NodeHeap.push_prev apart, if_neg, if_pos rfl]
      intro same
      have member := chain.next_mem
      rw [← same] at member
      simp [absent, apart] at member
  have behind : Linked (heap.push head node) node (heap head).next := by
    constructor
    · rw [NodeHeap.push_next apart, if_neg apart, if_pos rfl]
    · rw [NodeHeap.push_prev apart, if_pos rfl]
  refine ⟨.cons front ?_, ?_⟩
  · cases chain with
    | nil linked =>
        rw [linked.next] at behind
        exact .nil behind
    | @cons _ item rest _ linked chain =>
        rw [linked.next] at behind
        refine .cons behind (chain.frame ?_ ?_)
        · intro other member
          have away : other ≠ node := fun same => absent (same ▸ member)
          have inside : other ≠ head := fun same =>
            (List.nodup_cons.mp distinct).1 (same ▸ member)
          rw [NodeHeap.push_next apart, if_neg inside, if_neg away]
        · intro other member
          have away : other ≠ node := by
            rintro rfl
            have : other ∈ rest ∨ other = head := by simpa using member
            cases this with
            | inl inner => exact absent (List.mem_cons_of_mem _ inner)
            | inr same => exact apart same
          have later : other ≠ item := by
            rintro rfl
            have : other ∈ rest ∨ other = head := by simpa using member
            cases this with
            | inl inner =>
                exact (List.nodup_cons.mp (List.nodup_cons.mp distinct).2).1 inner
            | inr same => exact (List.nodup_cons.mp distinct).1 (same ▸ List.mem_cons_self)
          rw [NodeHeap.push_prev apart, linked.next, if_neg later, if_neg away]
  · refine List.nodup_cons.mpr ⟨?_, List.nodup_cons.mpr ⟨absent, (List.nodup_cons.mp distinct).2⟩⟩
    simp [apart.symm, (List.nodup_cons.mp distinct).1]

theorem remove (ring : Ring heap head (before ++ node :: behind)) :
    Ring (heap.remove node) head (before ++ behind) := by
  obtain ⟨chain, distinct⟩ := ring
  obtain ⟨left, right⟩ := chain.split
  obtain ⟨headDistinct, nodeDistinct, across⟩ :=
    List.nodup_append.mp (show (head :: before ++ node :: behind).Nodup from distinct)
  obtain ⟨nodeAway, behindDistinct⟩ := List.nodup_cons.mp nodeDistinct
  have absent : node ∉ head :: before := fun member =>
    across node member node List.mem_cons_self rfl
  have apart : (heap node).prev ≠ node := fun same => absent (same ▸ left.prev_mem)
  have shorter : (head :: (before ++ behind)).Nodup := by
    refine List.nodup_append.mpr ⟨headDistinct, behindDistinct, ?_⟩
    intro one member other later
    exact across one member other (List.mem_cons_of_mem _ later)
  refine ⟨?_, shorter⟩
  -- the last link before the node is bent to what follows it
  have bent : Chain (heap.remove node) head before (heap node).next := by
    refine left.redirect headDistinct ?_ ?_ ⟨?_, ?_⟩
    · intro other _ different
      rw [NodeHeap.remove_next apart, if_neg different]
    · intro other member
      rw [NodeHeap.remove_prev apart, if_neg]
      rintro rfl
      have follows := right.next_mem
      rw [List.mem_append, List.mem_singleton] at follows
      cases follows with
      | inl later =>
          exact across _ (List.mem_cons_of_mem _ member) _ (List.mem_cons_of_mem _ later) rfl
      | inr same => exact (List.nodup_cons.mp headDistinct).1 (same ▸ member)
    · rw [NodeHeap.remove_next apart, if_pos rfl]
    · rw [NodeHeap.remove_prev apart, if_pos rfl]
  cases right with
  | nil linked =>
      rw [linked.next] at bent
      rw [List.append_nil]
      exact bent
  | @cons _ item rest _ linked chain =>
      rw [linked.next] at bent
      refine bent.append (chain.frame ?_ ?_)
      · intro other member
        rw [NodeHeap.remove_next apart, if_neg]
        rintro rfl
        exact across _ left.prev_mem _ (List.mem_cons_of_mem _ member) rfl
      · intro other member
        rw [NodeHeap.remove_prev apart, linked.next, if_neg]
        rintro rfl
        rw [List.mem_append, List.mem_singleton] at member
        cases member with
        | inl later => exact (List.nodup_cons.mp behindDistinct).1 later
        | inr same =>
            exact across _ (same ▸ List.mem_cons_self) _
              (List.mem_cons_of_mem _ List.mem_cons_self) rfl

/-- A push writes to the node, the head and the old first item only. -/
theorem push_frame (ring : Ring heap head items) (apart : node ≠ head) {other : Nat}
    (own : other ≠ node) (outside : other ∉ head :: items) :
    heap.push head node other = heap other := by
  have first : (heap head).next ∈ head :: items := by
    simpa [or_comm] using ring.chain.next_mem
  have notHead : other ≠ head := fun same => outside (same ▸ List.mem_cons_self)
  have notFirst : other ≠ (heap head).next := fun same => outside (same ▸ first)
  unfold NodeHeap.push
  rw [NodeHeap.setNext_of_ne notHead, NodeHeap.write_of_ne apart.symm,
    NodeHeap.setPrev_of_ne notFirst, NodeHeap.write_of_ne own]

/-- A removal writes to the two neighbours of the node only. -/
theorem remove_frame (ring : Ring heap head (before ++ node :: behind)) {other : Nat}
    (outside : other ∉ head :: (before ++ behind)) : heap.remove node other = heap other := by
  obtain ⟨chain, distinct⟩ := ring
  obtain ⟨left, right⟩ := chain.split
  have prev : (heap node).prev ∈ head :: (before ++ behind) := by
    have member := left.prev_mem
    rw [List.mem_cons] at member ⊢
    exact member.imp_right (List.mem_append_left _)
  have next : (heap node).next ∈ head :: (before ++ behind) := by
    have member := right.next_mem
    rw [List.mem_append, List.mem_singleton] at member
    rw [List.mem_cons]
    exact member.symm.imp_right (List.mem_append_right _)
  have absent : node ∉ head :: before := fun member =>
    (List.nodup_append.mp (show (head :: before ++ node :: behind).Nodup from distinct)).2.2
      node member node List.mem_cons_self rfl
  have apart : node ≠ (heap node).prev := fun same => absent (same ▸ left.prev_mem)
  unfold NodeHeap.remove
  rw [NodeHeap.setPrev_of_ne, NodeHeap.setNext_of_ne]
  · exact fun same => outside (same ▸ prev)
  · rw [NodeHeap.setNext_of_ne apart]
    exact fun same => outside (same ▸ next)

end Ring

/-! ## Several lists in one memory -/

/-- The lists of the first `count` heads, no two of which share a node. -/
structure Rings (heap : NodeHeap) (count : Nat) (heads : Nat → Nat) (items : Nat → List Nat) :
    Prop where
  ring : ∀ key < count, Ring heap (heads key) (items key)
  apart : ∀ left < count, ∀ right < count, left ≠ right →
    List.Disjoint (heads left :: items left) (heads right :: items right)

namespace Rings

variable {heap : NodeHeap} {count key node : Nat} {heads : Nat → Nat} {items : Nat → List Nat}

theorem push (rings : Rings heap count heads items) (bound : key < count)
    (fresh : ∀ other < count, node ∉ heads other :: items other) :
    Rings (heap.push (heads key) node) count heads
      (Function.update items key (node :: items key)) := by
  constructor
  · intro other within
    by_cases same : other = key
    · subst same
      rw [Function.update_self]
      exact (rings.ring other within).push (fresh other within)
    · rw [Function.update_of_ne same]
      refine (rings.ring other within).frame fun address member => ?_
      refine (rings.ring key bound).push_frame ?_ ?_ ?_
      · exact fun own => fresh key bound (own ▸ List.mem_cons_self)
      · exact fun own => fresh other within (own ▸ member)
      · exact rings.apart other within key bound same member
  · have grown : ∀ other < count, ∀ address,
        address ∈ heads other :: Function.update items key (node :: items key) other →
          address ∈ heads other :: items other ∨ (other = key ∧ address = node) := by
      intro other _ address member
      by_cases same : other = key
      · subst same
        rw [Function.update_self] at member
        simp only [List.mem_cons] at member ⊢
        tauto
      · rw [Function.update_of_ne same] at member
        exact .inl member
    intro left leftBound right rightBound different address inLeft inRight
    cases grown left leftBound address inLeft with
    | inl before =>
        cases grown right rightBound address inRight with
        | inl other => exact rings.apart left leftBound right rightBound different before other
        | inr new => exact fresh left leftBound (new.2 ▸ before)
    | inr new =>
        cases grown right rightBound address inRight with
        | inl other => exact fresh right rightBound (new.2 ▸ other)
        | inr other => exact different (new.1.trans other.1.symm)

theorem remove (rings : Rings heap count heads items) (bound : key < count)
    (member : node ∈ items key) :
    Rings (heap.remove node) count heads (Function.update items key ((items key).erase node)) := by
  have ring := rings.ring key bound
  obtain ⟨before, behind, parts⟩ := List.append_of_mem member
  have erased : (items key).erase node = before ++ behind := by
    have distinct := (List.nodup_cons.mp ring.distinct).2
    rw [parts] at distinct ⊢
    have absent : node ∉ before := fun early =>
      (List.nodup_append.mp distinct).2.2 node early node List.mem_cons_self rfl
    rw [List.erase_append_right _ absent, List.erase_cons_head]
  rw [parts] at ring
  constructor
  · intro other within
    by_cases same : other = key
    · subst same
      rw [Function.update_self, erased]
      exact ring.remove
    · rw [Function.update_of_ne same]
      refine (rings.ring other within).frame fun address inside => ?_
      refine ring.remove_frame fun outside => ?_
      refine rings.apart other within key bound same inside ?_
      rw [parts]
      simp only [List.mem_cons, List.mem_append] at outside ⊢
      tauto
  · have shrunk : ∀ other, Function.update items key ((items key).erase node) other ⊆ items other := by
      intro other
      by_cases same : other = key
      · subst same
        rw [Function.update_self]
        exact List.erase_subset
      · rw [Function.update_of_ne same]
        exact List.Subset.refl _
    intro left leftBound right rightBound different address inLeft inRight
    exact rings.apart left leftBound right rightBound different
      (List.cons_subset_cons _ (shrunk left) inLeft) (List.cons_subset_cons _ (shrunk right) inRight)

end Rings

end CSwitch.Library
