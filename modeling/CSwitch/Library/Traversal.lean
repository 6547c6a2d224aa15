import Mathlib

/-! Breadth-first traversal of a graph that is read node by node. Reading a node
can fail; such a node is not expanded. The queue may hold a node several times, but
every node is read at most once. -/

set_option autoImplicit false

namespace CSwitch.Library

variable {α : Type}

/-- The nodes that could be read, in the order in which they were. Without fuel for
the rest of the queue there is no answer. -/
def traverse [DecidableEq α] (read : α → Option (List α)) :
    Nat → List α → List α → List α → Option (List α)
  | _, [], _, out => some out
  | 0, _ :: _, _, _ => none
  | fuel + 1, node :: queue, visited, out =>
      if node ∈ visited then traverse read fuel queue visited out
      else
        match read node with
        | none => traverse read fuel queue (node :: visited) out
        | some next => traverse read fuel (queue ++ next) (node :: visited) (out ++ [node])

/-- A node that is listed by another one. -/
def Listed (read : α → Option (List α)) (node child : α) : Prop :=
  ∃ next, read node = some next ∧ child ∈ next

def FoundFrom (read : α → Option (List α)) : α → α → Prop := Relation.ReflTransGen (Listed read)

section Spec

variable {read : α → Option (List α)} {root : α}

structure Traversed (read : α → Option (List α)) (root : α) (queue visited out : List α) :
    Prop where
  found : ∀ node, node ∈ visited ∨ node ∈ queue → FoundFrom read root node
  start : root ∈ visited ∨ root ∈ queue
  closed : ∀ node ∈ visited, ∀ child, Listed read node child → child ∈ visited ∨ child ∈ queue
  once : out.Nodup
  out : ∀ node, node ∈ out ↔ node ∈ visited ∧ (read node).isSome = true

theorem traversed_start (read : α → Option (List α)) (root : α) :
    Traversed read root [root] [] [] where
  found node member := by
    rcases member with member | member
    · cases member
    · obtain rfl := List.mem_singleton.mp member
      exact .refl
  start := .inr (List.mem_singleton.mpr rfl)
  closed node member := absurd member List.not_mem_nil
  once := List.nodup_nil
  out node := by simp

variable {node : α} {next queue visited out : List α}

theorem Traversed.skip (holds : Traversed read root (node :: queue) visited out)
    (known : node ∈ visited) : Traversed read root queue visited out where
  found other member := holds.found other (member.imp id (List.mem_cons_of_mem node))
  start := by
    rcases holds.start with start | start
    · exact .inl start
    · rcases List.mem_cons.mp start with rfl | later
      · exact .inl known
      · exact .inr later
  closed other member child listed := by
    rcases holds.closed other member child listed with seen | queued
    · exact .inl seen
    · rcases List.mem_cons.mp queued with rfl | later
      · exact .inl known
      · exact .inr later
  once := holds.once
  out := holds.out

/-- A queued node is visited, and what it lists is queued. -/
theorem Traversed.visit (holds : Traversed read root (node :: queue) visited out)
    {more written : List α} (listed : ∀ child, Listed read node child ↔ child ∈ more)
    (once : written.Nodup)
    (members : ∀ other, other ∈ written ↔
      other ∈ node :: visited ∧ (read other).isSome = true) :
    Traversed read root (queue ++ more) (node :: visited) written where
  found other member := by
    have here : FoundFrom read root node := holds.found node (.inr List.mem_cons_self)
    rcases member with member | member
    · rcases List.mem_cons.mp member with rfl | earlier
      · exact here
      · exact holds.found other (.inl earlier)
    · rcases List.mem_append.mp member with queued | new
      · exact holds.found other (.inr (List.mem_cons_of_mem node queued))
      · exact here.tail ((listed other).mpr new)
  start := by
    rcases holds.start with start | start
    · exact .inl (List.mem_cons_of_mem node start)
    · rcases List.mem_cons.mp start with rfl | later
      · exact .inl List.mem_cons_self
      · exact .inr (List.mem_append_left more later)
  closed other member child edge := by
    rcases List.mem_cons.mp member with rfl | earlier
    · exact .inr (List.mem_append_right queue ((listed child).mp edge))
    · rcases holds.closed other earlier child edge with seen | queued
      · exact .inl (List.mem_cons_of_mem node seen)
      · rcases List.mem_cons.mp queued with rfl | later
        · exact .inl List.mem_cons_self
        · exact .inr (List.mem_append_left more later)
  once := once
  out := members

theorem Traversed.unreadable (holds : Traversed read root (node :: queue) visited out)
    (failed : read node = none) : Traversed read root queue (node :: visited) out := by
  have listed : ∀ child, Listed read node child ↔ child ∈ ([] : List α) := by
    intro child
    simp [Listed, failed]
  have members : ∀ other, other ∈ out ↔ other ∈ node :: visited ∧ (read other).isSome = true := by
    intro other
    constructor
    · intro member
      obtain ⟨seen, readable⟩ := (holds.out other).mp member
      exact ⟨List.mem_cons_of_mem node seen, readable⟩
    · intro seen
      cases List.mem_cons.mp seen.1 with
      | inl same =>
          subst same
          have unread := seen.2
          simp [failed] at unread
      | inr earlier => exact (holds.out other).mpr ⟨earlier, seen.2⟩
  have visited := holds.visit listed holds.once members
  rwa [List.append_nil] at visited

theorem Traversed.readable (holds : Traversed read root (node :: queue) visited out)
    (fresh : node ∉ visited) (found : read node = some next) :
    Traversed read root (queue ++ next) (node :: visited) (out ++ [node]) := by
  have listed : ∀ child, Listed read node child ↔ child ∈ next := by
    intro child
    simp [Listed, found]
  have new : node ∉ out := fun member => fresh ((holds.out node).mp member).1
  have once : (out ++ [node]).Nodup := by
    apply List.nodup_append.mpr ⟨holds.once, List.nodup_singleton node, ?_⟩
    intro earlier member other single same
    obtain rfl := List.mem_singleton.mp single
    exact new (same ▸ member)
  apply holds.visit listed once
  intro other
  constructor
  · intro member
    cases List.mem_append.mp member with
    | inl earlier =>
        obtain ⟨seen, readable⟩ := (holds.out other).mp earlier
        exact ⟨List.mem_cons_of_mem node seen, readable⟩
    | inr single =>
        obtain rfl := List.mem_singleton.mp single
        exact ⟨List.mem_cons_self, by simp [found]⟩
  · intro seen
    cases List.mem_cons.mp seen.1 with
    | inl same => exact List.mem_append_right out (List.mem_singleton.mpr same)
    | inr earlier => exact List.mem_append_left [node] ((holds.out other).mpr ⟨earlier, seen.2⟩)

theorem Traversed.visited_of_found (holds : Traversed read root [] visited out)
    (reached : FoundFrom read root node) : node ∈ visited := by
  have done : ∀ other, other ∈ visited ∨ other ∈ ([] : List α) → other ∈ visited := by
    intro other member
    exact member.resolve_right List.not_mem_nil
  induction reached with
  | refl => exact done root holds.start
  | tail earlier edge ih => exact done _ (holds.closed _ ih _ edge)

theorem Traversed.drained (holds : Traversed read root [] visited out) :
    out.Nodup ∧ ∀ node, node ∈ out ↔ FoundFrom read root node ∧ (read node).isSome = true := by
  refine ⟨holds.once, fun node => ⟨?_, ?_⟩⟩
  · intro member
    obtain ⟨seen, readable⟩ := (holds.out node).mp member
    exact ⟨holds.found node (.inl seen), readable⟩
  · intro reached
    exact (holds.out node).mpr ⟨holds.visited_of_found reached.1, reached.2⟩

variable [DecidableEq α]

/-- The traversal finds exactly the readable nodes that are found from the root, each once. -/
theorem Traversed.result (holds : Traversed read root queue visited out) {fuel : Nat}
    {result : List α} (done : traverse read fuel queue visited out = some result) :
    result.Nodup ∧
      ∀ node, node ∈ result ↔ FoundFrom read root node ∧ (read node).isSome = true := by
  induction fuel, queue, visited, out using traverse.induct read with
  | case1 fuel visited out =>
      cases fuel with
      | zero => exact Option.some.inj done ▸ holds.drained
      | succ fuel => exact Option.some.inj done ▸ holds.drained
  | case2 node queue visited out => cases done
  | case3 fuel node queue visited out known ih =>
      rw [traverse, if_pos known] at done
      exact ih (holds.skip known) done
  | case4 fuel node queue visited out fresh failed ih =>
      rw [traverse, if_neg fresh, failed] at done
      exact ih (holds.unreadable failed) done
  | case5 fuel node queue visited out fresh next found ih =>
      rw [traverse, if_neg fresh, found] at done
      exact ih (holds.readable fresh found) done

/-! ## Termination -/

/-- More fuel than was needed changes nothing. -/
theorem traverse_more {fuel more : Nat} {result : List α} (within : fuel ≤ more)
    (done : traverse read fuel queue visited out = some result) :
    traverse read more queue visited out = some result := by
  induction fuel, queue, visited, out using traverse.induct read generalizing more with
  | case1 fuel visited out =>
      cases fuel <;> cases more <;> exact done
  | case2 node queue visited out => cases done
  | case3 fuel node queue visited out known ih =>
      cases more with
      | zero => omega
      | succ more =>
          rw [traverse, if_pos known] at done ⊢
          exact ih (Nat.le_of_succ_le_succ within) done
  | case4 fuel node queue visited out fresh failed ih =>
      cases more with
      | zero => omega
      | succ more =>
          rw [traverse, if_neg fresh, failed] at done ⊢
          exact ih (Nat.le_of_succ_le_succ within) done
  | case5 fuel node queue visited out fresh next found ih =>
      cases more with
      | zero => omega
      | succ more =>
          rw [traverse, if_neg fresh, found] at done ⊢
          exact ih (Nat.le_of_succ_le_succ within) done

/-- How much a node puts into the queue. -/
def listedCount (read : α → Option (List α)) (node : α) : Nat :=
  match read node with
  | none => 0
  | some next => next.length

/-- Rounds still to come: the queue, and what the nodes still to be read put into it. -/
def remaining (read : α → Option (List α)) (nodes : Finset α) (queue visited : List α) : Nat :=
  queue.length + ∑ node ∈ nodes with node ∉ visited, listedCount read node

theorem remaining_visit {nodes : Finset α} (inside : node ∈ nodes) (fresh : node ∉ visited) :
    remaining read nodes (node :: queue) visited =
      1 + queue.length + listedCount read node +
        ∑ other ∈ nodes with other ∉ node :: visited, listedCount read other := by
  have split : (nodes.filter (· ∉ visited)) =
      insert node (nodes.filter (· ∉ node :: visited)) := by
    ext other
    simp only [Finset.mem_filter, Finset.mem_insert, List.mem_cons]
    by_cases same : other = node
    · subst same
      simp [inside, fresh]
    · simp [same]
  have absent : node ∉ nodes.filter (· ∉ node :: visited) := by simp
  rw [remaining, split, Finset.sum_insert absent, List.length_cons]
  omega

/-- Every round takes one node from the queue, and a node is expanded once. -/
theorem traverse_enough {nodes : Finset α}
    (closed : ∀ node ∈ nodes, ∀ child, Listed read node child → child ∈ nodes) {fuel : Nat}
    (inside : ∀ node ∈ queue, node ∈ nodes)
    (enough : remaining read nodes queue visited ≤ fuel) :
    (traverse read fuel queue visited out).isSome = true := by
  induction fuel, queue, visited, out using traverse.induct read with
  | case1 fuel visited out => cases fuel <;> rfl
  | case2 node queue visited out =>
      simp only [remaining, List.length_cons] at enough
      omega
  | case3 fuel node queue visited out known ih =>
      rw [traverse, if_pos known]
      apply ih fun other member => inside other (List.mem_cons_of_mem node member)
      simp only [remaining, List.length_cons] at enough ⊢
      omega
  | case4 fuel node queue visited out fresh failed ih =>
      rw [traverse, if_neg fresh, failed]
      apply ih fun other member => inside other (List.mem_cons_of_mem node member)
      rw [remaining_visit (inside node List.mem_cons_self) fresh] at enough
      rw [remaining]
      omega
  | case5 fuel node queue visited out fresh next found ih =>
      rw [traverse, if_neg fresh, found]
      have here : node ∈ nodes := inside node List.mem_cons_self
      apply ih
      · intro other member
        cases List.mem_append.mp member with
        | inl queued => exact inside other (List.mem_cons_of_mem node queued)
        | inr new => exact closed node here other ⟨next, found, new⟩
      · have count : listedCount read node = next.length := by rw [listedCount, found]
        rw [remaining_visit here fresh, count] at enough
        rw [remaining, List.length_append]
        omega

end Spec

end CSwitch.Library
