import Mathlib

/-! A round of work over a queue. Every iteration picks one pending item and
settles it: the item is sent, deferred, dropped, or put back at the front when
sending fails, which ends the round. -/

set_option autoImplicit false

namespace CSwitch.Library

variable {τ ρ α σ : Type}

/-- What became of a picked item; a sent item leaves a record. -/
inductive Fate (ρ : Type) where
  | sent (record : ρ)
  | deferred
  | dropped
  | failed

/-- Where the items of a round are. -/
structure Flow (τ ρ : Type) where
  pending : List τ
  deferred : List τ := []
  sent : List (τ × ρ) := []
  dropped : List τ := []
  halted : Bool := false

namespace Flow

def settle (flow : Flow τ ρ) (index : Nat) (fate : Fate ρ) : Flow τ ρ :=
  match flow.pending[index]? with
  | none => flow
  | some item =>
      let rest := flow.pending.eraseIdx index
      match fate with
      | .sent record => { flow with pending := rest, sent := flow.sent ++ [(item, record)] }
      | .deferred => { flow with pending := rest, deferred := flow.deferred ++ [item] }
      | .dropped => { flow with pending := rest, dropped := flow.dropped ++ [item] }
      | .failed => { flow with pending := item :: rest, halted := true }

def halt (flow : Flow τ ρ) : Flow τ ρ := { flow with halted := true }

def active (flow : Flow τ ρ) : Bool := !flow.halted && !flow.pending.isEmpty

/-- The end of a round: deferred items go back behind the queue. -/
def requeue (flow : Flow τ ρ) : List τ := flow.pending ++ flow.deferred

def items (flow : Flow τ ρ) : Multiset τ :=
  flow.pending + flow.deferred + flow.sent.map Prod.fst + flow.dropped

section Settle

variable {flow : Flow τ ρ} {index : Nat} {item : τ}

theorem settle_sent (found : flow.pending[index]? = some item) (record : ρ) :
    flow.settle index (.sent record) = { flow with
      pending := flow.pending.eraseIdx index, sent := flow.sent ++ [(item, record)] } := by
  rw [settle, found]

theorem settle_deferred (found : flow.pending[index]? = some item) :
    flow.settle index .deferred = { flow with
      pending := flow.pending.eraseIdx index, deferred := flow.deferred ++ [item] } := by
  rw [settle, found]

theorem settle_dropped (found : flow.pending[index]? = some item) :
    flow.settle index .dropped = { flow with
      pending := flow.pending.eraseIdx index, dropped := flow.dropped ++ [item] } := by
  rw [settle, found]

theorem settle_failed (found : flow.pending[index]? = some item) :
    flow.settle index .failed = { flow with
      pending := item :: flow.pending.eraseIdx index, halted := true } := by
  rw [settle, found]

private theorem coe_pending (found : flow.pending[index]? = some item) :
    (flow.pending : Multiset τ) = {item} + (flow.pending.eraseIdx index : List τ) := by
  obtain ⟨bound, rfl⟩ := List.getElem?_eq_some_iff.mp found
  rw [Multiset.singleton_add, Multiset.cons_coe]
  exact Multiset.coe_eq_coe.mpr (List.getElem_cons_eraseIdx_perm bound).symm

/-- Settling an item neither loses nor duplicates one. -/
theorem items_settle (flow : Flow τ ρ) (index : Nat) (fate : Fate ρ) :
    (flow.settle index fate).items = flow.items := by
  unfold settle
  split
  · rfl
  next item found =>
    unfold items
    rw [coe_pending found]
    cases fate with
    | sent record =>
        simp only [List.map_append, List.map_cons, List.map_nil, ← Multiset.coe_add,
          Multiset.coe_singleton]
        abel
    | deferred =>
        simp only [← Multiset.coe_add, Multiset.coe_singleton]
        abel
    | dropped =>
        simp only [← Multiset.coe_add, Multiset.coe_singleton]
        abel
    | failed => rw [Multiset.singleton_add, Multiset.cons_coe]

/-- An item settled for good shortens the queue; a failed one ends the round. -/
theorem settle_progress (found : flow.pending[index]? = some item) (fate : Fate ρ) :
    (flow.settle index fate).halted = true ∨
      (flow.settle index fate).pending.length + 1 = flow.pending.length := by
  obtain ⟨bound, _⟩ := List.getElem?_eq_some_iff.mp found
  have shorter : (flow.pending.eraseIdx index).length + 1 = flow.pending.length := by
    rw [List.length_eraseIdx_of_lt bound]
    omega
  unfold settle
  rw [found]
  cases fate with
  | sent record => exact .inr shorter
  | deferred => exact .inr shorter
  | dropped => exact .inr shorter
  | failed => exact .inl rfl

theorem mem_of_mem_settle_pending {other : τ} {fate : Fate ρ}
    (member : other ∈ (flow.settle index fate).pending) : other ∈ flow.pending := by
  unfold settle at member
  split at member
  · exact member
  next item found =>
    have front : item ∈ flow.pending := List.mem_of_getElem? found
    cases fate with
    | failed =>
        rcases List.mem_cons.mp member with rfl | member
        · exact front
        · exact List.mem_of_mem_eraseIdx member
    | sent record => exact List.mem_of_mem_eraseIdx member
    | deferred => exact List.mem_of_mem_eraseIdx member
    | dropped => exact List.mem_of_mem_eraseIdx member

/-- A record is old or of the item just settled. -/
theorem mem_settle_sent {entry : τ × ρ} {fate : Fate ρ}
    (member : entry ∈ (flow.settle index fate).sent) :
    entry ∈ flow.sent ∨ (flow.pending[index]? = some entry.1 ∧ fate = .sent entry.2) := by
  unfold settle at member
  split at member
  · exact .inl member
  next item found =>
    cases fate with
    | sent record =>
        rcases List.mem_append.mp member with earlier | new
        · exact .inl earlier
        · obtain rfl := List.mem_singleton.mp new
          exact .inr ⟨found, rfl⟩
    | deferred => exact .inl member
    | dropped => exact .inl member
    | failed => exact .inl member

/-- What has been sent or deferred stays so. -/
theorem settle_grows (flow : Flow τ ρ) (index : Nat) (fate : Fate ρ) :
    flow.sent <+: (flow.settle index fate).sent ∧
      flow.deferred <+: (flow.settle index fate).deferred := by
  unfold settle
  split
  · exact ⟨List.prefix_rfl, List.prefix_rfl⟩
  · cases fate with
    | sent record => exact ⟨List.prefix_append _ _, List.prefix_rfl⟩
    | deferred => exact ⟨List.prefix_rfl, List.prefix_append _ _⟩
    | dropped => exact ⟨List.prefix_rfl, List.prefix_rfl⟩
    | failed => exact ⟨List.prefix_rfl, List.prefix_rfl⟩

end Settle

end Flow

/-! ## Iteration -/

/-- The state after a number of iterations, each with its own outside input. -/
def iterate (body : α → σ → σ) (input : Nat → α) (start : σ) : Nat → σ
  | 0 => start
  | count + 1 => body (input count) (iterate body input start count)

/-- An invariant of the body holds at every point of a run. -/
theorem iterate_invariant {body : α → σ → σ} {input : Nat → α} {start : σ} (invariant : σ → Prop)
    (initial : invariant start)
    (step : ∀ count, invariant (iterate body input start count) →
      invariant (body (input count) (iterate body input start count))) (count : Nat) :
    invariant (iterate body input start count) := by
  induction count with
  | zero => exact initial
  | succ count ih => exact step count ih

theorem iterate_of_idle {body : α → σ → σ} {input : Nat → α} {start : σ} {first last : Nat}
    (idle : ∀ value, body value (iterate body input start first) = iterate body input start first)
    (later : first ≤ last) : iterate body input start last = iterate body input start first := by
  induction last, later using Nat.le_induction with
  | base => rfl
  | succ count after ih => rw [iterate, ih, idle]

/-- A loop that halts or shortens its queue in every active iteration is over
after as many iterations as there were items. -/
theorem iterate_finished {body : α → σ → σ} {input : Nat → α} {start : σ} (flow : σ → Flow τ ρ)
    (progress : ∀ value state, (flow state).active = true →
      (flow (body value state)).halted = true ∨
        (flow (body value state)).pending.length < (flow state).pending.length)
    (idle : ∀ value state, (flow state).active = false → body value state = state) :
    (flow (iterate body input start (flow start).pending.length)).active = false := by
  have bound : ∀ count, (flow (iterate body input start count)).active = true →
      (flow (iterate body input start count)).pending.length + count ≤
        (flow start).pending.length := by
    intro count
    induction count with
    | zero => intro _; exact Nat.le_refl _
    | succ count ih =>
        intro active
        rw [iterate] at active ⊢
        cases before : (flow (iterate body input start count)).active with
        | false =>
            rw [idle _ _ before, before] at active
            exact absurd active (by simp)
        | true =>
            rcases progress (input count) _ before with halted | shorter
            · simp [Flow.active, halted] at active
            · have := ih before
              omega
  by_contra running
  have running := Bool.eq_true_of_not_eq_false running
  have empty : (flow (iterate body input start (flow start).pending.length)).pending = [] := by
    have := bound _ running
    exact List.length_eq_zero_iff.mp (by omega)
  simp [Flow.active, empty] at running

/-! ## Answers from outside -/

/-- The items that the outside took in the iterations of a round, in their order. -/
def taken (offered : Nat → Option Nat) (accepted : Nat → Bool) (flow : Nat → Flow τ ρ) :
    Nat → List τ
  | 0 => []
  | count + 1 =>
      taken offered accepted flow count ++
        if accepted count then
          ((offered count).bind fun index => (flow count).pending[index]?).toList
        else []

/-- What the answer to an offer does in its iteration. `Of` ties a record to its item. -/
structure FollowsAnswers (offered : Nat → Option Nat) (accepted : Nat → Bool)
    (Of : τ → ρ → Prop) (flow : Nat → Flow τ ρ) : Prop where
  pending : ∀ count index, offered count = some index → index < (flow count).pending.length
  sends : ∀ count index item, offered count = some index →
    (flow count).pending[index]? = some item → accepted count = true →
      ∃ record, Of item record ∧ flow (count + 1) = (flow count).settle index (.sent record)
  refuses : ∀ count index, offered count = some index → accepted count = false →
    flow (count + 1) = (flow count).settle index .failed
  silent : ∀ count, offered count = none → (flow (count + 1)).sent = (flow count).sent

/-- A finished round has sent exactly what the outside took, and a refused item ended it
and waits in front of the others. -/
structure Answered (offered : Nat → Option Nat) (accepted : Nat → Bool) (Of : τ → ρ → Prop)
    (flow : Nat → Flow τ ρ) (count : Nat) : Prop where
  sent : (flow count).sent.map Prod.fst = taken offered accepted flow count
  records : ∀ entry ∈ (flow count).sent, Of entry.1 entry.2
  refused : ∀ earlier index item, offered earlier = some index →
    (flow earlier).pending[index]? = some item → accepted earlier = false →
      (flow count).halted = true ∧
        (flow count).pending = item :: (flow earlier).pending.eraseIdx index

namespace FollowsAnswers

variable {offered : Nat → Option Nat} {accepted : Nat → Bool} {Of : τ → ρ → Prop}
  {flow : Nat → Flow τ ρ}

/-- One iteration sends the item that it offers, if that is accepted, and no other. -/
theorem sent_succ (follows : FollowsAnswers offered accepted Of flow) (count : Nat) :
    ((flow (count + 1)).sent = (flow count).sent ∧
      (if accepted count then
        ((offered count).bind fun index => (flow count).pending[index]?).toList else []) = []) ∨
    ∃ index item record, offered count = some index ∧
      (flow count).pending[index]? = some item ∧ accepted count = true ∧ Of item record ∧
      (flow (count + 1)).sent = (flow count).sent ++ [(item, record)] := by
  cases choice : offered count with
  | none =>
      refine .inl ⟨follows.silent count choice, ?_⟩
      rw [Option.bind_none, Option.toList_none, ite_self]
  | some index =>
      have found := List.getElem?_eq_getElem (follows.pending count index choice)
      cases answer : accepted count with
      | false =>
          have after := follows.refuses count index choice answer
          rw [Flow.settle_failed found] at after
          exact .inl ⟨by rw [after], if_neg Bool.false_ne_true⟩
      | true =>
          obtain ⟨record, own, after⟩ := follows.sends count index _ choice found answer
          rw [Flow.settle_sent found] at after
          exact .inr ⟨index, _, record, rfl, found, rfl, own, by rw [after]⟩

theorem sent_taken (follows : FollowsAnswers offered accepted Of flow)
    (fresh : (flow 0).sent = []) (count : Nat) :
    (flow count).sent.map Prod.fst = taken offered accepted flow count ∧
      ∀ entry ∈ (flow count).sent, Of entry.1 entry.2 := by
  induction count with
  | zero => simp [fresh, taken]
  | succ count ih =>
      obtain ⟨same, records⟩ := ih
      cases follows.sent_succ count with
      | inl kept =>
          obtain ⟨sent, none⟩ := kept
          rw [taken, none, sent, List.append_nil]
          exact ⟨same, records⟩
      | inr grown =>
          obtain ⟨index, item, record, choice, found, answer, own, sent⟩ := grown
          rw [taken, choice, Option.bind_some, found, answer, sent, List.map_append, same]
          refine ⟨rfl, ?_⟩
          intro entry member
          cases List.mem_append.mp member with
          | inl earlier => exact records entry earlier
          | inr new =>
              obtain rfl := List.mem_singleton.mp new
              exact own

/-- A halted round changes no more, so a refusal is still seen at its end. -/
theorem answered (follows : FollowsAnswers offered accepted Of flow)
    (fresh : (flow 0).sent = []) {count : Nat}
    (ended : ∀ earlier, count ≤ earlier → offered earlier = none)
    (stays : ∀ first last, (flow first).halted = true → first ≤ last → flow last = flow first) :
    Answered offered accepted Of flow count where
  sent := (follows.sent_taken fresh count).1
  records := (follows.sent_taken fresh count).2
  refused := by
    intro earlier index item choice found answer
    have after := follows.refuses earlier index choice answer
    rw [Flow.settle_failed found] at after
    have within : earlier < count := by
      by_contra late
      have none := ended earlier (Nat.le_of_not_lt late)
      rw [choice] at none
      cases none
    have last := stays (earlier + 1) count (congrArg Flow.halted after) within
    rw [last, after]
    exact ⟨rfl, rfl⟩

end FollowsAnswers

end CSwitch.Library
