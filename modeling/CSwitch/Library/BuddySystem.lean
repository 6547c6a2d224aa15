import CSwitch.Library.Dyadic

/-! The buddy system on a row of units. The state is the set of live blocks; the
spare blocks are the largest blocks within the row that meet no live one. Taking
a spare block, halving a live block, joining it with its buddy and giving it
back are the moves of every such allocator. -/

set_option autoImplicit false

namespace CSwitch.Library

namespace Block

variable {live : Set Block} {units : Nat} {block spare other : Block}

/-- A live block lies in it. -/
def Occupied (live : Set Block) (block : Block) : Prop := ∃ held ∈ live, held ≤ block

/-- A live block lies in it and is smaller. -/
def Divided (live : Set Block) (block : Block) : Prop := ∃ held ∈ live, held < block

/-- It meets no live block. -/
def Clear (live : Set Block) (block : Block) : Prop := ∀ held ∈ live, Apart held block

/-- The largest blocks within the first `units` units that meet no live block. -/
def Spare (units : Nat) (live : Set Block) : Block → Prop :=
  Maximal fun block => block.stop ≤ units ∧ Clear live block

theorem Clear.mono (clear : Clear live block) (within : other ≤ block) : Clear live other :=
  fun held member => (clear held member).mono within

theorem Clear.not_occupied (clear : Clear live block) : ¬Occupied live block := by
  intro ⟨held, member, within⟩
  exact (clear held member).1 within

theorem Divided.occupied (divided : Divided live block) : Occupied live block :=
  divided.imp fun _ held => ⟨held.1, held.2.le⟩

theorem Occupied.mono (occupied : Occupied live block) (within : block ≤ other) :
    Occupied live other :=
  occupied.imp fun _ held => ⟨held.1, held.2.trans within⟩

theorem occupied_insert :
    Occupied (insert spare live) block ↔ spare ≤ block ∨ Occupied live block := by
  simp [Occupied]

theorem divided_insert :
    Divided (insert spare live) block ↔ spare < block ∨ Divided live block := by
  simp [Divided]

theorem clear_insert :
    Clear (insert spare live) block ↔ Apart spare block ∧ Clear live block := by
  simp [Clear]

theorem clear_empty (block : Block) : Clear ∅ block := by
  simp [Clear]

theorem Clear.parent (clear : Clear live block) (free : ¬Occupied live block.parent) :
    Clear live block.parent := by
  intro held member
  refine ⟨fun within => free ⟨held, member, within⟩, fun around => ?_⟩
  exact (clear held member).2 ((lt_parent block).le.trans around)

/-! ## Spare blocks -/

/-- A clear block is spare when its parent does not fit or holds a live block. -/
theorem spare_iff :
    Spare units live block ↔ block.stop ≤ units ∧ Clear live block ∧
      (units < block.parent.stop ∨ Occupied live block.parent) := by
  constructor
  · intro spare
    refine ⟨spare.prop.1, spare.prop.2, ?_⟩
    by_contra neither
    push Not at neither
    obtain ⟨fits, free⟩ := neither
    have larger := spare.prop.2.parent free
    exact absurd (spare.le_of_ge ⟨fits, larger⟩ (lt_parent block).le) (lt_parent block).not_ge
  · intro ⟨fits, clear, edge⟩
    refine ⟨⟨fits, clear⟩, fun other larger within => ?_⟩
    cases within.eq_or_lt with
    | inl same => exact same.ge
    | inr below =>
        have around := parent_le_of_lt below
        cases edge with
        | inl large => exact absurd (stop_le_of_le around) (by omega)
        | inr occupied => exact absurd (occupied.mono around) larger.2.not_occupied

theorem Spare.apart (first : Spare units live block) (second : Spare units live other)
    (different : block ≠ other) : Apart block other := by
  constructor
  · intro within
    exact different (first.eq_of_le second.prop within)
  · intro within
    exact different (second.eq_of_le first.prop within).symm

theorem level_lt_of_stop_le (fits : block.stop ≤ units) : block.level < units := by
  have bound := Nat.lt_two_pow_self (n := block.level)
  rw [stop_eq] at fits
  omega

/-- Every clear block of the row lies in a spare one. -/
theorem exists_spare (fits : block.stop ≤ units) (clear : Clear live block) :
    ∃ spare, block ≤ spare ∧ Spare units live spare := by
  induction gap : units - block.level generalizing block with
  | zero =>
      have := level_lt_of_stop_le fits
      omega
  | succ gap ih =>
      by_cases edge : units < block.parent.stop ∨ Occupied live block.parent
      · exact ⟨block, le_rfl, spare_iff.mpr ⟨fits, clear, edge⟩⟩
      · push Not at edge
        obtain ⟨spare, within, found⟩ :=
          ih edge.1 (clear.parent edge.2) (by rw [parent_level]; omega)
        exact ⟨spare, (lt_parent block).le.trans within, found⟩

/-! ## Without live blocks -/

theorem spare_empty_iff :
    Spare units ∅ block ↔ block.stop ≤ units ∧ units < block.parent.stop := by
  rw [spare_iff]
  simp [clear_empty, Occupied]

/-- The block of a level that the last units of the row do not fill. -/
def edge (units level : Nat) : Block := ofUnit level units

@[simp] theorem edge_level (units level : Nat) : (edge units level).level = level := rfl

theorem edge_parent (units level : Nat) : (edge units level).parent = edge units (level + 1) :=
  (ofUnit_succ _ _).symm

theorem eq_edge_iff : block = edge units block.level ↔ block.first ≤ units ∧ units < block.stop := by
  rw [← ofUnit_eq_iff]
  exact eq_comm

theorem edge_first_le (units level : Nat) : (edge units level).first ≤ units :=
  (eq_edge_iff.mp rfl).1

theorem lt_edge_stop (units level : Nat) : units < (edge units level).stop :=
  (eq_edge_iff.mp rfl).2

/-- The first half of an edge; whether it fits decides on the edge of its level. -/
def beforeEdge (units level : Nat) : Block := (edge units (level + 1)).leftHalf

@[simp] theorem beforeEdge_level (units level : Nat) : (beforeEdge units level).level = level := rfl

@[simp] theorem beforeEdge_parent (units level : Nat) :
    (beforeEdge units level).parent = edge units (level + 1) :=
  leftHalf_parent (Nat.succ_pos _)

theorem beforeEdge_first (units level : Nat) :
    (beforeEdge units level).first = (edge units (level + 1)).first :=
  leftHalf_first (Nat.succ_pos _)

theorem beforeEdge_stop (units level : Nat) :
    (beforeEdge units level).stop = (beforeEdge units level).buddy.first := by
  unfold beforeEdge
  rw [leftHalf_buddy]
  rfl

theorem edge_of_lt {level : Nat} (large : units < (beforeEdge units level).stop) :
    edge units level = beforeEdge units level := by
  refine (eq_edge_iff.mpr ⟨?_, large⟩).symm
  rw [beforeEdge_first]
  exact edge_first_le _ _

theorem edge_of_le {level : Nat} (fits : (beforeEdge units level).stop ≤ units) :
    edge units level = (beforeEdge units level).buddy := by
  have siblings : (edge units level).parent = (beforeEdge units level).parent := by
    rw [edge_parent, beforeEdge_parent]
  refine (eq_or_eq_buddy siblings).resolve_left fun same => ?_
  exact (lt_edge_stop units level).not_ge (same ▸ fits)

/-- Without live blocks a level has one spare block at most. -/
theorem spare_empty_iff_beforeEdge :
    Spare units ∅ block ↔ block = beforeEdge units block.level ∧ block.stop ≤ units := by
  rw [spare_empty_iff]
  constructor
  · intro ⟨fits, large⟩
    have start : block.parent.first ≤ units :=
      (le_iff.mp (lt_parent block).le).2.1.trans (block.first_lt_stop.le.trans fits)
    have parent : block.parent = edge units (block.level + 1) := eq_edge_iff.mpr ⟨start, large⟩
    refine ⟨?_, fits⟩
    rw [← beforeEdge_parent] at parent
    refine (eq_or_eq_buddy parent).resolve_right fun other => ?_
    -- the second half ends with the edge
    have last : (beforeEdge units block.level).buddy.stop =
        (beforeEdge units block.level).parent.stop := by
      rw [parent_stop, if_pos]
      exact Nat.mul_mod_right 2 _
    rw [← other, ← parent] at last
    omega
  · intro ⟨same, fits⟩
    refine ⟨fits, ?_⟩
    rw [same, beforeEdge_parent]
    exact lt_edge_stop _ _

/-! ## Taking a spare block -/

/-- Above a spare block everything that fits is divided already. -/
theorem Spare.divided (found : Spare units live spare) (below : spare < block)
    (fits : block.stop ≤ units) : Divided live block := by
  have around := parent_le_of_lt below
  obtain ⟨_, clear, edge⟩ := spare_iff.mp found
  cases edge with
  | inl large =>
      have := stop_le_of_le around
      omega
  | inr occupied =>
      obtain ⟨held, member, within⟩ := occupied
      refine ⟨held, member, (within.lt_of_ne fun same => ?_).trans_le around⟩
      exact (clear held member).2 (same ▸ (lt_parent spare).le)

theorem spare_insert_iff (found : Spare units live spare) :
    Spare units (insert spare live) block ↔ Spare units live block ∧ block ≠ spare := by
  constructor
  · intro after
    obtain ⟨fits, clear, edge⟩ := spare_iff.mp after
    obtain ⟨apart, clear⟩ := clear_insert.mp clear
    refine ⟨spare_iff.mpr ⟨fits, clear, ?_⟩, apart.ne.symm⟩
    by_cases large : units < block.parent.stop
    · exact .inl large
    · cases occupied_insert.mp (edge.resolve_left large) with
      | inr held => exact .inr held
      | inl within =>
          refine .inr (found.divided (within.lt_of_ne fun same => ?_) (by omega)).occupied
          exact apart.2 (same ▸ (lt_parent block).le)
  · intro ⟨before, different⟩
    obtain ⟨fits, clear, edge⟩ := spare_iff.mp before
    refine spare_iff.mpr ⟨fits, clear_insert.mpr ⟨found.apart before different.symm, clear⟩, ?_⟩
    exact edge.imp_right fun occupied => occupied_insert.mpr (.inr occupied)

/-- Giving the block back undoes this. -/
theorem spare_iff_insert (found : Spare units live spare) :
    Spare units live block ↔ Spare units (insert spare live) block ∨ block = spare := by
  rw [spare_insert_iff found]
  by_cases same : block = spare
  · simp [same, found]
  · simp [same]

/-! ## Halving a live block -/

/-- A live block is replaced by one of its halves: the other half becomes spare. -/
theorem spare_insert_half_iff (fits : spare.parent.stop ≤ units) (clear : Clear live spare.parent) :
    Spare units (insert spare live) block ↔
      Spare units (insert spare.parent live) block ∨ block = spare.buddy := by
  have inParent : spare.buddy < spare.parent := by
    rw [← buddy_parent]
    exact lt_parent _
  by_cases apart : Apart spare.parent block
  · -- away from the parent both sides say the same
    have halfApart : Apart spare block := (apart.symm.mono (lt_parent spare).le).symm
    have around : spare ≤ block.parent ↔ spare.parent ≤ block.parent := by
      refine ⟨fun within => ?_, (lt_parent spare).le.trans⟩
      cases within.eq_or_lt with
      | inr below => exact parent_le_of_lt below
      | inl same => exact absurd (same ▸ (lt_parent block).le) halfApart.2
    have other : block ≠ spare.buddy := by
      rintro rfl
      exact apart.2 inParent.le
    simp [spare_iff, clear_insert, occupied_insert, apart, halfApart, around, other]
  · have whole : ¬Spare units (insert spare.parent live) block :=
      fun found => apart (clear_insert.mp found.prop.2).1
    rw [or_iff_right whole]
    constructor
    · intro found
      obtain ⟨_, away, edge⟩ := spare_iff.mp found
      obtain ⟨halfApart, _⟩ := clear_insert.mp away
      have below : block < spare.parent := by
        by_contra outside
        have within : spare.parent ≤ block := by
          by_contra
          exact apart ⟨this, fun inside => outside (inside.lt_of_ne fun same => this same.ge)⟩
        exact halfApart.1 ((lt_parent spare).le.trans within)
      cases le_or_le_buddy below with
      | inl within => exact absurd within halfApart.2
      | inr within =>
          refine within.eq_of_not_lt fun deeper => ?_
          have inside := parent_le_of_lt deeper
          have small : block.parent.stop ≤ units :=
            (stop_le_of_le (inside.trans inParent.le)).trans fits
          cases occupied_insert.mp (edge.resolve_left (by omega)) with
          | inl half => exact (buddy_apart spare).1 (half.trans inside)
          | inr held => exact clear.not_occupied (held.mono (inside.trans inParent.le))
    · rintro rfl
      refine spare_iff.mpr ⟨(stop_le_of_le inParent.le).trans fits, ?_, ?_⟩
      · exact clear_insert.mpr ⟨buddy_apart spare, clear.mono inParent.le⟩
      · rw [buddy_parent]
        exact .inr (occupied_insert.mpr (.inl (lt_parent spare).le))

theorem buddy_not_spare : ¬Spare units (insert spare.parent live) spare.buddy := by
  intro found
  refine (clear_insert.mp found.prop.2).1.2 ?_
  rw [← buddy_parent]
  exact (lt_parent _).le

/-- Joining the halves undoes the halving. -/
theorem spare_insert_parent_iff (fits : spare.parent.stop ≤ units) (clear : Clear live spare.parent) :
    Spare units (insert spare.parent live) block ↔
      Spare units (insert spare live) block ∧ block ≠ spare.buddy := by
  rw [spare_insert_half_iff fits clear]
  constructor
  · intro found
    exact ⟨.inl found, fun same => buddy_not_spare (same ▸ found)⟩
  · intro found
    exact found.1.resolve_right found.2

/-- A block that is away from the live ones and whose buddy is not spare can only
be given back as it is. -/
theorem spare_of_buddy (fits : block.stop ≤ units) (clear : Clear live block)
    (taken : units < block.parent.stop ∨ Occupied live block.buddy) : Spare units live block := by
  refine spare_iff.mpr ⟨fits, clear, taken.imp_right fun occupied => occupied.mono ?_⟩
  rw [← buddy_parent]
  exact (lt_parent _).le

/-- Otherwise the two halves can be joined. -/
theorem clear_parent_of_buddy (clear : Clear live block) (free : ¬Occupied live block.buddy) :
    Clear live block.parent := by
  refine clear.parent fun ⟨held, member, within⟩ => ?_
  cases within.eq_or_lt with
  | inl same => exact (clear held member).2 (same ▸ (lt_parent block).le)
  | inr below =>
      cases le_or_le_buddy below with
      | inl inside => exact (clear held member).1 inside
      | inr inside => exact free ⟨held, member, inside⟩

end Block

end CSwitch.Library
