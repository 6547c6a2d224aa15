import CSwitch.Arcas.ControllerProperties
import CSwitch.Library.Selection

/-! The domains that the ARCAS controller activates. There are as many as the
spread allows, and they have a slot for every runnable thread whenever so many
domains can have. -/

set_option autoImplicit false

namespace CSwitch.Arcas

open Std (TreeMap TreeSet)
open Policy Library

/-- The CPUs of a domain on which some thread is allowed. -/
def allowedSlots (topo : TopologyLayout) (allowedCpusByTid : CpuSetMap) (domain : Nat) : List Nat :=
  (topo.domains[domain]?.map fun info =>
    info.cpus.filter fun cpu => (unionAllowedCpus allowedCpusByTid).contains cpu).getD []

/-- The domains with an allowed CPU, or all when there is none. -/
def slotDomains (topo : TopologyLayout) (allowedCpusByTid : CpuSetMap) (domains : List Nat) :
    List Nat :=
  let usable := domains.filter fun domain => !(allowedSlots topo allowedCpusByTid domain).isEmpty
  if usable.isEmpty then domains else usable

/-- How many allowed CPUs some domains have. -/
def slotCount (topo : TopologyLayout) (allowedCpusByTid : CpuSetMap) (domains : List Nat) : Nat :=
  (domains.flatMap (allowedSlots topo allowedCpusByTid)).length

section Selection

variable {topo : TopologyLayout} {allowedCpusByTid : CpuSetMap} {eligible : List Nat}

/-! ## Sampling -/

/-- The sample after some of its places: one domain for each, none twice. -/
structure SampledSoFar (candidates : List Nat) (desired places : Nat) (selected : List Nat) :
    Prop where
  picked : ∀ domain ∈ selected, ∃ place < places,
    candidates[place * candidates.length / desired]? = some domain
  length : selected.length = places
  nodup : selected.Nodup

theorem sampleDomains_sampled {candidates : List Nat} {desired : Nat} (nodup : candidates.Nodup)
    (fits : desired ≤ candidates.length) :
    SampledSoFar candidates desired desired (sampleDomains candidates desired) := by
  suffices sampled : SampledSoFar candidates desired (List.range desired).length
      (sampleDomains candidates desired) by
    rwa [List.length_range] at sampled
  unfold sampleDomains
  apply foldl_prefix_invariant fun done selected =>
    SampledSoFar candidates desired done.length selected
  · exact ⟨by simp, rfl, List.nodup_nil⟩
  · intro done place rest selected split before
    obtain ⟨rfl, within⟩ := range_split split
    have bound := evenIndex_bound fits within
    rw [List.getElem?_eq_getElem bound]
    dsimp only
    have fresh : candidates[done.length * candidates.length / desired] ∉ selected := by
      intro member
      obtain ⟨place, less, found⟩ := before.picked _ member
      obtain ⟨otherBound, found⟩ := List.getElem?_eq_some_iff.mp found
      have same := (nodup.getElem_inj_iff).mp found
      exact absurd same (evenIndex_lt fits (by omega) less).ne
    rw [if_neg (by simpa using fresh), List.length_append, List.length_singleton]
    constructor
    · intro domain member
      rcases List.mem_append.mp member with earlier | new
      · obtain ⟨place, less, found⟩ := before.picked domain earlier
        exact ⟨place, Nat.lt_succ_of_lt less, found⟩
      · obtain rfl := List.mem_singleton.mp new
        exact ⟨done.length, Nat.lt_succ_self done.length, List.getElem?_eq_getElem bound⟩
    · rw [List.length_append, before.length, List.length_singleton]
    · rw [← List.concat_eq_append]
      exact before.nodup.concat fresh

/-! ## Capacity -/

/-- The first capacities up to the count reach the load. -/
theorem coveringCount_spec {runnable : Nat} {capacities : List Nat} {covered index count : Nat}
    (found : coveringCount runnable capacities covered index = some count) :
    index < count ∧ runnable ≤ covered + (capacities.take (count - index)).sum := by
  induction capacities generalizing covered index with
  | nil => cases found
  | cons capacity rest ih =>
      have added : satAdd64 covered capacity ≤ covered + capacity := Nat.min_le_left _ _
      rw [coveringCount] at found
      split at found
      next reached =>
        obtain rfl := Option.some.inj found
        refine ⟨Nat.lt_succ_self index, ?_⟩
        rw [Nat.add_sub_cancel_left, List.take_succ_cons, List.sum_cons, List.take_zero,
          List.sum_nil]
        omega
      next short =>
        obtain ⟨less, enough⟩ := ih found
        have more : count - index = count - (index + 1) + 1 := by omega
        refine ⟨by omega, ?_⟩
        rw [more, List.take_succ_cons, List.sum_cons]
        omega

theorem slotCount_eq (domains : List Nat) :
    slotCount topo allowedCpusByTid domains =
      (domains.map fun domain => (allowedSlots topo allowedCpusByTid domain).length).sum :=
  List.length_flatMap

theorem domainSlotCpus_eq_allowedSlots
    (some : (unionAllowedCpus allowedCpusByTid).isEmpty = false) (domain : Nat) :
    domainSlotCpus topo domain (unionAllowedCpus allowedCpusByTid) =
      allowedSlots topo allowedCpusByTid domain := by
  unfold domainSlotCpus allowedSlots
  simp only [some, Bool.false_or]

/-- Without an allowed CPU no domain has a slot. -/
theorem allowedSlots_eq_nil (empty : (unionAllowedCpus allowedCpusByTid).isEmpty = true)
    (domain : Nat) : allowedSlots topo allowedCpusByTid domain = [] := by
  unfold allowedSlots
  cases topo.domains[domain]? with
  | none => rfl
  | some info =>
      rw [Option.map_some, Option.getD_some, List.filter_eq_nil_iff]
      intro cpu _
      exact TreeSet.not_mem_of_isEmpty empty

theorem isEmpty_union_of_slots {domains : List Nat}
    (some : 0 < slotCount topo allowedCpusByTid domains) :
    (unionAllowedCpus allowedCpusByTid).isEmpty = false := by
  cases empty : (unionAllowedCpus allowedCpusByTid).isEmpty with
  | false => rfl
  | true =>
      rw [slotCount_eq] at some
      simp [allowedSlots_eq_nil empty] at some

theorem candidateDomains_eq_slotDomains :
    candidateDomains topo eligible (unionAllowedCpus allowedCpusByTid) =
      slotDomains topo allowedCpusByTid eligible := by
  unfold candidateDomains slotDomains
  cases empty : (unionAllowedCpus allowedCpusByTid).isEmpty with
  | true => simp [allowedSlots_eq_nil empty]
  | false => simp only [Bool.false_or, domainSlotCpus_eq_allowedSlots empty]

/-- The candidates have all the slots that the eligible domains have. -/
theorem slotCount_slotDomains :
    slotCount topo allowedCpusByTid (slotDomains topo allowedCpusByTid eligible) =
      slotCount topo allowedCpusByTid eligible := by
  unfold slotDomains
  dsimp only
  split
  · rfl
  next listed =>
    clear listed
    unfold slotCount
    congr 1
    induction eligible with
    | nil => rfl
    | cons domain rest ih =>
        rw [List.flatMap_cons, List.filter_cons]
        split
        next usable => rw [List.flatMap_cons, ih]
        next useless =>
          have nothing : allowedSlots topo allowedCpusByTid domain = [] := by simpa using useless
          rw [ih, nothing, List.nil_append]

/-! ## Selection -/

/-- The key of the largest-first choice. -/
def capacityKey (capacity : Nat → Nat) (domain : Nat) : Lex (OrderDual Nat × Nat) :=
  toLex (OrderDual.toDual (capacity domain), domain)

theorem map_sortByKey_capacity (capacity : Nat → Nat) (domains : List Nat) :
    (sortByKey (capacityKey capacity) domains).map capacity =
      (domains.map capacity).insertionSort (· ≥ ·) := by
  have total : Std.Total fun left right => capacityKey capacity left ≤ capacityKey capacity right :=
    ⟨fun left right => le_total _ _⟩
  have transitive : IsTrans Nat fun left right =>
      capacityKey capacity left ≤ capacityKey capacity right :=
    ⟨fun _ _ _ first second => first.trans second⟩
  apply map_insertionSort_weight
  intro left right ordered
  rcases Prod.Lex.le_iff.mp ordered with less | ⟨same, _⟩
  · exact (OrderDual.toDual_lt_toDual.mp less).le
  · exact (OrderDual.toDual_inj.mp same).ge

/-- What a selection is: nothing, all candidates, an even sample that has enough
slots, or the candidates with the most slots. -/
inductive Selected (topo : TopologyLayout) (allowedCpusByTid : CpuSetMap) (eligible : List Nat)
    (spread : Nat) (candidates : List Nat) : List Nat → Prop where
  | nothing (none : eligible = [] ∨ spread = 0) :
      Selected topo allowedCpusByTid eligible spread candidates []
  | all (few : candidates.length ≤ spread) :
      Selected topo allowedCpusByTid eligible spread candidates candidates
  | sampled (many : spread < candidates.length) (some : 0 < spread)
      (covers : (unionAllowedCpus allowedCpusByTid).isEmpty = false →
        allowedCpusByTid.size ≤
          slotCount topo allowedCpusByTid (sampleDomains candidates spread)) :
      Selected topo allowedCpusByTid eligible spread candidates (sampleDomains candidates spread)
  | largest (many : spread < candidates.length) (some : 0 < spread) :
      Selected topo allowedCpusByTid eligible spread candidates
        ((sortByKey (capacityKey fun domain =>
          (domainSlotCpus topo domain (unionAllowedCpus allowedCpusByTid)).length)
          candidates).take spread)

theorem selectActiveDomains_selected (topo : TopologyLayout) (eligible : List Nat)
    (allowedCpusByTid : CpuSetMap) (spread : Nat) :
    Selected topo allowedCpusByTid eligible spread (slotDomains topo allowedCpusByTid eligible)
      (selectActiveDomains topo eligible allowedCpusByTid spread) := by
  unfold selectActiveDomains
  split
  next none =>
    refine .nothing ?_
    simpa using none
  next some =>
    have positive : 0 < spread := by
      apply Nat.pos_of_ne_zero
      rintro rfl
      exact some (by simp)
    dsimp only
    rw [candidateDomains_eq_slotDomains]
    split
    next full => exact .all (by omega)
    next many =>
      have desired : min spread (slotDomains topo allowedCpusByTid eligible).length = spread := by
        omega
      rw [desired]
      split
      next enough =>
        refine .sampled (by omega) positive fun listed => ?_
        rcases enough.2 with idle | covers
        · rw [idle]
          exact Nat.zero_le _
        · simp only [domainSlotCpus_eq_allowedSlots listed] at covers
          rw [← List.foldl_map, foldl_satAdd64 _ (Nat.zero_le _), Nat.zero_add] at covers
          rw [slotCount_eq]
          exact covers.trans (Nat.min_le_left _ _)
      next short => exact .largest (by omega) positive

theorem mem_slotDomains {domain : Nat}
    (listed : domain ∈ slotDomains topo allowedCpusByTid eligible) : domain ∈ eligible := by
  rw [← candidateDomains_eq_slotDomains] at listed
  exact mem_candidateDomains listed

theorem slotDomains_sublist :
    (slotDomains topo allowedCpusByTid eligible).Sublist eligible := by
  unfold slotDomains
  dsimp only
  split
  · exact List.Sublist.refl eligible
  · exact List.filter_sublist

/-- Where some domain has a slot, the candidates are the domains whose capacity
counts. -/
theorem capacities_eq (some : 0 < slotCount topo allowedCpusByTid eligible) :
    ((eligible.map fun domain => (allowedSlots topo allowedCpusByTid domain).length).filter
        fun capacity => decide (capacity > 0)) =
      (slotDomains topo allowedCpusByTid eligible).map fun domain =>
        (allowedSlots topo allowedCpusByTid domain).length := by
  have usable : (eligible.filter fun domain =>
      !(allowedSlots topo allowedCpusByTid domain).isEmpty) ≠ [] := by
    intro none
    rw [← slotCount_slotDomains, slotCount_eq] at some
    have silent : ∀ domain ∈ eligible, (allowedSlots topo allowedCpusByTid domain).length = 0 := by
      intro domain member
      have empty := List.filter_eq_nil_iff.mp none domain member
      simpa using empty
    rw [List.sum_eq_zero] at some
    · exact absurd some (Nat.lt_irrefl 0)
    · intro capacity member
      obtain ⟨domain, listed, rfl⟩ := List.mem_map.mp member
      exact silent domain (mem_slotDomains listed)
  have kept : slotDomains topo allowedCpusByTid eligible =
      eligible.filter fun domain => !(allowedSlots topo allowedCpusByTid domain).isEmpty := by
    unfold slotDomains
    exact if_neg (by simpa using usable)
  rw [kept, List.filter_map]
  congr 1
  refine List.filter_congr fun domain _ => ?_
  cases slots : allowedSlots topo allowedCpusByTid domain with
  | nil => simp [slots]
  | cons slot rest => simp [slots]

/-- The least number of domains that can hold the load, largest first. -/
theorem minDomainsForRunnableLoad_spec (runnable : 0 < allowedCpusByTid.size)
    (enough : allowedCpusByTid.size ≤ slotCount topo allowedCpusByTid eligible)
    (fewer : minDomainsForRunnableLoad topo eligible allowedCpusByTid < eligible.length) :
    allowedCpusByTid.size ≤ ((((slotDomains topo allowedCpusByTid eligible).map fun domain =>
      (allowedSlots topo allowedCpusByTid domain).length).insertionSort (· ≥ ·)).take
        (minDomainsForRunnableLoad topo eligible allowedCpusByTid)).sum := by
  have positive : 0 < slotCount topo allowedCpusByTid eligible := by omega
  have listed := isEmpty_union_of_slots positive
  unfold minDomainsForRunnableLoad at fewer ⊢
  rw [if_neg runnable.ne'] at fewer ⊢
  simp only [domainSlotCpus_eq_allowedSlots listed, capacities_eq positive] at fewer ⊢
  generalize ((slotDomains topo allowedCpusByTid eligible).map fun domain =>
    (allowedSlots topo allowedCpusByTid domain).length).insertionSort (· ≥ ·) = capacities
    at fewer ⊢
  cases found : coveringCount allowedCpusByTid.size capacities 0 0 with
  | none =>
      rw [found, Option.getD_none] at fewer
      exact absurd fewer (Nat.lt_irrefl _)
  | some count =>
      have covers := (coveringCount_spec found).2
      rwa [Nat.zero_add, Nat.sub_zero] at covers

theorem minDomainsForRunnableLoad_pos (runnable : 0 < allowedCpusByTid.size)
    (some : eligible ≠ []) : 0 < minDomainsForRunnableLoad topo eligible allowedCpusByTid := by
  unfold minDomainsForRunnableLoad
  rw [if_neg runnable.ne']
  dsimp only
  cases found : coveringCount allowedCpusByTid.size _ 0 0 with
  | none => exact List.length_pos_of_ne_nil some
  | some count => exact (coveringCount_spec found).1

/-- The selection has as many distinct eligible domains as the spread allows. -/
theorem selectActiveDomains_shape (topo : TopologyLayout) (distinct : eligible.Nodup)
    (allowedCpusByTid : CpuSetMap) (spread : Nat) :
    (selectActiveDomains topo eligible allowedCpusByTid spread).Nodup ∧
      (selectActiveDomains topo eligible allowedCpusByTid spread).length =
        min spread (slotDomains topo allowedCpusByTid eligible).length := by
  have candidates : (slotDomains topo allowedCpusByTid eligible).Nodup :=
    distinct.sublist slotDomains_sublist
  have shape := selectActiveDomains_selected topo eligible allowedCpusByTid spread
  generalize selectActiveDomains topo eligible allowedCpusByTid spread = selected at shape ⊢
  constructor
  · cases shape with
    | nothing none => exact List.nodup_nil
    | all few => exact candidates
    | sampled many some covers => exact (sampleDomains_sampled candidates many.le).nodup
    | largest many some =>
        have sorted : (sortByKey (capacityKey fun domain => (domainSlotCpus topo domain
            (unionAllowedCpus allowedCpusByTid)).length)
            (slotDomains topo allowedCpusByTid eligible)).Nodup :=
          (List.perm_insertionSort _ _).nodup_iff.mpr candidates
        exact sorted.sublist (List.take_sublist spread _)
  · cases shape with
    | nothing none =>
        rcases none with rfl | rfl
        · simp [slotDomains]
        · simp
    | all few => exact (Nat.min_eq_right few).symm
    | sampled many some covers =>
        rw [(sampleDomains_sampled candidates many.le).length, Nat.min_eq_left many.le]
    | largest many some =>
        rw [List.length_take, sortByKey, (List.perm_insertionSort _ _).length_eq]

/-- If the spread is enough for the load, and the eligible domains have a CPU for
every runnable thread, then so do the selected ones. -/
theorem slotCount_selectActiveDomains {spread : Nat}
    (fits : minDomainsForRunnableLoad topo eligible allowedCpusByTid ≤ spread)
    (enough : allowedCpusByTid.size ≤ slotCount topo allowedCpusByTid eligible) :
    allowedCpusByTid.size ≤ slotCount topo allowedCpusByTid
      (selectActiveDomains topo eligible allowedCpusByTid spread) := by
  rcases Nat.eq_zero_or_pos allowedCpusByTid.size with idle | runnable
  · rw [idle]
    exact Nat.zero_le _
  have listed := isEmpty_union_of_slots (Nat.lt_of_lt_of_le runnable enough)
  have shape := selectActiveDomains_selected topo eligible allowedCpusByTid spread
  generalize selectActiveDomains topo eligible allowedCpusByTid spread = selected at shape ⊢
  cases shape with
  | nothing none =>
      rcases none with rfl | rfl
      · exact enough
      · have some : eligible ≠ [] := by
          rintro rfl
          exact absurd enough (Nat.not_le.mpr runnable)
        exact absurd (minDomainsForRunnableLoad_pos runnable some) (Nat.not_lt.mpr fits)
  | all few =>
      rw [slotCount_slotDomains]
      exact enough
  | sampled many some covers => exact covers listed
  | largest many some =>
      have fewer : minDomainsForRunnableLoad topo eligible allowedCpusByTid < eligible.length :=
        (fits.trans_lt many).trans_le slotDomains_sublist.length_le
      have covers := minDomainsForRunnableLoad_spec runnable enough fewer
      rw [slotCount_eq, List.map_take]
      simp only [domainSlotCpus_eq_allowedSlots listed]
      rw [map_sortByKey_capacity]
      exact covers.trans (sum_take_le fits)

/-- The selection has as many distinct eligible domains as the spread allows; if
that is enough for the load, and the eligible domains have a CPU for every
runnable thread, then so do the selected ones. -/
theorem selectActiveDomains_covers (topo : TopologyLayout) (eligible : List Nat)
    (distinct : eligible.Nodup) (allowedCpusByTid : CpuSetMap) (spread : Nat) :
    let selected := selectActiveDomains topo eligible allowedCpusByTid spread
    selected.Nodup ∧ (∀ domain ∈ selected, domain ∈ eligible) ∧
      selected.length = min spread (slotDomains topo allowedCpusByTid eligible).length ∧
      (minDomainsForRunnableLoad topo eligible allowedCpusByTid ≤ spread →
        allowedCpusByTid.size ≤ slotCount topo allowedCpusByTid eligible →
        allowedCpusByTid.size ≤ slotCount topo allowedCpusByTid selected) := by
  obtain ⟨nodup, length⟩ := selectActiveDomains_shape topo distinct allowedCpusByTid spread
  exact ⟨nodup, fun domain active => mem_selectActiveDomains active, length,
    slotCount_selectActiveDomains⟩

end Selection

/-! Two threads and one active domain: the even sample is the first domain, which
has one CPU. -/

def unevenTopology : TopologyLayout where
  nrCpuIds := 3
  domains := [{ domainId := 0, cpus := [0] }, { domainId := 1, cpus := [1, 2] }]
  cpuToDomain := [some 0, some 1, some 1]

def unevenAllowed : CpuSetMap :=
  .ofList [(10, TreeSet.ofList [0, 1, 2]), (11, TreeSet.ofList [0, 1, 2])]

theorem selectActiveDomains_covers_uneven :
    unevenAllowed.size ≤ slotCount unevenTopology unevenAllowed
        (selectActiveDomains unevenTopology [0, 1] unevenAllowed 1) ∧
      selectActiveDomains unevenTopology [0, 1] unevenAllowed 1 = [1] :=
  ⟨(selectActiveDomains_covers unevenTopology [0, 1] (by decide) unevenAllowed 1).2.2.2
    (by decide +kernel) (by decide +kernel), by decide +kernel⟩

end CSwitch.Arcas
