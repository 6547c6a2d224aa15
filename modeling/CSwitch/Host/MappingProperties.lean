import CSwitch.Host.Mapping

/-! Invariants of the mapping. Whichever of the two loops has made them last, the sets
of domains follow from the CCMs and the eligible CPUs; a filter only takes CPUs away,
so a mapping that is filtered again and again depends on what all filters allow. -/

set_option autoImplicit false

namespace CSwitch.Host

open Library
open Std (TreeMap TreeSet)

def HasCcm (domainToCcm : List (Option Nat)) (domainId : Nat) : Prop :=
  ∃ ccmId, domainToCcm[domainId]? = some (some ccmId)

def HasEligibleCpu (topo : TopologyLayout) (mapping : MappingInfo) (domainId : Nat) : Prop :=
  ∃ cpu ∈ mapping.eligibleCpus, cpu ∈ cpusOf topo domainId

/-- The sets of domains follow from the CCMs and the eligible CPUs, and every eligible
CPU has a domain with a CCM. -/
structure MappingInvariant (topo : TopologyLayout) (mapping : MappingInfo) : Prop where
  length : mapping.domainToCcm.length = topo.domains.length
  eligible : ∀ domainId, domainId ∈ mapping.eligibleDomains ↔
    HasCcm mapping.domainToCcm domainId ∧ HasEligibleCpu topo mapping domainId
  excluded : ∀ domainId, domainId ∈ mapping.excludedDomains ↔
    domainId < topo.domains.length ∧ domainId ∉ mapping.eligibleDomains
  home : ∀ cpu ∈ mapping.eligibleCpus,
    ∃ domainId, HasCcm mapping.domainToCcm domainId ∧ cpu ∈ cpusOf topo domainId

/-- No CPU is in two domains. -/
def DomainsApart (topo : TopologyLayout) : Prop :=
  ∀ left right cpu, cpu ∈ cpusOf topo left → cpu ∈ cpusOf topo right → left = right

section Insert

theorem mem_insert_iff {set : TreeSet Nat} {element value : Nat} :
    value ∈ set.insert element ↔ value = element ∨ value ∈ set := by
  rw [TreeSet.mem_insert, compare_eq_iff_eq, @eq_comm _ element]

theorem HasCcm.lt {domainToCcm : List (Option Nat)} {domainId : Nat}
    (mapped : HasCcm domainToCcm domainId) : domainId < domainToCcm.length := by
  obtain ⟨ccmId, found⟩ := mapped
  exact (List.getElem?_eq_some_iff.mp found).1

theorem hasCcm_append_iff {domainToCcm : List (Option Nat)} {maybeCcm : Option Nat}
    {domainId : Nat} :
    HasCcm (domainToCcm ++ [maybeCcm]) domainId ↔
      HasCcm domainToCcm domainId ∨ domainId = domainToCcm.length ∧ maybeCcm.isSome = true := by
  unfold HasCcm
  by_cases before : domainId < domainToCcm.length
  · rw [List.getElem?_append_left before]
    have apart : ¬domainId = domainToCcm.length := Nat.ne_of_lt before
    simp [apart]
  · have none : domainToCcm[domainId]? = none := List.getElem?_eq_none_iff.mpr (not_lt.mp before)
    rw [List.getElem?_append_right (not_lt.mp before), none]
    by_cases last : domainId = domainToCcm.length
    · subst last
      simp [Option.isSome_iff_exists]
    · have beyond : ([maybeCcm] : List (Option Nat))[domainId - domainToCcm.length]? =
          (.none : Option (Option Nat)) :=
        List.getElem?_eq_none_iff.mpr (by rw [List.length_singleton]; omega)
      simp [beyond, last]

end Insert

/-! ## Building -/

/-- What the loop over the domains has filled when it has seen some of them. -/
structure ScanSpec (topo : TopologyLayout) (scan : DomainScan) (count : Nat) : Prop where
  length : scan.domainToCcm.length = count
  eligible : ∀ domainId, domainId ∈ scan.eligibleDomains ↔ HasCcm scan.domainToCcm domainId
  excluded : ∀ domainId, domainId ∈ scan.excludedDomains ↔
    domainId < count ∧ ¬HasCcm scan.domainToCcm domainId
  cpus : ∀ cpu, cpu ∈ scan.eligibleCpus ↔
    ∃ domainId, HasCcm scan.domainToCcm domainId ∧ cpu ∈ cpusOf topo domainId

section Build

variable {topo : TopologyLayout} {ccxToCcm ccmCapacity : TreeMap Nat Nat} {scan : DomainScan}
  {count : Nat}

theorem scanSpec_start (topo : TopologyLayout) : ScanSpec topo {} 0 where
  length := rfl
  eligible domainId := by simp [HasCcm]
  excluded domainId := by simp
  cpus cpu := by simp [HasCcm]

theorem ScanSpec.step (spec : ScanSpec topo scan count) (ccxId : Nat) :
    ScanSpec topo (scanDomain topo ccxToCcm ccmCapacity scan (ccxId, count)) (count + 1) := by
  obtain ⟨length, eligible, excluded, cpus⟩ := spec
  unfold scanDomain
  dsimp only
  cases ccxToCcm[ccxId]? with
  | none =>
      have kept : ∀ domainId, HasCcm (scan.domainToCcm ++ [none]) domainId ↔
          HasCcm scan.domainToCcm domainId := by
        intro domainId
        simp [hasCcm_append_iff]
      refine ⟨by simp [length], ?_, ?_, ?_⟩
      · intro domainId
        rw [kept]
        exact eligible domainId
      · intro domainId
        rw [kept]
        simp only [Option.isSome_none, Bool.false_eq_true, if_false, mem_insert_iff, excluded]
        constructor
        · intro member
          cases member with
          | inl last =>
              subst last
              exact ⟨Nat.lt_succ_self _, fun mapped => absurd (length ▸ mapped.lt) (lt_irrefl _)⟩
          | inr before => exact ⟨Nat.lt_succ_of_lt before.1, before.2⟩
        · intro outside
          by_cases last : domainId = count
          · exact .inl last
          · exact .inr ⟨by omega, outside.2⟩
      · intro cpu
        simp only [kept]
        exact cpus cpu
  | some ccmId =>
      have grown : ∀ domainId, HasCcm (scan.domainToCcm ++ [some ccmId]) domainId ↔
          HasCcm scan.domainToCcm domainId ∨ domainId = count := by
        intro domainId
        simp [hasCcm_append_iff, length]
      refine ⟨by simp [length], ?_, ?_, ?_⟩
      · intro domainId
        simp only [Option.isSome_some, if_true, mem_insert_iff, eligible, grown]
        exact or_comm
      · intro domainId
        simp only [Option.isSome_some, if_true, excluded, grown]
        constructor
        · intro outside
          refine ⟨Nat.lt_succ_of_lt outside.1, fun mapped => ?_⟩
          cases mapped with
          | inl before => exact outside.2 before
          | inr last => exact absurd last (Nat.ne_of_lt outside.1)
        · intro outside
          obtain ⟨inside, unmapped⟩ := outside
          rw [not_or] at unmapped
          exact ⟨by omega, unmapped.1⟩
      · intro cpu
        simp only [Option.isSome_some, if_true, mem_foldl_insert, cpus, grown]
        constructor
        · intro listed
          cases listed with
          | inl new => exact ⟨count, .inr rfl, new⟩
          | inr old =>
              obtain ⟨domainId, mapped, member⟩ := old
              exact ⟨domainId, .inl mapped, member⟩
        · intro listed
          obtain ⟨domainId, mapped, member⟩ := listed
          cases mapped with
          | inl before => exact .inr ⟨domainId, before, member⟩
          | inr last => exact .inl (last ▸ member)

variable (ccxToCcm ccmCapacity) in
theorem scanSpec_foldl (ccxs : List Nat) (spec : ScanSpec topo scan count) :
    ScanSpec topo ((ccxs.zipIdx count).foldl (scanDomain topo ccxToCcm ccmCapacity) scan)
      (count + ccxs.length) := by
  induction ccxs generalizing scan count with
  | nil => exact spec
  | cons ccxId rest ih =>
      rw [List.zipIdx_cons, List.foldl_cons, List.length_cons, Nat.add_comm rest.length 1,
        ← Nat.add_assoc]
      exact ih (spec.step ccxId)

/-- Every domain with a CCM has a CPU when it is built, so the sets of domains are
those that a filter would make. -/
theorem mappingInvariant_build (expected : topo.domains.length = llcDomainToCcx.length)
    (nonempty : ∀ info ∈ topo.domains, info.cpus ≠ []) (hostMapping : HostMapping) :
    ∃ mapping, buildMappingFromHostMapping topo hostMapping = .ok mapping ∧
      MappingInvariant topo mapping := by
  have spec := scanSpec_foldl (ccxToCcm hostMapping.ccmEntries)
    (ccmCapacity hostMapping.ccmEntries) llcDomainToCcx (scanSpec_start topo)
  unfold buildMappingFromHostMapping buildMappingWithCapacities
  rw [if_neg (not_not.mpr expected)]
  refine ⟨_, rfl, ?_⟩
  rw [Nat.zero_add, ← expected] at spec
  obtain ⟨length, eligible, excluded, cpus⟩ := spec
  refine ⟨length, ?_, ?_, fun cpu listed => (cpus cpu).mp listed⟩
  · intro domainId
    refine (eligible domainId).trans (iff_self_and.mpr fun mapped => ?_)
    have inside : domainId < topo.domains.length := length ▸ mapped.lt
    obtain ⟨cpu, member⟩ := List.exists_mem_of_ne_nil _
      (nonempty _ (List.getElem_mem inside))
    have listed : cpu ∈ cpusOf topo domainId := by
      rw [cpusOf, List.getElem?_eq_getElem inside]
      exact member
    exact ⟨cpu, (cpus cpu).mpr ⟨domainId, mapped, listed⟩, listed⟩
  · intro domainId
    refine (excluded domainId).trans (and_congr_right fun _ => not_congr ?_)
    exact (eligible domainId).symm

end Build

/-! ## Filtering -/

section Constrain

variable {topo : TopologyLayout} {mapping : MappingInfo} {allowedCpus : TreeSet Nat}
  {calls others : List (TreeSet Nat)}

theorem hasEligibleCpu_iff {domainId : Nat} :
    hasEligibleCpu topo mapping domainId = true ↔ HasEligibleCpu topo mapping domainId := by
  unfold hasEligibleCpu HasEligibleCpu
  rw [List.any_eq_true]
  constructor
  · intro found
    obtain ⟨cpu, listed, eligible⟩ := found
    exact ⟨cpu, TreeSet.mem_iff_contains.mpr eligible, listed⟩
  · intro found
    obtain ⟨cpu, eligible, listed⟩ := found
    exact ⟨cpu, listed, TreeSet.mem_iff_contains.mp eligible⟩

/-- The entries of a vector, against the domains that the loop inserts for them. -/
theorem mem_foldl_zipIdx {α : Type} (keep : α × Nat → Bool) (values : List α) (value : Nat) :
    value ∈ values.zipIdx.foldl
        (fun (set : TreeSet Nat) entry => if keep entry then set.insert entry.2 else set) ∅ ↔
      ∃ element, values[value]? = some element ∧ keep (element, value) = true := by
  have adds : ∀ (set : TreeSet Nat) (entry : α × Nat) (value : Nat),
      value ∈ (if keep entry then set.insert entry.2 else set) ↔
        value ∈ set ∨ keep entry = true ∧ value = entry.2 := by
    intro set entry value
    cases keep entry with
    | false => simp
    | true =>
        rw [if_pos rfl, mem_insert_iff, or_comm]
        simp
  rw [mem_foldl_iff (fun entry value => keep entry = true ∧ value = entry.2) adds]
  constructor
  · intro found
    cases found with
    | inl none => exact absurd none TreeSet.not_mem_emptyc
    | inr inserted =>
        obtain ⟨⟨element, index⟩, listed, kept, same⟩ := inserted
        obtain rfl : value = index := same
        exact ⟨element, List.mk_mem_zipIdx_iff_getElem?.mp listed, kept⟩
  · intro found
    obtain ⟨element, stored, kept⟩ := found
    exact .inr ⟨(element, value), List.mk_mem_zipIdx_iff_getElem?.mpr stored, kept, rfl⟩

/-- A domain that the second loop keeps. -/
def keepsDomain (topo : TopologyLayout) (mapping : MappingInfo) (entry : Option Nat × Nat) : Bool :=
  entry.1.isSome && hasEligibleCpu topo mapping entry.2

theorem rebuildDomainSets_eligible (topo : TopologyLayout) (mapping : MappingInfo) :
    (rebuildDomainSets topo mapping).eligibleDomains = mapping.domainToCcm.zipIdx.foldl
      (fun set entry => if keepsDomain topo mapping entry then set.insert entry.2 else set) ∅ := by
  refine (List.foldl_hom Prod.fst fun sets entry => ?_).symm
  unfold rebuildDomain keepsDomain
  dsimp only
  split <;> rfl

theorem rebuildDomainSets_excluded (topo : TopologyLayout) (mapping : MappingInfo) :
    (rebuildDomainSets topo mapping).excludedDomains = mapping.domainToCcm.zipIdx.foldl
      (fun set entry => if !keepsDomain topo mapping entry then set.insert entry.2 else set) ∅ := by
  refine (List.foldl_hom Prod.snd fun sets entry => ?_).symm
  unfold rebuildDomain keepsDomain
  dsimp only
  cases entry.1.isSome && hasEligibleCpu topo mapping entry.2 <;> rfl

theorem keepsDomain_iff {domainId : Nat} :
    (∃ maybeCcm, mapping.domainToCcm[domainId]? = some maybeCcm ∧
        keepsDomain topo mapping (maybeCcm, domainId) = true) ↔
      HasCcm mapping.domainToCcm domainId ∧ HasEligibleCpu topo mapping domainId := by
  unfold keepsDomain HasCcm
  simp only [Bool.and_eq_true, hasEligibleCpu_iff, Option.isSome_iff_exists]
  constructor
  · intro kept
    obtain ⟨maybeCcm, stored, ⟨ccmId, rfl⟩, eligible⟩ := kept
    exact ⟨⟨ccmId, stored⟩, eligible⟩
  · intro kept
    obtain ⟨⟨ccmId, stored⟩, eligible⟩ := kept
    exact ⟨some ccmId, stored, ⟨ccmId, rfl⟩, eligible⟩

theorem MappingInvariant.rebuild (length : mapping.domainToCcm.length = topo.domains.length)
    (home : ∀ cpu ∈ mapping.eligibleCpus,
      ∃ domainId, HasCcm mapping.domainToCcm domainId ∧ cpu ∈ cpusOf topo domainId) :
    MappingInvariant topo (rebuildDomainSets topo mapping) := by
  have eligible : ∀ domainId, domainId ∈ (rebuildDomainSets topo mapping).eligibleDomains ↔
      HasCcm mapping.domainToCcm domainId ∧ HasEligibleCpu topo mapping domainId := by
    intro domainId
    rw [rebuildDomainSets_eligible, mem_foldl_zipIdx, keepsDomain_iff]
  refine ⟨length, eligible, ?_, home⟩
  intro domainId
  rw [eligible, rebuildDomainSets_excluded, mem_foldl_zipIdx (fun entry => !keepsDomain topo mapping entry),
    ← keepsDomain_iff, ← length]
  constructor
  · intro excluded
    obtain ⟨maybeCcm, stored, dropped⟩ := excluded
    refine ⟨(List.getElem?_eq_some_iff.mp stored).1, fun kept => ?_⟩
    obtain ⟨other, otherStored, keeps⟩ := kept
    obtain rfl := Option.some.inj (stored.symm.trans otherStored)
    rw [keeps] at dropped
    cases dropped
  · intro outside
    obtain ⟨inside, dropped⟩ := outside
    have stored := List.getElem?_eq_getElem inside
    refine ⟨_, stored, ?_⟩
    rw [Bool.not_eq_true']
    exact Bool.eq_false_iff.mpr fun keeps => dropped ⟨_, stored, keeps⟩

theorem mem_constrain_eligibleCpus {cpu : Nat} :
    cpu ∈ (constrainMappingToCpus topo mapping allowedCpus).eligibleCpus ↔
      cpu ∈ mapping.eligibleCpus ∧ cpu ∈ allowedCpus :=
  TreeSet.mem_inter_iff

theorem MappingInvariant.constrain (holds : MappingInvariant topo mapping)
    (allowedCpus : TreeSet Nat) :
    MappingInvariant topo (constrainMappingToCpus topo mapping allowedCpus) := by
  refine MappingInvariant.rebuild holds.length ?_
  intro cpu listed
  exact holds.home cpu (TreeSet.mem_inter_iff.mp listed).1

theorem MappingInvariant.constrainAll (holds : MappingInvariant topo mapping)
    (calls : List (TreeSet Nat)) : MappingInvariant topo (constrainAll topo mapping calls) := by
  unfold Host.constrainAll
  induction calls generalizing mapping with
  | nil => exact holds
  | cons allowedCpus rest ih => exact ih (holds.constrain allowedCpus)

/-- What the filters leave as they find it. -/
structure SameVectors (left right : MappingInfo) : Prop where
  domainToCcx : left.domainToCcx = right.domainToCcx
  domainToCcm : left.domainToCcm = right.domainToCcm
  dfCapacity : left.domainToDfCapacityMibSX100 = right.domainToDfCapacityMibSX100
  csLinkCapacity : left.csLinkCapacityMibSX100 = right.csLinkCapacityMibSX100

/-- The same vectors and the same sets. -/
structure SameMappingInfo (left right : MappingInfo) : Prop where
  vectors : SameVectors left right
  eligibleDomains : ∀ domainId, domainId ∈ left.eligibleDomains ↔ domainId ∈ right.eligibleDomains
  excludedDomains : ∀ domainId, domainId ∈ left.excludedDomains ↔ domainId ∈ right.excludedDomains
  eligibleCpus : ∀ cpu, cpu ∈ left.eligibleCpus ↔ cpu ∈ right.eligibleCpus

theorem constrainAll_vectors (topo : TopologyLayout) (mapping : MappingInfo)
    (calls : List (TreeSet Nat)) :
    SameVectors (constrainAll topo mapping calls) mapping := by
  unfold constrainAll
  induction calls generalizing mapping with
  | nil => exact ⟨rfl, rfl, rfl, rfl⟩
  | cons allowedCpus rest ih =>
      obtain ⟨domainToCcx, domainToCcm, dfCapacity, csLinkCapacity⟩ :=
        ih (constrainMappingToCpus topo mapping allowedCpus)
      exact ⟨domainToCcx, domainToCcm, dfCapacity, csLinkCapacity⟩

theorem mem_constrainAll_eligibleCpus {cpu : Nat} :
    cpu ∈ (constrainAll topo mapping calls).eligibleCpus ↔
      cpu ∈ mapping.eligibleCpus ∧ ∀ allowedCpus ∈ calls, cpu ∈ allowedCpus := by
  unfold constrainAll
  induction calls generalizing mapping with
  | nil => simp
  | cons allowedCpus rest ih =>
      rw [List.foldl_cons, ih, mem_constrain_eligibleCpus, List.forall_mem_cons, and_assoc]

/-- Two mappings with the invariant, the same vectors and the same CPUs are the same. -/
theorem MappingInvariant.same {left right : MappingInfo} (holds : MappingInvariant topo left)
    (otherHolds : MappingInvariant topo right) (vectors : SameVectors left right)
    (cpus : ∀ cpu, cpu ∈ left.eligibleCpus ↔ cpu ∈ right.eligibleCpus) :
    SameMappingInfo left right := by
  have eligible : ∀ domainId,
      domainId ∈ left.eligibleDomains ↔ domainId ∈ right.eligibleDomains := by
    intro domainId
    rw [holds.eligible, otherHolds.eligible, vectors.domainToCcm, HasEligibleCpu, HasEligibleCpu]
    simp only [cpus]
  refine ⟨vectors, eligible, ?_, cpus⟩
  intro domainId
  rw [holds.excluded, otherHolds.excluded, eligible]

/-- The filters of the host are one more filter, or none when a sibling is not known. -/
theorem applyHostCpuFilters_eq (primarySiblingCpu : Nat → Except Text Nat)
    (topo : TopologyLayout) (mapping : MappingInfo) (managedCpuMax : Nat) (primarySmtOnly : Bool) :
    ∃ calls, (applyHostCpuFilters primarySiblingCpu topo mapping managedCpuMax primarySmtOnly).1 =
      constrainAll topo mapping calls := by
  unfold applyHostCpuFilters
  cases mapping.eligibleCpus.toList.foldlM
      (filteredCpus primarySiblingCpu managedCpuMax primarySmtOnly) ∅ with
  | error message => exact ⟨[], rfl⟩
  | ok allowedCpus =>
      refine ⟨[allowedCpus], ?_⟩
      dsimp only
      split <;> rfl

/-- The sets of domains are a partition, a domain is eligible when it has a CCM and an
eligible CPU, and so is the domain of every eligible CPU. -/
structure MappingSound (topo : TopologyLayout) (mapping : MappingInfo) : Prop where
  cover : ∀ domainId, domainId < topo.domains.length ↔
    domainId ∈ mapping.eligibleDomains ∨ domainId ∈ mapping.excludedDomains
  apart : ∀ domainId ∈ mapping.eligibleDomains, domainId ∉ mapping.excludedDomains
  eligible : ∀ domainId, domainId ∈ mapping.eligibleDomains ↔
    HasCcm mapping.domainToCcm domainId ∧ HasEligibleCpu topo mapping domainId
  home : ∀ cpu ∈ mapping.eligibleCpus,
    (∃ domainId ∈ mapping.eligibleDomains, cpu ∈ cpusOf topo domainId) ∧
      ∀ domainId, cpu ∈ cpusOf topo domainId → domainId ∈ mapping.eligibleDomains

theorem MappingInvariant.sound (holds : MappingInvariant topo mapping)
    (apart : DomainsApart topo) : MappingSound topo mapping where
  cover domainId := by
    rw [holds.excluded]
    constructor
    · intro inside
      by_cases eligible : domainId ∈ mapping.eligibleDomains
      · exact .inl eligible
      · exact .inr ⟨inside, eligible⟩
    · intro listed
      cases listed with
      | inl eligible => exact holds.length ▸ ((holds.eligible domainId).mp eligible).1.lt
      | inr excluded => exact excluded.1
  apart domainId eligible excluded := ((holds.excluded domainId).mp excluded).2 eligible
  eligible := holds.eligible
  home cpu listed := by
    obtain ⟨domainId, mapped, member⟩ := holds.home cpu listed
    have eligible := (holds.eligible domainId).mpr ⟨mapped, cpu, listed, member⟩
    refine ⟨⟨domainId, eligible, member⟩, ?_⟩
    intro other otherMember
    exact apart domainId other cpu member otherMember ▸ eligible

/-- The mapping of a topology with a CPU in every domain and no CPU in two of them is
built, stays sound whatever it is filtered by, and depends on the CPUs that all
filters allow only: these are the ones it keeps. The filters of the host are further
ones of the same kind. -/
theorem constrainAll_sound (topo : TopologyLayout) (hostMapping : HostMapping)
    (expected : topo.domains.length = llcDomainToCcx.length)
    (nonempty : ∀ info ∈ topo.domains, info.cpus ≠ []) (apart : DomainsApart topo) :
    ∃ mapping, buildMappingFromHostMapping topo hostMapping = .ok mapping ∧
      (∀ calls, MappingSound topo (constrainAll topo mapping calls)) ∧
      (∀ calls others : List (TreeSet Nat),
        (∀ cpu, (∀ allowedCpus ∈ calls, cpu ∈ allowedCpus) ↔
          ∀ allowedCpus ∈ others, cpu ∈ allowedCpus) →
        SameMappingInfo (constrainAll topo mapping calls) (constrainAll topo mapping others)) ∧
      (∀ calls cpu, cpu ∈ (constrainAll topo mapping calls).eligibleCpus ↔
        cpu ∈ mapping.eligibleCpus ∧ ∀ allowedCpus ∈ calls, cpu ∈ allowedCpus) ∧
      ∀ calls primarySiblingCpu managedCpuMax primarySmtOnly, ∃ more,
        (applyHostCpuFilters primarySiblingCpu topo (constrainAll topo mapping calls)
          managedCpuMax primarySmtOnly).1 = constrainAll topo mapping (calls ++ more) := by
  obtain ⟨mapping, built, holds⟩ := mappingInvariant_build expected nonempty hostMapping
  refine ⟨mapping, built, fun calls => (holds.constrainAll calls).sound apart, ?_, ?_, ?_⟩
  · intro calls others same
    have left := constrainAll_vectors topo mapping calls
    have right := constrainAll_vectors topo mapping others
    refine (holds.constrainAll calls).same (holds.constrainAll others)
      ⟨left.domainToCcx.trans right.domainToCcx.symm, left.domainToCcm.trans right.domainToCcm.symm,
        left.dfCapacity.trans right.dfCapacity.symm,
        left.csLinkCapacity.trans right.csLinkCapacity.symm⟩ ?_
    intro cpu
    rw [mem_constrainAll_eligibleCpus, mem_constrainAll_eligibleCpus, same]
  · exact fun calls cpu => mem_constrainAll_eligibleCpus
  · intro calls primarySiblingCpu managedCpuMax primarySmtOnly
    obtain ⟨more, filtered⟩ := applyHostCpuFilters_eq primarySiblingCpu topo
      (constrainAll topo mapping calls) managedCpuMax primarySmtOnly
    refine ⟨more, filtered.trans ?_⟩
    unfold constrainAll
    rw [List.foldl_append]

end Constrain

/-! Twelve domains of two CPUs, and one CCM: two filters allow what one of them does. -/

def pairTopology : TopologyLayout where
  nrCpuIds := 24
  domains := (List.range 12).map fun domainId =>
    { domainId, cpus := [2 * domainId, 2 * domainId + 1] }
  cpuToDomain := []

def oneCcm : HostMapping where
  ccmEntries := (∅ : TreeMap Nat CcmMappingEntry).insert 0
    { ccxId := 0, capacityMibSX100 := 2000000 }

theorem pairTopology_apart : DomainsApart pairTopology := by
  have inside : ∀ domainId cpu, cpu ∈ cpusOf pairTopology domainId → cpu / 2 = domainId := by
    intro domainId cpu listed
    unfold cpusOf pairTopology at listed
    by_cases small : domainId < 12
    · rw [List.getElem?_map, List.getElem?_range small] at listed
      simp only [Option.map_some, Option.getD_some, List.mem_cons, List.not_mem_nil, or_false]
        at listed
      omega
    · have beyond : ((List.range 12).map fun domainId : Nat =>
          ({ domainId, cpus := [2 * domainId, 2 * domainId + 1] } : DomainInfo))[domainId]? =
            none := by
        apply List.getElem?_eq_none_iff.mpr
        rw [List.length_map, List.length_range]
        omega
      rw [beyond] at listed
      cases listed
  intro left right cpu onLeft onRight
  exact (inside left cpu onLeft).symm.trans (inside right cpu onRight)

theorem constrainAll_sound_pairs :
    ∃ mapping, buildMappingFromHostMapping pairTopology oneCcm = .ok mapping ∧
      MappingSound pairTopology (constrainAll pairTopology mapping [.ofList [0], .ofList [0, 1]]) ∧
      SameMappingInfo (constrainAll pairTopology mapping [.ofList [0], .ofList [0, 1]])
        (constrainAll pairTopology mapping [.ofList [0]]) := by
  have nonempty : ∀ info ∈ pairTopology.domains, info.cpus ≠ [] := by
    intro info listed
    obtain ⟨domainId, _, rfl⟩ := List.mem_map.mp listed
    exact List.cons_ne_nil _ _
  obtain ⟨mapping, built, sound, same, _⟩ :=
    constrainAll_sound pairTopology oneCcm rfl nonempty pairTopology_apart
  refine ⟨mapping, built, sound _, same _ _ fun cpu => ?_⟩
  simp only [List.forall_mem_cons, List.not_mem_nil, false_implies, implies_true, and_true]
  refine and_iff_left_of_imp fun first => ?_
  rw [TreeSet.mem_ofList] at first ⊢
  simp only [List.contains_cons, List.contains_nil, Bool.or_false, Bool.or_eq_true] at first ⊢
  exact .inl first

end CSwitch.Host
