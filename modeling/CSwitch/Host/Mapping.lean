import CSwitch.Host.MappingFile
import CSwitch.Library.TreeSets

/-! The mapping of LLC domains to CCMs, and the CPUs that a filter leaves it. Building
the mapping and filtering it make the sets of domains by two loops of their own. -/

set_option autoImplicit false

namespace CSwitch.Host

open Library
open Std (TreeMap TreeSet)

def llcDomainToCcx : List Nat := [0, 1, 2, 3, 4, 5, 6, 7, 8, 9, 10, 11]

def cpusOf (topo : TopologyLayout) (domainId : Nat) : List Nat :=
  (topo.domains[domainId]?.map (·.cpus)).getD []

/-- `ccx_to_ccm`: of two CCMs with one CCX the later id stays. -/
def ccxToCcm (ccmMapping : TreeMap Nat CcmMappingEntry) : TreeMap Nat Nat :=
  ccmMapping.toList.foldl (fun map (ccmId, entry) => map.insert entry.ccxId ccmId) ∅

def ccmCapacity (ccmMapping : TreeMap Nat CcmMappingEntry) : TreeMap Nat Nat :=
  ccmMapping.toList.foldl (fun map (ccmId, entry) => map.insert ccmId entry.capacityMibSX100) ∅

/-- The sets and vectors that the loop over the domains fills. -/
structure DomainScan where
  eligibleDomains : TreeSet Nat := ∅
  excludedDomains : TreeSet Nat := ∅
  eligibleCpus : TreeSet Nat := ∅
  domainToCcm : List (Option Nat) := []
  domainToDfCapacityMibSX100 : List (Option Nat) := []

def scanDomain (topo : TopologyLayout) (ccxToCcm ccmCapacity : TreeMap Nat Nat)
    (scan : DomainScan) (entry : Nat × Nat) : DomainScan :=
  let (ccxId, domainId) := entry
  let maybeCcm := ccxToCcm[ccxId]?
  { eligibleDomains :=
      if maybeCcm.isSome then scan.eligibleDomains.insert domainId else scan.eligibleDomains
    excludedDomains :=
      if maybeCcm.isSome then scan.excludedDomains else scan.excludedDomains.insert domainId
    eligibleCpus :=
      if maybeCcm.isSome then (cpusOf topo domainId).foldl .insert scan.eligibleCpus
      else scan.eligibleCpus
    domainToCcm := scan.domainToCcm ++ [maybeCcm]
    domainToDfCapacityMibSX100 :=
      scan.domainToDfCapacityMibSX100 ++ [maybeCcm.bind fun ccmId => ccmCapacity[ccmId]?] }

def csLinkCount (topo : TopologyLayout) (csCapacityMibSX100 : TreeMap Nat Nat) : Nat :=
  let configured := (csCapacityMibSX100.maxKey?.map (· + 1)).getD 0
  min (max topo.domains.length configured) maxDomains

def csLinkCapacities (topo : TopologyLayout) (csCapacityMibSX100 : TreeMap Nat Nat) :
    List (Option Nat) :=
  csCapacityMibSX100.toList.foldl (fun slots (csId, capacity) => slots.set csId (some capacity))
    (List.replicate (csLinkCount topo csCapacityMibSX100) none)

def buildMappingWithCapacities (topo : TopologyLayout) (ccmMapping : TreeMap Nat CcmMappingEntry)
    (csCapacityMibSX100 : TreeMap Nat Nat) : Except Text MappingInfo :=
  if topo.domains.length ≠ llcDomainToCcx.length then
    .error ("this host mapping expects ".toList ++ decimal llcDomainToCcx.length ++
      " LLC domains, found ".toList ++ decimal topo.domains.length)
  else
    let scan := llcDomainToCcx.zipIdx.foldl
      (scanDomain topo (ccxToCcm ccmMapping) (ccmCapacity ccmMapping)) {}
    .ok
      { domainToCcx := llcDomainToCcx
        domainToCcm := scan.domainToCcm
        domainToDfCapacityMibSX100 := scan.domainToDfCapacityMibSX100
        csLinkCapacityMibSX100 := csLinkCapacities topo csCapacityMibSX100
        eligibleDomains := scan.eligibleDomains
        excludedDomains := scan.excludedDomains
        eligibleCpus := scan.eligibleCpus }

def buildMappingFromHostMapping (topo : TopologyLayout) (hostMapping : HostMapping) :
    Except Text MappingInfo :=
  buildMappingWithCapacities topo hostMapping.ccmEntries hostMapping.csCapacityMibSX100

/-- `has_cpu`: some CPU of the domain is eligible. -/
def hasEligibleCpu (topo : TopologyLayout) (mapping : MappingInfo) (domainId : Nat) : Bool :=
  (cpusOf topo domainId).any fun cpu => mapping.eligibleCpus.contains cpu

/-- One turn of the loop that rebuilds the eligible and the excluded domains. -/
def rebuildDomain (topo : TopologyLayout) (mapping : MappingInfo)
    (sets : TreeSet Nat × TreeSet Nat) (entry : Option Nat × Nat) : TreeSet Nat × TreeSet Nat :=
  let (maybeCcm, domainId) := entry
  if maybeCcm.isSome && hasEligibleCpu topo mapping domainId then
    (sets.1.insert domainId, sets.2)
  else (sets.1, sets.2.insert domainId)

def rebuildDomainSets (topo : TopologyLayout) (mapping : MappingInfo) : MappingInfo :=
  let sets := mapping.domainToCcm.zipIdx.foldl (rebuildDomain topo mapping) (∅, ∅)
  { mapping with eligibleDomains := sets.1, excludedDomains := sets.2 }

def constrainMappingToCpus (topo : TopologyLayout) (mapping : MappingInfo)
    (allowedCpus : TreeSet Nat) : MappingInfo :=
  rebuildDomainSets topo { mapping with eligibleCpus := mapping.eligibleCpus ∩ allowedCpus }

/-- The CPUs that the filters of the host leave. Reading the siblings of a CPU can fail. -/
def filteredCpus (primarySiblingCpu : Nat → Except Text Nat) (managedCpuMax : Nat)
    (primarySmtOnly : Bool) (allowedCpus : TreeSet Nat) (cpu : Nat) : Except Text (TreeSet Nat) :=
  if cpu > managedCpuMax then .ok allowedCpus
  else if !primarySmtOnly then .ok (allowedCpus.insert cpu)
  else
    match primarySiblingCpu cpu with
    | .error message => .error message
    | .ok primary => if primary ≠ cpu then .ok allowedCpus else .ok (allowedCpus.insert cpu)

def filtersRemovedEveryCpu (managedCpuMax : Nat) (primarySmtOnly : Bool) : Text :=
  "host CPU filters removed every eligible CPU (managed_cpu_max=".toList ++
    decimal managedCpuMax ++ ", primary_smt_only=".toList ++
    (if primarySmtOnly then "true" else "false").toList ++ ")".toList

/-- The mapping is changed even when nothing is left of it. -/
def applyHostCpuFilters (primarySiblingCpu : Nat → Except Text Nat) (topo : TopologyLayout)
    (mapping : MappingInfo) (managedCpuMax : Nat) (primarySmtOnly : Bool) :
    MappingInfo × Except Text Unit :=
  match mapping.eligibleCpus.toList.foldlM
      (filteredCpus primarySiblingCpu managedCpuMax primarySmtOnly) ∅ with
  | .error message => (mapping, .error message)
  | .ok allowedCpus =>
      let constrained := constrainMappingToCpus topo mapping allowedCpus
      if constrained.eligibleCpus.isEmpty then
        (constrained, .error (filtersRemovedEveryCpu managedCpuMax primarySmtOnly))
      else (constrained, .ok ())

def constrainAll (topo : TopologyLayout) (mapping : MappingInfo) (calls : List (TreeSet Nat)) :
    MappingInfo :=
  calls.foldl (constrainMappingToCpus topo) mapping

end CSwitch.Host
