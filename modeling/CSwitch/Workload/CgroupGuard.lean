import CSwitch.Library.BoundedWalk

/-! The guard of the managed cgroup: which of its processes belong there by the
parents they have. -/

set_option autoImplicit false

namespace CSwitch.Workload

open Std (TreeSet)
open CSwitch.Library

/-- How many processes of a parent chain are looked at. -/
def parentChainDepth : Nat := 256

def isDescendantPid (pid : Nat) (allowedRoots : TreeSet Nat)
    (parentLookup : Nat → Option Nat) : Bool :=
  boundedWalk parentLookup allowedRoots.contains (fun _ => false) parentChainDepth (some pid)

/-- A process between the first one and a root that is not in the cgroup. -/
def isForeignParent (pid : Nat) (cgroupMembers : TreeSet Nat) (value : Nat) : Bool :=
  value != pid && !cgroupMembers.contains value

def isManagedCgroupMember (pid : Nat) (allowedRoots cgroupMembers : TreeSet Nat)
    (parentLookup : Nat → Option Nat) : Bool :=
  boundedWalk parentLookup allowedRoots.contains (isForeignParent pid cgroupMembers)
    parentChainDepth (some pid)

structure CgroupMemberInfo where
  pid : Nat
  ppid : Option Nat
  comm : String
  deriving Repr, DecidableEq

structure CgroupGuard where
  cgroupPath : String
  allowedRoots : TreeSet Nat

namespace CgroupGuard

def new (cgroupPath : String) : CgroupGuard where
  cgroupPath := cgroupPath
  allowedRoots := ∅

def allowRoot (guard : CgroupGuard) (pid : Nat) : CgroupGuard :=
  { guard with allowedRoots := guard.allowedRoots.insert pid }

def setAllowedAnchors (guard : CgroupGuard) (pids : TreeSet Nat) : CgroupGuard :=
  { guard with allowedRoots := pids }

def formatMember (member : CgroupMemberInfo) : String :=
  match member.ppid with
  | some ppid => s!"{member.pid}:{member.comm}(ppid={ppid})"
  | none => s!"{member.pid}:{member.comm}"

def formatMembers (members : List CgroupMemberInfo) : String :=
  ", ".intercalate (members.map formatMember)

/-- What is read of the cgroup comes first, a failure to read it is passed on. -/
def assertCleanStart (guard : CgroupGuard)
    (cgroupMemberInfo : Except String (List CgroupMemberInfo)) : Except String Unit := do
  let members ← cgroupMemberInfo
  let foreign := members.filter fun member => !guard.allowedRoots.contains member.pid
  if foreign.isEmpty then
    return
  throw s!"managed cgroup {guard.cgroupPath} is not clean before launch: {formatMembers foreign}"

def foreignMembers (guard : CgroupGuard) (members : List CgroupMemberInfo)
    (procPpid : Nat → Option Nat) : List CgroupMemberInfo :=
  let memberPids := TreeSet.ofList (members.map (·.pid))
  members.filter fun member =>
    !isManagedCgroupMember member.pid guard.allowedRoots memberPids procPpid

def assertRuntimeMembership (guard : CgroupGuard)
    (cgroupMemberInfo : Except String (List CgroupMemberInfo))
    (procPpid : Nat → Option Nat) : Except String Unit := do
  if guard.allowedRoots.isEmpty then
    return
  let members ← cgroupMemberInfo
  let foreign := guard.foreignMembers members procPpid
  if foreign.isEmpty then
    return
  throw (s!"foreign processes entered managed cgroup {guard.cgroupPath}: {formatMembers foreign}" ++
    ". launch concurrent apps via --spawn-shell / managed workload launch instead of from a managed shell")

end CgroupGuard

variable {pid : Nat} {allowedRoots cgroupMembers : TreeSet Nat} {parentLookup : Nat → Option Nat}

theorem isForeignParent_eq_false {value : Nat} :
    isForeignParent pid cgroupMembers value = false ↔ value ∈ cgroupMembers ∨ value = pid := by
  simp only [isForeignParent, Bool.and_eq_false_iff, bne_eq_false_iff_eq, Bool.not_eq_false',
    TreeSet.contains_iff_mem, or_comm]

theorem isDescendantPid_iff :
    isDescendantPid pid allowedRoots parentLookup = true ↔
      ∃ steps < 256, ∃ root, ascend parentLookup steps pid = some root ∧ root ∈ allowedRoots := by
  rw [isDescendantPid, boundedWalk_iff]
  apply exists_congr
  intro steps
  apply and_congr_right
  intro _
  constructor
  · intro accepted
    obtain ⟨root, reached, hit⟩ := accepted.hit
    exact ⟨root, reached, TreeSet.contains_iff_mem.mp hit⟩
  · intro found
    obtain ⟨root, reached, member⟩ := found
    exact ⟨⟨root, reached, TreeSet.contains_iff_mem.mpr member⟩, fun _ _ _ _ => rfl⟩

/-- The process itself is never foreign on its own chain, so only what lies
strictly between it and the root counts. -/
theorem isManagedCgroupMember_iff :
    isManagedCgroupMember pid allowedRoots cgroupMembers parentLookup = true ↔
      ∃ steps < 256, ∃ root, ascend parentLookup steps pid = some root ∧ root ∈ allowedRoots ∧
        ∀ between, 0 < between → between < steps →
          ∀ value, ascend parentLookup between pid = some value →
            value ∈ cgroupMembers ∨ value = pid := by
  rw [isManagedCgroupMember, boundedWalk_iff]
  apply exists_congr
  intro steps
  apply and_congr_right
  intro _
  constructor
  · intro accepted
    obtain ⟨root, reached, hit⟩ := accepted.hit
    refine ⟨root, reached, TreeSet.contains_iff_mem.mp hit, ?_⟩
    intro between _ less value met
    exact isForeignParent_eq_false.mp (accepted.before between less value met)
  · intro found
    obtain ⟨root, reached, member, inside⟩ := found
    refine ⟨⟨root, reached, TreeSet.contains_iff_mem.mpr member⟩, ?_⟩
    intro earlier less value met
    apply isForeignParent_eq_false.mpr
    cases earlier with
    | zero => exact .inr (Option.some.inj met).symm
    | succ earlier => exact inside (earlier + 1) (Nat.succ_pos earlier) less value met

/-- More roots and more members only admit more. -/
theorem isManagedCgroupMember_mono {moreRoots moreMembers : TreeSet Nat}
    (roots : ∀ root ∈ allowedRoots, root ∈ moreRoots)
    (members : ∀ member ∈ cgroupMembers, member ∈ moreMembers)
    (managed : isManagedCgroupMember pid allowedRoots cgroupMembers parentLookup = true) :
    isManagedCgroupMember pid moreRoots moreMembers parentLookup = true := by
  apply boundedWalk_mono _ _ managed
  · intro node hit
    exact TreeSet.contains_iff_mem.mpr (roots node (TreeSet.contains_iff_mem.mp hit))
  · intro node kept
    exact isForeignParent_eq_false.mpr ((isForeignParent_eq_false.mp kept).imp_left (members node))

theorem isDescendantPid_of_managed
    (managed : isManagedCgroupMember pid allowedRoots cgroupMembers parentLookup = true) :
    isDescendantPid pid allowedRoots parentLookup = true :=
  boundedWalk_mono (fun _ hit => hit) (fun _ _ => rfl) managed

/-- The guard's two walks up the parents of a process, as the loops they are. -/
theorem cgroup_guard_characterised (pid : Nat) (allowedRoots cgroupMembers : TreeSet Nat)
    (parentLookup : Nat → Option Nat) :
    (∀ answer, WalkReturns parentLookup allowedRoots.contains (isForeignParent pid cgroupMembers)
        256 (some pid) 0 answer ↔
      answer = isManagedCgroupMember pid allowedRoots cgroupMembers parentLookup) ∧
    (isManagedCgroupMember pid allowedRoots cgroupMembers parentLookup = true ↔
      ∃ steps < 256, ∃ root, ascend parentLookup steps pid = some root ∧ root ∈ allowedRoots ∧
        ∀ between, 0 < between → between < steps →
          ∀ value, ascend parentLookup between pid = some value →
            value ∈ cgroupMembers ∨ value = pid) ∧
    (∀ moreRoots moreMembers : TreeSet Nat, (∀ root ∈ allowedRoots, root ∈ moreRoots) →
      (∀ member ∈ cgroupMembers, member ∈ moreMembers) →
      isManagedCgroupMember pid allowedRoots cgroupMembers parentLookup = true →
      isManagedCgroupMember pid moreRoots moreMembers parentLookup = true) ∧
    (isManagedCgroupMember pid allowedRoots cgroupMembers parentLookup = true →
      isDescendantPid pid allowedRoots parentLookup = true) ∧
    (∀ answer, WalkReturns parentLookup allowedRoots.contains (fun _ => false)
        256 (some pid) 0 answer ↔
      answer = isDescendantPid pid allowedRoots parentLookup) ∧
    (isDescendantPid pid allowedRoots parentLookup = true ↔
      ∃ steps < 256, ∃ root, ascend parentLookup steps pid = some root ∧ root ∈ allowedRoots) := by
  refine ⟨?returns, isManagedCgroupMember_iff, ?mono, isDescendantPid_of_managed, ?ends,
    isDescendantPid_iff⟩
  case returns => exact fun _ => walkReturns_iff (Nat.zero_add 256) (by decide)
  case mono => exact fun _ _ roots members => isManagedCgroupMember_mono roots members
  case ends => exact fun _ => walkReturns_iff (Nat.zero_add 256) (by decide)

/-! ## The checks of the guard -/

namespace CgroupGuard

variable {guard : CgroupGuard} {members : List CgroupMemberInfo} {procPpid : Nat → Option Nat}

theorem assertCleanStart_ok_iff :
    guard.assertCleanStart (.ok members) = .ok () ↔
      ∀ member ∈ members, member.pid ∈ guard.allowedRoots := by
  have clean : (members.filter fun member => !guard.allowedRoots.contains member.pid).isEmpty = true ↔
      ∀ member ∈ members, member.pid ∈ guard.allowedRoots := by
    simp only [List.isEmpty_iff, List.filter_eq_nil_iff, Bool.not_eq_true, Bool.not_eq_false',
      TreeSet.contains_iff_mem]
  rw [← clean]
  simp only [assertCleanStart, bind, Except.bind]
  split <;> simp_all [pure, Except.pure, throw, throwThe, MonadExceptOf.throw]

/-- A new guard allows no root. -/
theorem new_assertCleanStart_ok_iff {cgroupPath : String} :
    (new cgroupPath).assertCleanStart (.ok members) = .ok () ↔ members = [] := by
  rw [assertCleanStart_ok_iff, List.eq_nil_iff_forall_not_mem]
  exact forall₂_congr fun _ _ => iff_false_intro TreeSet.not_mem_emptyc

theorem mem_foreignMembers {member : CgroupMemberInfo} :
    member ∈ guard.foreignMembers members procPpid ↔
      member ∈ members ∧ isManagedCgroupMember member.pid guard.allowedRoots
        (TreeSet.ofList (members.map (·.pid))) procPpid = false := by
  simp only [foreignMembers, List.mem_filter, Bool.not_eq_true']

theorem assertRuntimeMembership_ok_iff :
    guard.assertRuntimeMembership (.ok members) procPpid = .ok () ↔
      guard.allowedRoots.isEmpty = true ∨ guard.foreignMembers members procPpid = [] := by
  rw [← List.isEmpty_iff]
  simp only [assertRuntimeMembership, bind, Except.bind]
  split
  · simp_all [pure, Except.pure]
  · split <;> simp_all [pure, Except.pure, throw, throwThe, MonadExceptOf.throw]

/-- One more root never makes a running cgroup fail its check. -/
theorem assertRuntimeMembership_allowRoot {root : Nat} (some : guard.allowedRoots.isEmpty = false)
    (passed : guard.assertRuntimeMembership (.ok members) procPpid = .ok ()) :
    (guard.allowRoot root).assertRuntimeMembership (.ok members) procPpid = .ok () := by
  cases assertRuntimeMembership_ok_iff.mp passed with
  | inl empty => exact absurd (some.symm.trans empty) (by decide)
  | inr none =>
      apply assertRuntimeMembership_ok_iff.mpr
      apply Or.inr
      apply List.eq_nil_iff_forall_not_mem.mpr
      intro member foreign
      obtain ⟨listed, unmanaged⟩ := mem_foreignMembers.mp foreign
      apply List.eq_nil_iff_forall_not_mem.mp none member
      refine mem_foreignMembers.mpr ⟨listed, ?_⟩
      apply Bool.eq_false_iff.mpr
      intro managed
      apply Bool.eq_false_iff.mp unmanaged
      apply isManagedCgroupMember_mono _ (fun _ member => member) managed
      exact fun _ allowed => TreeSet.mem_insert.mpr (.inr allowed)

end CgroupGuard

end CSwitch.Workload
