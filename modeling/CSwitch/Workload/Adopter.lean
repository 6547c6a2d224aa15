import CSwitch.Library.Traversal
import CSwitch.Library.TreeSets
import CSwitch.Library.WorkRound
import CSwitch.Workload.CgroupGuard

/-! The adoption of a workload: what its processes started is found through `/proc`,
moved into the managed cgroup and switched to the scheduler, scan after scan. -/

set_option autoImplicit false

namespace CSwitch.Workload

open Std (TreeSet)
open CSwitch.Library

/-- An entry of the task list of a process, and what `set_sched_ext` answers for it. -/
structure ListedTask where
  tid : Nat
  switches : Bool
  deriving Repr, DecidableEq

/-- What one scan reads of a process, and what the calls for it answer. What cannot be
read is missing. -/
structure ProcessInfo where
  pid : Nat
  exe : Option String := none
  children : Option (List Nat) := none
  inCgroup : Bool := false
  moves : Bool := false
  tasks : Option (List (Option ListedTask)) := none
  deriving Repr, DecidableEq

/-! ## The processes of a workload -/

def readProcess (processes : List ProcessInfo) (pid : Nat) : Option ProcessInfo :=
  processes.find? fun process => process.pid == pid

def ProcessInfo.childPids (process : ProcessInfo) : List Nat := process.children.getD []

def readChildren (processes : List ProcessInfo) (pid : Nat) : Option (List Nat) :=
  (readProcess processes pid).map (·.childPids)

/-- The rounds of the queue: the root, and every child that some process lists. -/
def scanRounds (processes : List ProcessInfo) : Nat :=
  1 + (processes.map (·.childPids.length)).sum

def collectDescendantProcesses (processes : List ProcessInfo) (rootPid rounds : Nat) :
    Option (List ProcessInfo) :=
  (traverse (readChildren processes) rounds [rootPid] [] []).map fun pids =>
    pids.filterMap (readProcess processes)

/-- A process that `/proc` shows and that the root leads to. -/
def Descends (processes : List ProcessInfo) (rootPid : Nat) (process : ProcessInfo) : Prop :=
  readProcess processes process.pid = some process ∧
    FoundFrom (readChildren processes) rootPid process.pid

/-! ## The adopter -/

inductive AdoptCall where
  | movePidToCgroup (pid : Nat) (moved : Bool)
  | setSchedExt (pid tid : Nat) (switched : Bool)
  deriving Repr, DecidableEq

structure WorkloadAdopter where
  rootPid : Nat
  userschedExe : Option String
  knownPids : TreeSet Nat
  knownTids : TreeSet Nat
  lastScan : Nat
  scanEvery : Nat
  /-- What it asked the kernel for. -/
  calls : List AdoptCall := []

namespace WorkloadAdopter

def new (rootPid : Nat) (currentExe : Option String) (now : Nat) : WorkloadAdopter where
  rootPid := rootPid
  userschedExe := currentExe
  knownPids := TreeSet.ofList [rootPid]
  knownTids := ∅
  lastScan := now - 100_000_000
  scanEvery := 10_000_000

variable (adopter : WorkloadAdopter)

/-- A child that was forked but still runs the image of the scheduler. -/
def isPreExecStub (process : ProcessInfo) : Bool :=
  match adopter.userschedExe, process.exe with
  | some own, some exe => exe == own
  | _, _ => false

def trackedPids : TreeSet Nat := adopter.knownPids.foldl .insert (TreeSet.ofList [adopter.rootPid])

def adoptPid (process : ProcessInfo) : WorkloadAdopter :=
  if adopter.knownPids.contains process.pid then adopter
  else if process.inCgroup then
    { adopter with knownPids := adopter.knownPids.insert process.pid }
  else
    { adopter with
      calls := adopter.calls ++ [.movePidToCgroup process.pid process.moves]
      knownPids :=
        if process.moves then adopter.knownPids.insert process.pid else adopter.knownPids }

def adoptTask (pid : Nat) (task : ListedTask) : WorkloadAdopter :=
  if adopter.knownTids.contains task.tid then adopter
  else
    { adopter with
      calls := adopter.calls ++ [.setSchedExt pid task.tid task.switches]
      knownTids := if task.switches then adopter.knownTids.insert task.tid else adopter.knownTids }

def adoptProcess (process : ProcessInfo) : WorkloadAdopter :=
  let placed := adopter.adoptPid process
  if placed.isPreExecStub process then placed
  else
    match process.tasks with
    | none => placed
    | some tasks =>
        (tasks.filterMap id).foldl (fun current task => current.adoptTask process.pid task) placed

def syncNow (processes : List ProcessInfo) : WorkloadAdopter :=
  match collectDescendantProcesses processes adopter.rootPid (scanRounds processes) with
  | none => adopter
  | some descendants => descendants.foldl adoptProcess adopter

def maybeSync (now : Nat) (processes : List ProcessInfo) : WorkloadAdopter :=
  if now - adopter.lastScan < adopter.scanEvery then adopter
  else { adopter with lastScan := now }.syncNow processes

end WorkloadAdopter

/-- The roots that the dispatch loop gives the guard of the cgroup. -/
def trackedAnchors (adopters : List WorkloadAdopter) : TreeSet Nat :=
  adopters.foldl (fun tracked adopter => adopter.trackedPids.foldl .insert tracked) ∅

/-! ## What a scan finds -/

section Scan

variable {processes : List ProcessInfo} {pid rootPid : Nat} {process : ProcessInfo}

theorem readProcess_pid (found : readProcess processes pid = some process) : process.pid = pid :=
  beq_iff_eq.mp (List.find?_some (p := fun process : ProcessInfo => process.pid == pid) found)

/-- A process is listed under its own number only, so each list counts once. -/
theorem sum_listedCount_le (processes : List ProcessInfo) (nodes : Finset Nat) :
    ∑ pid ∈ nodes, listedCount (readChildren processes) pid ≤
      (processes.map (·.childPids.length)).sum := by
  induction processes with
  | nil =>
      apply Nat.le_of_eq
      apply Finset.sum_eq_zero
      intro pid _
      rfl
  | cons first rest ih =>
      have each : ∀ pid ∈ nodes, listedCount (readChildren (first :: rest)) pid ≤
          (if pid = first.pid then first.childPids.length else 0) +
            listedCount (readChildren rest) pid := by
        intro pid _
        by_cases same : pid = first.pid
        · subst same
          simp [listedCount, readChildren, readProcess]
        · have other : (first.pid == pid) = false := beq_eq_false_iff_ne.mpr (Ne.symm same)
          simp [listedCount, readChildren, readProcess, other, same]
      have own : ∑ pid ∈ nodes, (if pid = first.pid then first.childPids.length else 0) ≤
          first.childPids.length := by
        rw [Finset.sum_ite_eq' nodes first.pid]
        split
        · exact le_rfl
        · exact Nat.zero_le _
      calc ∑ pid ∈ nodes, listedCount (readChildren (first :: rest)) pid
          ≤ ∑ pid ∈ nodes, ((if pid = first.pid then first.childPids.length else 0) +
              listedCount (readChildren rest) pid) := Finset.sum_le_sum each
        _ = ∑ pid ∈ nodes, (if pid = first.pid then first.childPids.length else 0) +
              ∑ pid ∈ nodes, listedCount (readChildren rest) pid := Finset.sum_add_distrib
        _ ≤ first.childPids.length + (rest.map (·.childPids.length)).sum := Nat.add_le_add own ih
        _ = ((first :: rest).map (·.childPids.length)).sum := by simp

theorem traverse_readChildren (processes : List ProcessInfo) (rootPid : Nat) :
    (traverse (readChildren processes) (scanRounds processes) [rootPid] [] []).isSome = true := by
  have closed : ∀ pid ∈ (rootPid :: processes.flatMap (·.childPids)).toFinset, ∀ child,
      Listed (readChildren processes) pid child →
        child ∈ (rootPid :: processes.flatMap (·.childPids)).toFinset := by
    intro pid _ child listed
    obtain ⟨next, read, member⟩ := listed
    obtain ⟨process, found, same⟩ := Option.map_eq_some_iff.mp read
    subst same
    apply List.mem_toFinset.mpr
    apply List.mem_cons_of_mem
    exact List.mem_flatMap.mpr ⟨process, List.mem_of_find?_eq_some found, member⟩
  apply traverse_enough closed
  · intro pid member
    obtain rfl := List.mem_singleton.mp member
    exact List.mem_toFinset.mpr List.mem_cons_self
  · have bound := sum_listedCount_le processes
      ((rootPid :: processes.flatMap (·.childPids)).toFinset.filter (· ∉ ([] : List Nat)))
    rw [remaining, List.length_singleton, scanRounds]
    exact Nat.add_le_add_left bound 1

theorem exists_descendants (processes : List ProcessInfo) (rootPid : Nat) :
    ∃ descendants,
      collectDescendantProcesses processes rootPid (scanRounds processes) = some descendants ∧
      (descendants.map (·.pid)).Nodup ∧
      ∀ process, process ∈ descendants ↔ Descends processes rootPid process := by
  obtain ⟨pids, walked⟩ := Option.isSome_iff_exists.mp (traverse_readChildren processes rootPid)
  obtain ⟨once, members⟩ := (traversed_start (readChildren processes) rootPid).result walked
  have readable : ∀ pid ∈ pids, ∃ process, readProcess processes pid = some process := by
    intro pid member
    have read := ((members pid).mp member).2
    rw [readChildren, Option.isSome_map] at read
    exact Option.isSome_iff_exists.mp read
  have numbers : (pids.filterMap (readProcess processes)).map (·.pid) = pids := by
    clear walked once members
    induction pids with
    | nil => rfl
    | cons pid rest ih =>
        obtain ⟨process, found⟩ := readable pid List.mem_cons_self
        rw [List.filterMap_cons_some found, List.map_cons, readProcess_pid found,
          ih fun other member => readable other (List.mem_cons_of_mem pid member)]
  refine ⟨pids.filterMap (readProcess processes), ?_, numbers.symm ▸ once, ?_⟩
  · rw [collectDescendantProcesses, walked, Option.map_some]
  · intro process
    constructor
    · intro member
      obtain ⟨pid, listed, found⟩ := List.mem_filterMap.mp member
      obtain rfl := readProcess_pid found
      exact ⟨found, ((members _).mp listed).1⟩
    · intro descends
      apply List.mem_filterMap.mpr
      refine ⟨process.pid, (members process.pid).mpr ⟨descends.2, ?_⟩, descends.1⟩
      rw [readChildren, descends.1]
      rfl

/-- The walk through the child lists ends within the processes and children that there
are, and answers with the readable descendants of the root, each once. -/
theorem collectDescendantProcesses_exact (processes : List ProcessInfo) (rootPid : Nat) :
    ∃ descendants,
      (∀ rounds, scanRounds processes ≤ rounds →
        collectDescendantProcesses processes rootPid rounds = some descendants) ∧
      (descendants.map (·.pid)).Nodup ∧
      ∀ process, process ∈ descendants ↔ Descends processes rootPid process := by
  obtain ⟨descendants, collected, once, members⟩ := exists_descendants processes rootPid
  refine ⟨descendants, ?_, once, members⟩
  intro rounds enough
  obtain ⟨pids, walked, found⟩ := Option.map_eq_some_iff.mp collected
  rw [collectDescendantProcesses, traverse_more enough walked, Option.map_some, found]

/-- A child that ended meanwhile is left out, a child listed twice is not. -/
example : (collectDescendantProcesses [{ pid := 1, children := some [2, 3, 2] },
    { pid := 2, children := some [1] }] 1 6).map (·.map (·.pid)) = some [1, 2] := by decide

end Scan

end CSwitch.Workload
