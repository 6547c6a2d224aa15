import CSwitch.Workload.Adopter

/-! What the scans of an adopter do over a run: nothing is asked for twice once it
worked, every process that could be adopted is, and the guard of the cgroup accepts
what was adopted. -/

set_option autoImplicit false

namespace CSwitch.Workload

open Std (TreeSet)
open CSwitch.Library

/-- The second call asks for what the first one already did. -/
def AdoptCall.Repeats : AdoptCall → AdoptCall → Prop
  | .movePidToCgroup pid true, .movePidToCgroup other _ => pid = other
  | .setSchedExt _ tid true, .setSchedExt _ other _ => tid = other
  | _, _ => False

/-- A call that the processes of a scan give a reason for. -/
def Justified (processes : List ProcessInfo) (adopter : WorkloadAdopter) : AdoptCall → Prop
  | .movePidToCgroup pid moved => ∃ process, Descends processes adopter.rootPid process ∧
      process.pid = pid ∧ process.inCgroup = false ∧ process.moves = moved
  | .setSchedExt pid tid switched => ∃ process tasks, Descends processes adopter.rootPid process ∧
      process.pid = pid ∧ adopter.isPreExecStub process = false ∧
      process.tasks = some tasks ∧ some ⟨tid, switched⟩ ∈ tasks

/-- A process that a scan finds in the cgroup or moves there. -/
def PlacedIn (processes : List ProcessInfo) (rootPid pid : Nat) : Prop :=
  ∃ process, Descends processes rootPid process ∧ process.pid = pid ∧
    (process.inCgroup = true ∨ process.moves = true)

namespace WorkloadAdopter

/-- The known processes and threads against the calls that were made. -/
structure Recorded (adopter : WorkloadAdopter) : Prop where
  root : adopter.rootPid ∈ adopter.knownPids
  pids : ∀ pid, .movePidToCgroup pid true ∈ adopter.calls → pid ∈ adopter.knownPids
  tids : ∀ tid, tid ∈ adopter.knownTids ↔ ∃ pid, .setSchedExt pid tid true ∈ adopter.calls
  unmoved : ∀ moved, .movePidToCgroup adopter.rootPid moved ∉ adopter.calls
  once : adopter.calls.Pairwise fun before after => ¬ before.Repeats after

/-- One adopter later: nothing was forgotten, what was asked for has a reason, and the
processes that are new to it were found. -/
structure Grown (reason : AdoptCall → Prop) (found : Nat → Prop)
    (before after : WorkloadAdopter) : Prop where
  root : after.rootPid = before.rootPid
  exe : after.userschedExe = before.userschedExe
  pids : ∀ pid ∈ before.knownPids, pid ∈ after.knownPids
  tids : ∀ tid ∈ before.knownTids, tid ∈ after.knownTids
  calls : ∃ new, after.calls = before.calls ++ new ∧ ∀ call ∈ new, reason call
  found : ∀ pid ∈ after.knownPids, pid ∈ before.knownPids ∨ found pid

/-- A process of a scan was adopted, or the kernel refused. -/
structure Adopted (adopter : WorkloadAdopter) (process : ProcessInfo) : Prop where
  placed : process.pid ∈ adopter.knownPids ∨ process.inCgroup = false ∧ process.moves = false
  switched : adopter.isPreExecStub process = false → ∀ tasks, process.tasks = some tasks →
    ∀ task, some task ∈ tasks → task.tid ∈ adopter.knownTids ∨ task.switches = false

section Grown

variable {reason : AdoptCall → Prop} {found : Nat → Prop} {first second third : WorkloadAdopter}
  {process : ProcessInfo}

theorem no_new_calls (calls : List AdoptCall) :
    ∃ new, calls = calls ++ new ∧ ∀ call ∈ new, reason call :=
  ⟨[], (List.append_nil calls).symm, fun _ none => absurd none List.not_mem_nil⟩

theorem one_new_call {call : AdoptCall} (calls : List AdoptCall) (given : reason call) :
    ∃ new, calls ++ [call] = calls ++ new ∧ ∀ other ∈ new, reason other := by
  refine ⟨[call], rfl, ?_⟩
  intro other member
  obtain rfl := List.mem_singleton.mp member
  exact given

theorem Grown.refl (adopter : WorkloadAdopter) : Grown reason found adopter adopter where
  root := rfl
  exe := rfl
  pids _ known := known
  tids _ known := known
  calls := no_new_calls adopter.calls
  found _ known := .inl known

theorem Grown.trans (before : Grown reason found first second)
    (after : Grown reason found second third) :
    Grown reason found first third where
  root := after.root.trans before.root
  exe := after.exe.trans before.exe
  pids pid known := after.pids pid (before.pids pid known)
  tids tid known := after.tids tid (before.tids tid known)
  calls := by
    obtain ⟨early, earlier, earlyReason⟩ := before.calls
    obtain ⟨late, later, lateReason⟩ := after.calls
    refine ⟨early ++ late, by rw [later, earlier, List.append_assoc], ?_⟩
    intro call member
    cases List.mem_append.mp member with
    | inl old => exact earlyReason call old
    | inr new => exact lateReason call new
  found pid known := by
    cases after.found pid known with
    | inl old => exact before.found pid old
    | inr new => exact .inr new

theorem Grown.mono {weaker : AdoptCall → Prop} {finds : Nat → Prop}
    (grown : Grown reason found first second) (weaken : ∀ call, reason call → weaker call)
    (widen : ∀ pid, found pid → finds pid) : Grown weaker finds first second where
  root := grown.root
  exe := grown.exe
  pids := grown.pids
  tids := grown.tids
  calls := by
    obtain ⟨new, same, given⟩ := grown.calls
    exact ⟨new, same, fun call member => weaken call (given call member)⟩
  found pid known := (grown.found pid known).imp_right (widen pid)

theorem isPreExecStub_congr (same : second.userschedExe = first.userschedExe) :
    second.isPreExecStub process = first.isPreExecStub process := by
  rw [isPreExecStub, isPreExecStub, same]

/-- Adopted once, a process stays so. -/
theorem Adopted.later (adopted : first.Adopted process) (grown : Grown reason found first second) :
    second.Adopted process where
  placed := adopted.placed.imp_left (grown.pids process.pid)
  switched ready tasks listed task member := by
    rw [isPreExecStub_congr grown.exe] at ready
    exact (adopted.switched ready tasks listed task member).imp_left (grown.tids task.tid)

end Grown

section Steps

variable {reason : AdoptCall → Prop} {found : Nat → Prop} {adopter : WorkloadAdopter}
  {process : ProcessInfo}
  {task : ListedTask} {pid : Nat}

/-! ### Moving a process -/

theorem adoptPid_grown
    (moves : process.inCgroup = false → reason (.movePidToCgroup process.pid process.moves))
    (finds : process.inCgroup = true ∨ process.moves = true → found process.pid) :
    Grown reason found adopter (adopter.adoptPid process) := by
  unfold adoptPid
  split
  · exact .refl adopter
  · split
    · next inside =>
      exact {
        root := rfl
        exe := rfl
        pids := fun _ known => TreeSet.mem_insert.mpr (.inr known)
        tids := fun _ known => known
        calls := no_new_calls adopter.calls
        found := by
          intro pid known
          cases TreeSet.mem_insert.mp known with
          | inl same => exact .inr (compare_eq_iff_eq.mp same ▸ finds (.inl inside))
          | inr old => exact .inl old }
    · next outside =>
      exact {
        root := rfl
        exe := rfl
        pids := by
          intro other known
          cases process.moves with
          | false => exact known
          | true => exact TreeSet.mem_insert.mpr (.inr known)
        tids := fun _ known => known
        calls := one_new_call adopter.calls (moves (Bool.eq_false_iff.mpr outside))
        found := by
          intro pid known
          dsimp only at known
          split at known
          · next moved =>
            cases TreeSet.mem_insert.mp known with
            | inl same => exact .inr (compare_eq_iff_eq.mp same ▸ finds (.inr moved))
            | inr old => exact .inl old
          · exact .inl known }

theorem adoptPid_placed : process.pid ∈ (adopter.adoptPid process).knownPids ∨
    process.inCgroup = false ∧ process.moves = false := by
  unfold adoptPid
  split
  · next known => exact .inl (TreeSet.contains_iff_mem.mp known)
  · split
    · exact .inl TreeSet.mem_insert_self
    · next outside =>
      cases moves : process.moves with
      | false => exact .inr ⟨Bool.eq_false_iff.mpr outside, rfl⟩
      | true => exact .inl TreeSet.mem_insert_self

theorem Recorded.adoptPid (recorded : adopter.Recorded) (process : ProcessInfo) :
    (adopter.adoptPid process).Recorded := by
  unfold WorkloadAdopter.adoptPid
  split
  · exact recorded
  · next unknown =>
    have fresh : process.pid ∉ adopter.knownPids := fun known =>
      unknown (TreeSet.contains_iff_mem.mpr known)
    split
    · exact {
        root := TreeSet.mem_insert.mpr (.inr recorded.root)
        pids := fun pid moved => TreeSet.mem_insert.mpr (.inr (recorded.pids pid moved))
        tids := recorded.tids
        unmoved := recorded.unmoved
        once := recorded.once }
    · constructor
      · dsimp only
        split
        · exact TreeSet.mem_insert.mpr (.inr recorded.root)
        · exact recorded.root
      · intro pid moved
        dsimp only at moved ⊢
        cases List.mem_append.mp moved with
        | inl old =>
            have known := recorded.pids pid old
            split
            · exact TreeSet.mem_insert.mpr (.inr known)
            · exact known
        | inr new =>
            obtain ⟨rfl, worked⟩ := AdoptCall.movePidToCgroup.inj (List.mem_singleton.mp new)
            rw [if_pos worked.symm]
            exact TreeSet.mem_insert_self
      · intro tid
        rw [recorded.tids tid]
        simp
      · intro moved member
        cases List.mem_append.mp member with
        | inl old => exact recorded.unmoved moved old
        | inr new =>
            obtain ⟨same, _⟩ := AdoptCall.movePidToCgroup.inj (List.mem_singleton.mp new)
            exact fresh (same ▸ recorded.root)
      · apply List.pairwise_append.mpr ⟨recorded.once, List.pairwise_singleton _ _, ?_⟩
        intro before earlier after single repeats
        obtain rfl := List.mem_singleton.mp single
        cases before with
        | setSchedExt _ _ switched => cases switched <;> exact repeats
        | movePidToCgroup pid moved =>
            cases moved with
            | false => exact repeats
            | true =>
                obtain rfl : pid = process.pid := repeats
                exact fresh (recorded.pids process.pid earlier)

/-! ### Switching a thread -/

theorem adoptTask_grown (reasons : reason (.setSchedExt pid task.tid task.switches)) :
    Grown reason found adopter (adopter.adoptTask pid task) := by
  unfold adoptTask
  split
  · exact .refl adopter
  · exact {
      root := rfl
      exe := rfl
      pids := fun _ known => known
      tids := by
        intro other known
        cases task.switches with
        | false => exact known
        | true => exact TreeSet.mem_insert.mpr (.inr known)
      calls := one_new_call adopter.calls reasons
      found := fun _ known => .inl known }

theorem adoptTask_switched :
    task.tid ∈ (adopter.adoptTask pid task).knownTids ∨ task.switches = false := by
  unfold adoptTask
  split
  · next known => exact .inl (TreeSet.contains_iff_mem.mp known)
  · cases task.switches with
    | false => exact .inr rfl
    | true => exact .inl TreeSet.mem_insert_self

theorem Recorded.adoptTask (recorded : adopter.Recorded) (pid : Nat) (task : ListedTask) :
    (adopter.adoptTask pid task).Recorded := by
  unfold WorkloadAdopter.adoptTask
  split
  · exact recorded
  · next unknown =>
    have fresh : task.tid ∉ adopter.knownTids := fun known =>
      unknown (TreeSet.contains_iff_mem.mpr known)
    constructor
    · exact recorded.root
    · intro other moved
      cases List.mem_append.mp moved with
      | inl old => exact recorded.pids other old
      | inr new => cases List.mem_singleton.mp new
    · intro tid
      have before := recorded.tids tid
      cases worked : task.switches with
      | false => simpa using before
      | true =>
          simp only [if_true, TreeSet.mem_insert, compare_eq_iff_eq, List.mem_append,
            List.mem_singleton, AdoptCall.setSchedExt.injEq, and_true, before]
          constructor
          · intro known
            cases known with
            | inl same => exact ⟨pid, .inr ⟨rfl, same.symm⟩⟩
            | inr old =>
                obtain ⟨owner, called⟩ := old
                exact ⟨owner, .inl called⟩
          · intro called
            obtain ⟨owner, old | new⟩ := called
            · exact .inr ⟨owner, old⟩
            · exact .inl new.2.symm
    · intro moved member
      cases List.mem_append.mp member with
      | inl old => exact recorded.unmoved moved old
      | inr new => cases List.mem_singleton.mp new
    · apply List.pairwise_append.mpr ⟨recorded.once, List.pairwise_singleton _ _, ?_⟩
      intro before earlier after single repeats
      obtain rfl := List.mem_singleton.mp single
      cases before with
      | movePidToCgroup _ moved => cases moved <;> exact repeats
      | setSchedExt owner tid switched =>
          cases switched with
          | false => exact repeats
          | true =>
              obtain rfl : tid = task.tid := repeats
              exact fresh ((recorded.tids task.tid).mpr ⟨owner, earlier⟩)

theorem adoptTasks_grown {tasks : List ListedTask}
    (reasons : ∀ task ∈ tasks, reason (.setSchedExt pid task.tid task.switches)) :
    Grown reason found adopter
      (tasks.foldl (fun current task => current.adoptTask pid task) adopter) := by
  induction tasks generalizing adopter with
  | nil => exact .refl adopter
  | cons task rest ih =>
      apply (adoptTask_grown (reasons task List.mem_cons_self)).trans
      exact ih fun other member => reasons other (List.mem_cons_of_mem task member)

theorem adoptTasks_switched {tasks : List ListedTask} (member : task ∈ tasks) :
    task.tid ∈ (tasks.foldl (fun current task => current.adoptTask pid task) adopter).knownTids ∨
      task.switches = false := by
  induction tasks generalizing adopter with
  | nil => cases member
  | cons first rest ih =>
      cases List.mem_cons.mp member with
      | inl same =>
          subst same
          have later : Grown (fun _ => True) (fun _ => True) (adopter.adoptTask pid task)
              (rest.foldl (fun current task => current.adoptTask pid task)
                (adopter.adoptTask pid task)) :=
            adoptTasks_grown fun _ _ => trivial
          exact adoptTask_switched.imp_left (later.tids task.tid)
      | inr later => exact ih later

theorem Recorded.adoptTasks (recorded : adopter.Recorded) (pid : Nat) (tasks : List ListedTask) :
    (tasks.foldl (fun current task => current.adoptTask pid task) adopter).Recorded := by
  induction tasks generalizing adopter with
  | nil => exact recorded
  | cons task rest ih => exact ih (recorded.adoptTask pid task)

/-! ### A process -/

theorem adoptProcess_ready {tasks : List (Option ListedTask)} (listed : process.tasks = some tasks)
    (ready : (adopter.adoptPid process).isPreExecStub process = false) :
    adopter.adoptProcess process = (tasks.filterMap id).foldl
      (fun current task => current.adoptTask process.pid task) (adopter.adoptPid process) := by
  simp only [adoptProcess, ready, listed, Bool.false_eq_true, if_false]

/-- A stub, or a process whose tasks cannot be read, is only moved. -/
theorem adoptProcess_idle (idle : (adopter.adoptPid process).isPreExecStub process = true ∨
    process.tasks = none) : adopter.adoptProcess process = adopter.adoptPid process := by
  cases idle with
  | inl stub => simp only [adoptProcess, stub, if_true]
  | inr unread => simp only [adoptProcess, unread, ite_self]

theorem adoptProcess_later
    (switches : (adopter.adoptPid process).isPreExecStub process = false →
      ∀ tasks, process.tasks = some tasks → ∀ task, some task ∈ tasks →
        reason (.setSchedExt process.pid task.tid task.switches)) :
    Grown reason found (adopter.adoptPid process) (adopter.adoptProcess process) := by
  cases stub : (adopter.adoptPid process).isPreExecStub process with
  | true => exact adoptProcess_idle (.inl stub) ▸ .refl _
  | false =>
      cases listed : process.tasks with
      | none => exact adoptProcess_idle (.inr listed) ▸ .refl _
      | some tasks =>
          rw [adoptProcess_ready listed stub]
          apply adoptTasks_grown
          intro task member
          obtain ⟨entry, inside, same⟩ := List.mem_filterMap.mp member
          exact switches stub tasks listed task (same ▸ inside)

theorem adoptProcess_grown
    (moves : process.inCgroup = false → reason (.movePidToCgroup process.pid process.moves))
    (finds : process.inCgroup = true ∨ process.moves = true → found process.pid)
    (switches : adopter.isPreExecStub process = false → ∀ tasks, process.tasks = some tasks →
      ∀ task, some task ∈ tasks → reason (.setSchedExt process.pid task.tid task.switches)) :
    Grown reason found adopter (adopter.adoptProcess process) := by
  have placed : Grown reason found adopter (adopter.adoptPid process) := adoptPid_grown moves finds
  apply placed.trans
  apply adoptProcess_later
  rwa [isPreExecStub_congr placed.exe]

theorem Recorded.adoptProcess (recorded : adopter.Recorded) (process : ProcessInfo) :
    (adopter.adoptProcess process).Recorded := by
  have placed := recorded.adoptPid process
  cases stub : (adopter.adoptPid process).isPreExecStub process with
  | true => exact (adoptProcess_idle (.inl stub)).symm ▸ placed
  | false =>
      cases listed : process.tasks with
      | none => exact (adoptProcess_idle (.inr listed)).symm ▸ placed
      | some tasks =>
          rw [adoptProcess_ready listed stub]
          exact placed.adoptTasks process.pid (tasks.filterMap id)

theorem adoptProcess_adopted (adopter : WorkloadAdopter) (process : ProcessInfo) :
    (adopter.adoptProcess process).Adopted process := by
  have later : Grown (fun _ => True) (fun _ => True) (adopter.adoptPid process)
      (adopter.adoptProcess process) :=
    adoptProcess_later fun _ _ _ _ _ => trivial
  constructor
  · exact adoptPid_placed.imp_left (later.pids process.pid)
  · intro ready tasks listed task member
    rw [isPreExecStub_congr later.exe] at ready
    rw [adoptProcess_ready listed ready]
    exact adoptTasks_switched (List.mem_filterMap.mpr ⟨some task, member, rfl⟩)

/-! ### A scan -/

variable {processes descendants : List ProcessInfo}

theorem adoptProcesses_grown (justified : ∀ process ∈ descendants,
    (process.inCgroup = false → reason (.movePidToCgroup process.pid process.moves)) ∧
    (process.inCgroup = true ∨ process.moves = true → found process.pid) ∧
    (adopter.isPreExecStub process = false → ∀ tasks, process.tasks = some tasks →
      ∀ task, some task ∈ tasks → reason (.setSchedExt process.pid task.tid task.switches))) :
    Grown reason found adopter (descendants.foldl adoptProcess adopter) := by
  induction descendants generalizing adopter with
  | nil => exact .refl adopter
  | cons process rest ih =>
      obtain ⟨moves, finds, switches⟩ := justified process List.mem_cons_self
      have first : Grown reason found adopter (adopter.adoptProcess process) :=
        adoptProcess_grown moves finds switches
      apply first.trans
      apply ih
      intro other member
      rw [isPreExecStub_congr first.exe]
      exact justified other (List.mem_cons_of_mem process member)

theorem adoptProcesses_adopted (member : process ∈ descendants) :
    (descendants.foldl adoptProcess adopter).Adopted process := by
  induction descendants generalizing adopter with
  | nil => cases member
  | cons first rest ih =>
      cases List.mem_cons.mp member with
      | inr later => exact ih later
      | inl same =>
          subst same
          have later : Grown (fun _ => True) (fun _ => True) (adopter.adoptProcess process)
              (rest.foldl adoptProcess (adopter.adoptProcess process)) :=
            adoptProcesses_grown fun _ _ =>
              ⟨fun _ => trivial, fun _ => trivial, fun _ _ _ _ _ => trivial⟩
          exact (adoptProcess_adopted adopter process).later later

theorem Recorded.adoptProcesses (recorded : adopter.Recorded) (descendants : List ProcessInfo) :
    (descendants.foldl WorkloadAdopter.adoptProcess adopter).Recorded := by
  induction descendants generalizing adopter with
  | nil => exact recorded
  | cons process rest ih => exact ih (recorded.adoptProcess process)

/-- What one scan does, with the descendants that it found. -/
theorem syncNow_scanned (adopter : WorkloadAdopter) (processes : List ProcessInfo) :
    ∃ descendants : List ProcessInfo,
      adopter.syncNow processes = descendants.foldl adoptProcess adopter ∧
      ∀ process, process ∈ descendants ↔ Descends processes adopter.rootPid process := by
  obtain ⟨descendants, found, _, members⟩ := exists_descendants processes adopter.rootPid
  exact ⟨descendants, by rw [syncNow, found], members⟩

theorem syncNow_grown (adopter : WorkloadAdopter) (processes : List ProcessInfo) :
    Grown (Justified processes adopter) (PlacedIn processes adopter.rootPid) adopter
      (adopter.syncNow processes) := by
  obtain ⟨descendants, same, members⟩ := syncNow_scanned adopter processes
  rw [same]
  apply adoptProcesses_grown
  intro process member
  have descends := (members process).mp member
  refine ⟨?_, ?_, ?_⟩
  · intro outside
    exact ⟨process, descends, rfl, outside, rfl⟩
  · intro placed
    exact ⟨process, descends, rfl, placed⟩
  · intro ready tasks listed task inside
    exact ⟨process, tasks, descends, rfl, ready, listed, inside⟩

theorem syncNow_adopted (descends : Descends processes adopter.rootPid process) :
    (adopter.syncNow processes).Adopted process := by
  obtain ⟨descendants, same, members⟩ := syncNow_scanned adopter processes
  rw [same]
  exact adoptProcesses_adopted ((members process).mpr descends)

theorem Recorded.syncNow (recorded : adopter.Recorded) (processes : List ProcessInfo) :
    (adopter.syncNow processes).Recorded := by
  obtain ⟨descendants, same, _⟩ := syncNow_scanned adopter processes
  exact same ▸ recorded.adoptProcesses descendants

end Steps

end WorkloadAdopter

/-! ## A run of scans -/

section Run

/-- The adopter of a workload after a number of rounds of the dispatch loop, each with
its time and with what a scan would read then. -/
def adoptions (start : WorkloadAdopter) (input : Nat → Nat × List ProcessInfo) :
    Nat → WorkloadAdopter :=
  iterate (fun scan adopter => adopter.maybeSync scan.1 scan.2) input start

/-- The last scan is long enough ago. -/
def ScansAt (adopter : WorkloadAdopter) (now : Nat) : Prop :=
  adopter.scanEvery ≤ now - adopter.lastScan

namespace WorkloadAdopter

variable {adopter : WorkloadAdopter} {now : Nat} {processes : List ProcessInfo}

theorem maybeSync_idle (recent : ¬ ScansAt adopter now) :
    adopter.maybeSync now processes = adopter := by
  rw [maybeSync, if_pos (Nat.lt_of_not_le recent)]

theorem maybeSync_scans (due : ScansAt adopter now) :
    adopter.maybeSync now processes = { adopter with lastScan := now }.syncNow processes := by
  rw [maybeSync, if_neg (Nat.not_lt_of_le due)]

theorem Recorded.maybeSync (recorded : adopter.Recorded) (now : Nat)
    (processes : List ProcessInfo) : (adopter.maybeSync now processes).Recorded := by
  by_cases due : ScansAt adopter now
  · have dated : Recorded { adopter with lastScan := now } :=
      ⟨recorded.root, recorded.pids, recorded.tids, recorded.unmoved, recorded.once⟩
    rw [maybeSync_scans due]
    exact dated.syncNow processes
  · rwa [maybeSync_idle due]

theorem maybeSync_grown (adopter : WorkloadAdopter) (now : Nat) (processes : List ProcessInfo) :
    Grown (fun call => ScansAt adopter now ∧ Justified processes adopter call)
      (fun pid => ScansAt adopter now ∧ PlacedIn processes adopter.rootPid pid) adopter
      (adopter.maybeSync now processes) := by
  by_cases due : ScansAt adopter now
  · rw [maybeSync_scans due]
    have scanned := syncNow_grown { adopter with lastScan := now } processes
    have same : ∀ call, Justified processes { adopter with lastScan := now } call →
        ScansAt adopter now ∧ Justified processes adopter call := by
      intro call reason
      cases call with
      | movePidToCgroup pid moved => exact ⟨due, reason⟩
      | setSchedExt pid tid switched => exact ⟨due, reason⟩
    exact { scanned.mono same fun _ placed => ⟨due, placed⟩ with }
  · rw [maybeSync_idle due]
    exact .refl adopter

theorem maybeSync_adopted {process : ProcessInfo} (due : ScansAt adopter now)
    (descends : Descends processes adopter.rootPid process) :
    (adopter.maybeSync now processes).Adopted process := by
  rw [maybeSync_scans due]
  exact syncNow_adopted descends

theorem new_recorded (rootPid : Nat) (currentExe : Option String) (now : Nat) :
    (new rootPid currentExe now).Recorded where
  root := by simp [new]
  pids _ moved := absurd moved List.not_mem_nil
  tids tid := by simp [new]
  unmoved _ := List.not_mem_nil
  once := List.Pairwise.nil

end WorkloadAdopter

open WorkloadAdopter

variable {start : WorkloadAdopter} {input : Nat → Nat × List ProcessInfo} {count : Nat}

theorem adoptions_recorded (recorded : start.Recorded) :
    (adoptions start input count).Recorded := by
  induction count with
  | zero => exact recorded
  | succ count ih => exact ih.maybeSync (input count).1 (input count).2

/-- The scans that took place before a round. -/
def ScannedBefore (start : WorkloadAdopter) (input : Nat → Nat × List ProcessInfo)
    (count : Nat) (processes : List ProcessInfo) : Prop :=
  ∃ index < count, ScansAt (adoptions start input index) (input index).1 ∧
    processes = (input index).2

theorem ScannedBefore.succ {processes : List ProcessInfo}
    (scanned : ScannedBefore start input count processes) :
    ScannedBefore start input (count + 1) processes := by
  obtain ⟨index, before, due, same⟩ := scanned
  exact ⟨index, Nat.lt_succ_of_lt before, due, same⟩

/-- The run lemma: whatever an adopter did since it started, a scan gives the reason. -/
theorem adoptions_grown (start : WorkloadAdopter) (input : Nat → Nat × List ProcessInfo)
    (count : Nat) :
    Grown (fun call => ∃ processes, ScannedBefore start input count processes ∧
        Justified processes start call)
      (fun pid => ∃ processes, ScannedBefore start input count processes ∧
        PlacedIn processes start.rootPid pid)
      start (adoptions start input count) := by
  induction count with
  | zero => exact .refl start
  | succ count ih =>
      have step := maybeSync_grown (adoptions start input count) (input count).1 (input count).2
      refine (ih.mono ?_ ?_).trans (step.mono ?_ ?_)
      · intro call known
        obtain ⟨processes, scanned, reason⟩ := known
        exact ⟨processes, scanned.succ, reason⟩
      · intro pid known
        obtain ⟨processes, scanned, placed⟩ := known
        exact ⟨processes, scanned.succ, placed⟩
      · intro call justified
        refine ⟨(input count).2, ⟨count, Nat.lt_succ_self count, justified.1, rfl⟩, ?_⟩
        have reason := justified.2
        cases call with
        | movePidToCgroup pid moved =>
            obtain ⟨process, descends, given⟩ := reason
            exact ⟨process, ih.root ▸ descends, given⟩
        | setSchedExt pid tid switched =>
            obtain ⟨process, tasks, descends, same, ready, listed⟩ := reason
            rw [isPreExecStub_congr ih.exe] at ready
            exact ⟨process, tasks, ih.root ▸ descends, same, ready, listed⟩
      · intro pid placed
        refine ⟨(input count).2, ⟨count, Nat.lt_succ_self count, placed.1, rfl⟩, ?_⟩
        exact ih.root ▸ placed.2

/-- Two rounds of one run. -/
theorem adoptions_later (start : WorkloadAdopter) (input : Nat → Nat × List ProcessInfo)
    {index count : Nat} (before : index ≤ count) :
    Grown (fun _ => True) (fun _ => True) (adoptions start input index)
      (adoptions start input count) := by
  induction count, before using Nat.le_induction with
  | base => exact .refl _
  | succ count _ ih =>
      have step := maybeSync_grown (adoptions start input count) (input count).1 (input count).2
      exact ih.trans (step.mono (fun _ _ => trivial) fun _ _ => trivial)

/-- Every scan adopts what it finds, for good. -/
theorem adopted_of_scanned {processes : List ProcessInfo} {process : ProcessInfo}
    (scanned : ScannedBefore start input count processes)
    (descends : Descends processes start.rootPid process) :
    (adoptions start input count).Adopted process := by
  obtain ⟨index, before, due, rfl⟩ := scanned
  rw [← (adoptions_grown start input index).root] at descends
  have adopted : (adoptions start input (index + 1)).Adopted process :=
    maybeSync_adopted due descends
  exact adopted.later (adoptions_later start input before)

/-- No process is moved twice and no thread switched twice, however often they are
scanned. The root is never moved, and a process or a thread is asked for only where
a scan found it below the root and past the image of the scheduler. -/
theorem adoptions_once (rootPid : Nat) (currentExe : Option String) (now : Nat)
    (input : Nat → Nat × List ProcessInfo) (count : Nat) :
    let start := new rootPid currentExe now
    let adopter := adoptions start input count
    adopter.calls.Pairwise (fun before after => ¬ before.Repeats after) ∧
    (∀ tid, tid ∈ adopter.knownTids ↔ ∃ pid, .setSchedExt pid tid true ∈ adopter.calls) ∧
    (∀ moved, .movePidToCgroup rootPid moved ∉ adopter.calls) ∧
    ∀ call ∈ adopter.calls, ∃ processes, ScannedBefore start input count processes ∧
      Justified processes start call := by
  intro start adopter
  have recorded : adopter.Recorded := adoptions_recorded (new_recorded rootPid currentExe now)
  have grown := adoptions_grown start input count
  refine ⟨recorded.once, recorded.tids, ?_, ?_⟩
  · intro moved
    have unmoved := recorded.unmoved moved
    rwa [grown.root] at unmoved
  · intro call member
    obtain ⟨new, same, reasons⟩ := grown.calls
    apply reasons call
    rwa [same] at member

end Run

/-! ## The guard -/

section Guard

open WorkloadAdopter

/-- A workload, and what its adopter saw of it. -/
structure Adoption where
  rootPid : Nat
  currentExe : Option String
  started : Nat
  input : Nat → Nat × List ProcessInfo

def Adoption.start (adoption : Adoption) : WorkloadAdopter :=
  new adoption.rootPid adoption.currentExe adoption.started

def Adoption.after (adoption : Adoption) (count : Nat) : WorkloadAdopter :=
  adoptions adoption.start adoption.input count

/-- A process that belongs to the workload: its root, or found by a scan and placed. -/
def Adoption.Owns (adoption : Adoption) (count pid : Nat) : Prop :=
  pid = adoption.rootPid ∨ ∃ processes,
    ScannedBefore adoption.start adoption.input count processes ∧
      PlacedIn processes adoption.rootPid pid

theorem mem_trackedPids {adopter : WorkloadAdopter} {pid : Nat} :
    pid ∈ adopter.trackedPids ↔ pid ∈ adopter.knownPids ∨ pid = adopter.rootPid := by
  rw [trackedPids, TreeSet.foldl_eq_foldl_toList, mem_foldl_insert, TreeSet.mem_toList,
    @eq_comm _ pid]
  simp

theorem Adoption.mem_trackedPids (adoption : Adoption) (count pid : Nat) :
    pid ∈ (adoption.after count).trackedPids ↔ adoption.Owns count pid := by
  have grown := adoptions_grown adoption.start adoption.input count
  have recorded : (adoption.after count).Recorded :=
    adoptions_recorded (new_recorded adoption.rootPid adoption.currentExe adoption.started)
  have root : (adoption.after count).rootPid = adoption.rootPid := grown.root
  rw [Workload.mem_trackedPids, root]
  constructor
  · intro tracked
    cases tracked with
    | inr same => exact .inl same
    | inl known =>
        cases grown.found pid known with
        | inr found => exact .inr found
        | inl first =>
            have same : adoption.rootPid = pid := by
              simpa [Adoption.start, new, compare_eq_iff_eq] using first
            exact .inl same.symm
  · intro owned
    cases owned with
    | inl same => exact .inr same
    | inr found =>
        obtain ⟨processes, scanned, process, descends, rfl, placed⟩ := found
        have adopted := adopted_of_scanned scanned descends
        cases adopted.placed with
        | inl known => exact .inl known
        | inr refused => simp [refused.1, refused.2] at placed

/-- A thread that some scan found below the root, and that could be switched. -/
def Adoption.Switches (adoption : Adoption) (count tid : Nat) : Prop :=
  ∃ processes, ScannedBefore adoption.start adoption.input count processes ∧
    ∃ process tasks, Descends processes adoption.rootPid process ∧
      adoption.start.isPreExecStub process = false ∧
      process.tasks = some tasks ∧ some ⟨tid, true⟩ ∈ tasks

/-- After any rounds the adopter knows exactly what its scans found and the kernel
granted. -/
theorem adoption_exact (adoption : Adoption) (count : Nat) :
    (∀ pid, pid ∈ (adoption.after count).trackedPids ↔ adoption.Owns count pid) ∧
    ∀ tid, tid ∈ (adoption.after count).knownTids ↔ adoption.Switches count tid := by
  have grown := adoptions_grown adoption.start adoption.input count
  have recorded : (adoption.after count).Recorded :=
    adoptions_recorded (new_recorded adoption.rootPid adoption.currentExe adoption.started)
  refine ⟨adoption.mem_trackedPids count, fun tid => ⟨?_, ?_⟩⟩
  · intro known
    obtain ⟨pid, called⟩ := (recorded.tids tid).mp known
    obtain ⟨calls, same, reasons⟩ := grown.calls
    have all : (adoption.after count).calls = calls := same
    rw [all] at called
    obtain ⟨processes, scanned, process, tasks, descends, _, ready, listed⟩ := reasons _ called
    exact ⟨processes, scanned, process, tasks, descends, ready, listed⟩
  · intro switched
    obtain ⟨processes, scanned, process, tasks, descends, ready, listed, member⟩ := switched
    have adopted := adopted_of_scanned scanned descends
    rw [← isPreExecStub_congr grown.exe] at ready
    cases adopted.switched ready tasks listed _ member with
    | inl known => exact known
    | inr refused => cases refused

/-- The anchors of the dispatch loop are what belongs to some workload. -/
theorem mem_trackedAnchors_after (adoptions : List Adoption) (count pid : Nat) :
    pid ∈ trackedAnchors (adoptions.map (·.after count)) ↔
      ∃ adoption ∈ adoptions, adoption.Owns count pid := by
  rw [trackedAnchors, mem_foldl_union]
  constructor
  · intro tracked
    obtain ⟨adopter, member, known⟩ := tracked
    obtain ⟨adoption, listed, rfl⟩ := List.mem_map.mp member
    exact ⟨adoption, listed, (adoption.mem_trackedPids count pid).mp known⟩
  · intro owned
    obtain ⟨adoption, listed, owns⟩ := owned
    exact ⟨_, List.mem_map_of_mem listed, (adoption.mem_trackedPids count pid).mpr owns⟩

/-- The checks of a cgroup. A new guard finds only an empty one clean; another root never
makes the check of a running one fail; and after any rounds of the loop that check passes
exactly if the parents of every process in the cgroup lead, within the cgroup, to one that
belongs to a workload. -/
theorem assertRuntimeMembership_adopted (guard : CgroupGuard) (adoptions : List Adoption)
    (count : Nat) (members : List CgroupMemberInfo) (procPpid : Nat → Option Nat) :
    ((CgroupGuard.new guard.cgroupPath).assertCleanStart (.ok members) = .ok () ↔ members = []) ∧
    (∀ root, guard.allowedRoots.isEmpty = false →
      guard.assertRuntimeMembership (.ok members) procPpid = .ok () →
      (guard.allowRoot root).assertRuntimeMembership (.ok members) procPpid = .ok ()) ∧
    ((guard.setAllowedAnchors (trackedAnchors (adoptions.map (·.after count)))
        ).assertRuntimeMembership (.ok members) procPpid = .ok () ↔
      adoptions = [] ∨ ∀ member ∈ members, ∃ steps < 256, ∃ owned,
        ascend procPpid steps member.pid = some owned ∧
        (∃ adoption ∈ adoptions, adoption.Owns count owned) ∧
        ∀ between, 0 < between → between < steps →
          ∀ value, ascend procPpid between member.pid = some value →
            value ∈ members.map (·.pid) ∨ value = member.pid) := by
  refine ⟨CgroupGuard.new_assertCleanStart_ok_iff,
    fun root => CgroupGuard.assertRuntimeMembership_allowRoot, ?_⟩
  have anchors := mem_trackedAnchors_after adoptions count
  have members_set : ∀ value, value ∈ TreeSet.ofList (members.map (·.pid)) ↔
      value ∈ members.map (·.pid) := by
    intro value
    rw [TreeSet.mem_ofList, List.contains_iff_mem]
  apply CgroupGuard.assertRuntimeMembership_ok_iff.trans
  apply or_congr
  · constructor
    · intro none
      by_contra launched
      obtain ⟨adoption, listed⟩ := List.exists_mem_of_ne_nil adoptions launched
      have root := (anchors adoption.rootPid).mpr ⟨adoption, listed, .inl rfl⟩
      exact absurd root (TreeSet.isEmpty_iff_forall_not_mem.mp none adoption.rootPid)
    · intro none
      subst none
      rfl
  · rw [List.eq_nil_iff_forall_not_mem]
    constructor
    · intro accepted member listed
      have managed : isManagedCgroupMember member.pid
          (trackedAnchors (adoptions.map (·.after count)))
          (TreeSet.ofList (members.map (·.pid))) procPpid = true := by
        by_contra refused
        exact accepted member
          (CgroupGuard.mem_foreignMembers.mpr ⟨listed, Bool.eq_false_iff.mpr refused⟩)
      obtain ⟨steps, short, owned, reached, anchor, inside⟩ := isManagedCgroupMember_iff.mp managed
      refine ⟨steps, short, owned, reached, (anchors owned).mp anchor, ?_⟩
      intro between first last value met
      exact (inside between first last value met).imp_left (members_set value).mp
    · intro owned member foreign
      obtain ⟨listed, refused⟩ := CgroupGuard.mem_foreignMembers.mp foreign
      apply Bool.eq_false_iff.mp refused
      obtain ⟨steps, short, root, reached, owner, inside⟩ := owned member listed
      apply isManagedCgroupMember_iff.mpr
      refine ⟨steps, short, root, reached, (anchors root).mpr owner, ?_⟩
      intro between first last value met
      exact (inside between first last value met).imp_left (members_set value).mpr

end Guard

end CSwitch.Workload
