import CSwitch.Host.Text
import CSwitch.Library.Runs
import CSwitch.Library.TreeSets

/-! CPU lists: the text that the scheduler prints for a set of CPUs, and the two parsers
that read such lists from the host, for siblings and for the affinity of a thread. -/

set_option autoImplicit false

namespace CSwitch.Host

open Library
open Std (TreeMap TreeSet)

/-- The loops of `cpus_to_cpulist` from the first CPU of a run on. The increment wraps. -/
def cpuRunsFrom (start stop : Nat) : List Nat → List (Nat × Nat)
  | [] => [(start, stop)]
  | next :: rest =>
      if next = wrapAdd32 stop 1 then cpuRunsFrom start next rest
      else (start, stop) :: cpuRunsFrom next next rest

def cpuRuns : List Nat → List (Nat × Nat)
  | [] => []
  | start :: rest => cpuRunsFrom start start rest

def printRun (run : Nat × Nat) : Text :=
  if run.1 = run.2 then decimal run.1 else decimal run.1 ++ '-' :: decimal run.2

def cpusToCpulist (cpus : TreeSet Nat) : Text :=
  [','].intercalate ((cpuRuns cpus.toList).map printRun)

/-- `for cpu in start..=end`. -/
def insertCpus (cpus : TreeSet Nat) (run : Nat × Nat) : TreeSet Nat :=
  (List.range' run.1 (run.2 + 1 - run.1)).foldl .insert cpus

/-- One part of a list of siblings. What is not a number is left out. -/
def parseCpuPart (cpus : TreeSet Nat) (rawPart : Text) : TreeSet Nat :=
  let part := trim rawPart
  if part.isEmpty then cpus
  else
    match splitOnce '-' part with
    | some (start, stop) =>
        match parseU32 (trim start), parseU32 (trim stop) with
        | some start, some stop => insertCpus cpus (start, stop)
        | _, _ => cpus
    | none =>
        match parseU32 part with
        | some cpu => cpus.insert cpu
        | none => cpus

def parseCpuList (text : Text) : TreeSet Nat :=
  ((trim text).splitOn ',').foldl parseCpuPart ∅

/-- One part of the affinity of a thread. What is not a number is an error. -/
def parseAllowedPart (cpus : TreeSet Nat) (part : Text) : Option (TreeSet Nat) :=
  match splitOnce '-' part with
  | some (start, stop) => do
      let start ← parseU32 start
      let stop ← parseU32 stop
      return insertCpus cpus (start, stop)
  | none => if part.isEmpty then some cpus else (parseU32 part).map cpus.insert

def allowedListStart : Text := "Cpus_allowed_list:\t".toList

/-- The first line of a status that lists CPUs; without one there are none. -/
def parseAllowedCpus (status : Text) : Option (TreeSet Nat) :=
  match (lines status).findSome? (stripPrefix allowedListStart) with
  | some list => ((trim list).splitOn ',').foldlM parseAllowedPart ∅
  | none => some ∅

structure AffinityCacheEntry where
  cpus : TreeSet Nat
  sampledAtNs : Nat

structure AffinityCache where
  ttlNs : Nat
  entries : TreeMap Nat AffinityCacheEntry := ∅

/-- The entry of a thread while it is not older than the cache keeps it. -/
def AffinityCache.fresh (cache : AffinityCache) (tid nowNs : Nat) : Option AffinityCacheEntry :=
  cache.entries[tid]?.filter fun entry => nowNs - entry.sampledAtNs ≤ cache.ttlNs

/-- The CPUs of a thread, from its status where the cache has none; no entry is made
when the status cannot be read or parsed. -/
def AffinityCache.allowedCpus (cache : AffinityCache) (tid nowNs : Nat) (status : Option Text) :
    Option (TreeSet Nat) × AffinityCache :=
  match cache.fresh tid nowNs with
  | some entry => (some entry.cpus, cache)
  | none =>
      match status.bind parseAllowedCpus with
      | none => (none, cache)
      | some cpus =>
          (some cpus,
            { cache with entries := cache.entries.insert tid { cpus, sampledAtNs := nowNs } })

/-! ## Printed numbers -/

section Decimal

variable {char : Char} {value : Nat}

theorem isDigit_of_mem_decimal (member : char ∈ decimal value) : char.isDigit = true :=
  Nat.isDigit_of_mem_toDigits (by decide) (by decide) member

theorem not_isWhitespace_of_isDigit (digit : char.isDigit = true) : isWhitespace char = false := by
  have bounds : 48 ≤ char.toNat ∧ char.toNat ≤ 57 := Char.isDigit_iff_toNat.mp digit
  unfold isWhitespace
  simp only [Bool.or_eq_false_iff, Bool.and_eq_false_iff, decide_eq_false_iff_not,
    beq_eq_false_iff_ne]
  omega

theorem parseDigits_decimal (range : value ≤ u32Max) : parseDigits (decimal value) = some value := by
  have digits : (decimal value).all Char.isDigit = true :=
    List.all_eq_true.mpr fun char member => isDigit_of_mem_decimal member
  have some : (decimal value).isEmpty = false := by
    simp [decimal]
  unfold parseDigits
  rw [some, digits]
  have read : Nat.ofDigitChars 10 (decimal value) 0 = value := Nat.ofDigitChars_ten_toDigits
  dsimp only
  rw [read, if_neg (by simp), if_pos range]

theorem parseU32_decimal (range : value ≤ u32Max) : parseU32 (decimal value) = some value := by
  have read := parseDigits_decimal range
  unfold parseU32
  split
  · next digits printed =>
      have sign : '+' ∈ decimal value := printed ▸ List.mem_cons_self
      exact absurd (isDigit_of_mem_decimal sign) (by decide)
  · exact read

theorem decimal_ne_nil (value : Nat) : decimal value ≠ [] := Nat.toDigits_ne_nil

theorem not_mem_decimal (value : Nat) (other : char.isDigit = false) : char ∉ decimal value := by
  intro member
  exact Bool.false_ne_true (other.symm.trans (isDigit_of_mem_decimal member))

end Decimal

/-! ## Printed runs -/

section Print

variable {cpus : TreeSet Nat} {run : Nat × Nat} {parts : List (Nat × Nat)} {text : Text}

theorem trim_eq_self (clean : ∀ char ∈ text, isWhitespace char = false) : trim text = text := by
  have front : text.dropWhile isWhitespace = text := by
    cases text with
    | nil => rfl
    | cons char rest => exact List.dropWhile_cons_of_neg (by simp [clean char List.mem_cons_self])
  rw [trim, front, List.rdropWhile_eq_self_iff]
  intro nonempty blank
  exact Bool.false_ne_true ((clean _ (List.getLast_mem nonempty)).symm.trans blank)

theorem splitOnce_decimal (value : Nat) : splitOnce '-' (decimal value) = none :=
  if_neg (not_mem_decimal value (by decide))

theorem splitOnce_range (start stop : Nat) :
    splitOnce '-' (decimal start ++ '-' :: decimal stop) = some (decimal start, decimal stop) := by
  have before : ∀ char ∈ decimal start, decide (char ≠ '-') = true := by
    intro char member
    refine decide_eq_true fun same => ?_
    exact not_mem_decimal start (by decide) (same ▸ member)
  have dash : '-' ∈ decimal start ++ '-' :: decimal stop :=
    List.mem_append_right _ List.mem_cons_self
  rw [splitOnce, if_pos dash, List.takeWhile_append_of_pos before, List.dropWhile_append_of_pos before]
  simp

theorem mem_printRun {char : Char} (member : char ∈ printRun run) :
    char.isDigit = true ∨ char = '-' := by
  unfold printRun at member
  split at member
  · exact .inl (isDigit_of_mem_decimal member)
  · cases List.mem_append.mp member with
    | inl first => exact .inl (isDigit_of_mem_decimal first)
    | inr later =>
        cases List.mem_cons.mp later with
        | inl dash => exact .inr dash
        | inr last => exact .inl (isDigit_of_mem_decimal last)

theorem printRun_ne_nil (run : Nat × Nat) : printRun run ≠ [] := by
  unfold printRun
  split
  · exact decimal_ne_nil run.1
  · exact fun empty => decimal_ne_nil run.1 (List.append_eq_nil_iff.mp empty).1

theorem not_isWhitespace_printRun (run : Nat × Nat) {char : Char} (member : char ∈ printRun run) :
    isWhitespace char = false := by
  cases mem_printRun member with
  | inl digit => exact not_isWhitespace_of_isDigit digit
  | inr dash => exact dash ▸ (by decide)

theorem comma_not_mem_printRun (run : Nat × Nat) : ',' ∉ printRun run := by
  intro member
  cases mem_printRun member with
  | inl digit => exact absurd digit (by decide)
  | inr dash => exact absurd dash (by decide)

theorem insertCpus_single (cpus : TreeSet Nat) (cpu : Nat) :
    insertCpus cpus (cpu, cpu) = cpus.insert cpu := by
  unfold insertCpus
  rw [Nat.add_sub_cancel_left]
  rfl

/-- Both parsers read back what is printed for a run. -/
theorem parseCpuPart_printRun (cpus : TreeSet Nat) (ordered : run.1 ≤ run.2)
    (range : run.2 ≤ u32Max) : parseCpuPart cpus (printRun run) = insertCpus cpus run := by
  obtain ⟨start, stop⟩ := run
  have same := trim_eq_self fun char member => not_isWhitespace_printRun (start, stop) member
  have nonempty : (printRun (start, stop)).isEmpty = false := by
    simp [printRun_ne_nil]
  have digits : ∀ value, trim (decimal value) = decimal value := fun value =>
    trim_eq_self fun char member => not_isWhitespace_of_isDigit (isDigit_of_mem_decimal member)
  unfold parseCpuPart
  dsimp only
  rw [same, nonempty, if_neg Bool.false_ne_true]
  unfold printRun
  dsimp only at ordered range ⊢
  by_cases single : start = stop
  · subst single
    rw [if_pos rfl, splitOnce_decimal]
    dsimp only
    rw [parseU32_decimal range, insertCpus_single]
  · rw [if_neg single, splitOnce_range]
    dsimp only
    rw [digits, digits, parseU32_decimal (ordered.trans range), parseU32_decimal range]

theorem parseAllowedPart_printRun (cpus : TreeSet Nat) (ordered : run.1 ≤ run.2)
    (range : run.2 ≤ u32Max) : parseAllowedPart cpus (printRun run) = some (insertCpus cpus run) := by
  obtain ⟨start, stop⟩ := run
  unfold parseAllowedPart printRun
  dsimp only at ordered range ⊢
  by_cases single : start = stop
  · subst single
    have nonempty : (decimal start).isEmpty = false := by
      simp [decimal_ne_nil]
    rw [if_pos rfl, splitOnce_decimal]
    dsimp only
    rw [nonempty, if_neg Bool.false_ne_true, parseU32_decimal range, Option.map_some,
      insertCpus_single]
  · rw [if_neg single, splitOnce_range]
    dsimp only
    rw [parseU32_decimal (ordered.trans range), parseU32_decimal range]
    rfl

end Print

/-! ## Printed sets -/

section Sets

variable {cpus other : TreeSet Nat} {parts : List (Nat × Nat)}

/-- The increment does not wrap where another CPU follows. -/
theorem cpuRunsFrom_eq {start stop : Nat} {rest : List Nat}
    (sorted : (stop :: rest).Pairwise (· < ·)) (range : ∀ cpu ∈ rest, cpu ≤ u32Max) :
    cpuRunsFrom start stop rest = runsFrom start stop rest := by
  induction rest generalizing start stop with
  | nil => rfl
  | cons next rest ih =>
      have above : stop < next := List.rel_of_pairwise_cons sorted List.mem_cons_self
      have bound := range next List.mem_cons_self
      have later := fun cpu member => range cpu (List.mem_cons_of_mem next member)
      have successor : wrapAdd32 stop 1 = stop + 1 := wrapAdd32_of_le (by omega)
      unfold cpuRunsFrom runsFrom
      rw [successor, ih sorted.of_cons later, ih sorted.of_cons later]

theorem sorted_toList (cpus : TreeSet Nat) : cpus.toList.Pairwise (· < ·) :=
  TreeSet.ordered_toList.imp Nat.compare_eq_lt.mp

theorem cpuRuns_eq (range : ∀ cpu ∈ cpus, cpu ≤ u32Max) : cpuRuns cpus.toList = runs cpus.toList := by
  have sorted := sorted_toList cpus
  have bounded : ∀ cpu ∈ cpus.toList, cpu ≤ u32Max := fun cpu member =>
    range cpu (TreeSet.mem_toList.mp member)
  generalize cpus.toList = listed at sorted bounded ⊢
  cases listed with
  | nil => rfl
  | cons start rest =>
      exact cpuRunsFrom_eq sorted fun cpu member => bounded cpu (List.mem_cons_of_mem start member)

theorem maximalRuns_cpuRuns (range : ∀ cpu ∈ cpus, cpu ≤ u32Max) :
    MaximalRuns (· ∈ cpus) (cpuRuns cpus.toList) := by
  obtain ⟨nonempty, gaps, members⟩ := maximalRuns_runs (sorted_toList cpus)
  rw [cpuRuns_eq range]
  exact ⟨nonempty, gaps, fun value => TreeSet.mem_toList.symm.trans (members value)⟩

/-- The last CPU of a run is one of the set. -/
theorem le_of_maximalRuns {bound : Nat} {run : Nat × Nat} (maximal : MaximalRuns (· ∈ cpus) parts)
    (range : ∀ cpu ∈ cpus, cpu ≤ bound) (member : run ∈ parts) : run.2 ≤ bound :=
  range run.2 ((maximal.members run.2).mpr
    ⟨run, member, maximal.nonempty run member, le_rfl⟩)

theorem mem_insertCpus {run : Nat × Nat} {cpu : Nat} :
    cpu ∈ insertCpus cpus run ↔ cpu ∈ cpus ∨ InRun run cpu := by
  unfold insertCpus InRun
  rw [mem_foldl_insert, List.mem_range'_1, or_comm]
  refine or_congr_right ?_
  omega

theorem mem_foldl_insertCpus (parts : List (Nat × Nat)) (cpu : Nat) :
    cpu ∈ parts.foldl insertCpus ∅ ↔ ∃ run ∈ parts, InRun run cpu := by
  rw [mem_foldl_iff InRun fun _ _ _ => mem_insertCpus]
  simp

theorem mem_intercalate {char separator : Char} {texts : List Text}
    (member : char ∈ [separator].intercalate texts) :
    char = separator ∨ ∃ text ∈ texts, char ∈ text := by
  induction texts with
  | nil => cases member
  | cons text rest ih =>
      by_cases last : rest = []
      · subst last
        rw [List.intercalate_singleton] at member
        exact .inr ⟨text, List.mem_cons_self, member⟩
      · rw [List.intercalate_cons_of_ne_nil last] at member
        simp only [List.mem_append, List.mem_singleton] at member
        rcases member with (own | comma) | later
        · exact .inr ⟨text, List.mem_cons_self, own⟩
        · exact .inl comma
        · cases ih later with
          | inl comma => exact .inl comma
          | inr found =>
              obtain ⟨other, listed, inside⟩ := found
              exact .inr ⟨other, List.mem_cons_of_mem text listed, inside⟩

theorem trim_printed (parts : List (Nat × Nat)) :
    trim ([','].intercalate (parts.map printRun)) = [','].intercalate (parts.map printRun) := by
  apply trim_eq_self
  intro char member
  cases mem_intercalate member with
  | inl comma => exact comma ▸ (by decide)
  | inr printed =>
      obtain ⟨text, listed, inside⟩ := printed
      obtain ⟨run, _, rfl⟩ := List.mem_map.mp listed
      exact not_isWhitespace_printRun _ inside

/-- The parts of what is printed are the printed runs; an empty list has one empty part. -/
theorem splitOn_printed (parts : List (Nat × Nat)) :
    ([','].intercalate (parts.map printRun)).splitOn ',' =
      if parts = [] then [[]] else parts.map printRun := by
  by_cases none : parts = []
  · rw [if_pos none, none]
    rfl
  · rw [if_neg none]
    refine List.splitOn_intercalate ',' ?_ fun empty => none (List.map_eq_nil_iff.mp empty)
    intro text listed
    obtain ⟨run, _, rfl⟩ := List.mem_map.mp listed
    exact comma_not_mem_printRun run

section Parse

variable (ordered : ∀ run ∈ parts, run.1 ≤ run.2) (range : ∀ run ∈ parts, run.2 ≤ u32Max)

include ordered range

theorem parseCpuList_printed :
    parseCpuList ([','].intercalate (parts.map printRun)) = parts.foldl insertCpus ∅ := by
  unfold parseCpuList
  rw [trim_printed, splitOn_printed]
  by_cases none : parts = []
  · rw [if_pos none, none]
    rfl
  · rw [if_neg none, List.foldl_map]
    exact List.foldl_ext _ _ _ fun cpus run member =>
      parseCpuPart_printRun cpus (ordered run member) (range run member)

theorem foldlM_parseAllowedPart (cpus : TreeSet Nat) :
    (parts.map printRun).foldlM parseAllowedPart cpus = some (parts.foldl insertCpus cpus) := by
  induction parts generalizing cpus with
  | nil => rfl
  | cons run rest ih =>
      rw [List.map_cons, List.foldlM_cons,
        parseAllowedPart_printRun cpus (ordered run List.mem_cons_self)
          (range run List.mem_cons_self)]
      exact ih (fun other later => ordered other (List.mem_cons_of_mem run later))
        (fun other later => range other (List.mem_cons_of_mem run later)) (insertCpus cpus run)

theorem parseAllowed_printed :
    ((trim ([','].intercalate (parts.map printRun))).splitOn ',').foldlM parseAllowedPart ∅ =
      some (parts.foldl insertCpus ∅) := by
  rw [trim_printed, splitOn_printed]
  by_cases none : parts = []
  · rw [if_pos none, none]
    rfl
  · rw [if_neg none]
    exact foldlM_parseAllowedPart ordered range ∅

end Parse

/-- The list of CPUs that a status tells: the one of its first line that has one. -/
theorem parseAllowedCpus_of_line {status list : Text} {before after : List Text}
    (split : lines status = before ++ (allowedListStart ++ list) :: after)
    (first : ∀ line ∈ before, ¬allowedListStart <+: line) :
    parseAllowedCpus status = ((trim list).splitOn ',').foldlM parseAllowedPart ∅ := by
  have skipped : before.findSome? (stripPrefix allowedListStart) = none := by
    rw [List.findSome?_eq_none_iff]
    intro line listed
    cases stripped : stripPrefix allowedListStart line with
    | none => rfl
    | some rest =>
        exact absurd ⟨rest, List.append_eq_of_isPrefixOf?_eq_some stripped⟩ (first line listed)
  have found : stripPrefix allowedListStart (allowedListStart ++ list) = some list :=
    List.isPrefixOf?_eq_some_iff_append_eq.mpr rfl
  rw [parseAllowedCpus, split, List.findSome?_append, skipped, Option.none_or,
    List.findSome?_cons, found]

theorem allowedCpus_of_stale {cache : AffinityCache} {tid nowNs : Nat} {status : Text}
    (stale : cache.fresh tid nowNs = none) :
    (cache.allowedCpus tid nowNs (some status)).1 = parseAllowedCpus status := by
  unfold AffinityCache.allowedCpus
  rw [stale, Option.bind_some]
  cases parseAllowedCpus status <;> rfl

/-- `BTreeSet` equality. -/
def SameCpus (left right : TreeSet Nat) : Prop := ∀ cpu, cpu ∈ left ↔ cpu ∈ right

/-- Both parsers make one set of what is printed, and it is the printed one. -/
theorem parsed_printed (range : ∀ cpu ∈ cpus, cpu ≤ u32Max) :
    ∃ read, parseCpuList (cpusToCpulist cpus) = read ∧
      ((trim (cpusToCpulist cpus)).splitOn ',').foldlM parseAllowedPart ∅ = some read ∧
      SameCpus read cpus := by
  have maximal := maximalRuns_cpuRuns range
  have bounded : ∀ run ∈ cpuRuns cpus.toList, run.2 ≤ u32Max := fun _ member =>
    le_of_maximalRuns maximal range member
  refine ⟨_, parseCpuList_printed maximal.nonempty bounded,
    parseAllowed_printed maximal.nonempty bounded, fun cpu => ?_⟩
  rw [mem_foldl_insertCpus, maximal.members]

theorem cpusToCpulist_injective (range : ∀ cpu ∈ cpus, cpu ≤ u32Max)
    (otherRange : ∀ cpu ∈ other, cpu ≤ u32Max) (same : cpusToCpulist other = cpusToCpulist cpus) :
    SameCpus other cpus := by
  obtain ⟨read, parsed, _, isRead⟩ := parsed_printed range
  obtain ⟨otherRead, otherParsed, _, isOtherRead⟩ := parsed_printed otherRange
  rw [same, parsed] at otherParsed
  subst otherParsed
  exact fun cpu => (isOtherRead cpu).symm.trans (isRead cpu)

/-- A set of CPUs is printed as its maximal runs, and read back by both parsers: as a
list of siblings, and from the first line of a status that lists CPUs. -/
theorem cpusToCpulist_roundTrip (cpus : TreeSet Nat) (range : ∀ cpu ∈ cpus, cpu ≤ u32Max) :
    SameCpus (parseCpuList (cpusToCpulist cpus)) cpus ∧
      (∀ (cache : AffinityCache) (tid nowNs : Nat) (status : Text) (before after : List Text),
        cache.fresh tid nowNs = none →
        lines status = before ++ (allowedListStart ++ cpusToCpulist cpus) :: after →
        (∀ line ∈ before, ¬allowedListStart <+: line) →
        ∃ allowed, (cache.allowedCpus tid nowNs (some status)).1 = some allowed ∧
          SameCpus allowed cpus) ∧
      (∃ parts, MaximalRuns (· ∈ cpus) parts ∧
        cpusToCpulist cpus = [','].intercalate (parts.map printRun)) ∧
      ∀ other : TreeSet Nat, (∀ cpu ∈ other, cpu ≤ u32Max) →
        cpusToCpulist other = cpusToCpulist cpus → SameCpus other cpus := by
  obtain ⟨read, parsed, allowed, same⟩ := parsed_printed range
  refine ⟨parsed ▸ same, ?_, ⟨_, maximalRuns_cpuRuns range, rfl⟩, ?_⟩
  · intro cache tid nowNs status before after stale split first
    exact ⟨read, by rw [allowedCpus_of_stale stale, parseAllowedCpus_of_line split first, allowed],
      same⟩
  · intro other otherRange printed
    exact cpusToCpulist_injective range otherRange printed

end Sets

def mixedCpus : TreeSet Nat := .ofList [4294967295, 2, 0, 1, 4]

example : cpusToCpulist mixedCpus = "0-2,4,4294967295".toList := by decide +kernel

def mixedStatus : Text :=
  "Name:\tworker\nCpus_allowed_list:\t0-2,4,4294967295\nMems_allowed_list:\t0\n".toList

theorem cpusToCpulist_roundTrip_mixed :
    SameCpus (parseCpuList (cpusToCpulist mixedCpus)) mixedCpus ∧
      ∃ allowed, (AffinityCache.allowedCpus { ttlNs := 5 } 11 9 (some mixedStatus)).1 =
        some allowed ∧ SameCpus allowed mixedCpus := by
  have range : ∀ cpu ∈ mixedCpus, cpu ≤ u32Max := by
    intro cpu member
    have listed : cpu ∈ mixedCpus.toList := TreeSet.mem_toList.mpr member
    have sorted : mixedCpus.toList = [0, 1, 2, 4, 4294967295] := by decide +kernel
    rw [sorted] at listed
    fin_cases listed <;> decide
  have split : lines mixedStatus = ["Name:\tworker".toList] ++
      (allowedListStart ++ cpusToCpulist mixedCpus) :: ["Mems_allowed_list:\t0".toList] := by
    decide +kernel
  obtain ⟨listed, allowed, _⟩ := cpusToCpulist_roundTrip mixedCpus range
  exact ⟨listed, allowed { ttlNs := 5 } 11 9 mixedStatus _ _ rfl split (by decide)⟩

end CSwitch.Host
