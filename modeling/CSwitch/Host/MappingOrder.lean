import CSwitch.Host.MappingFile

/-! The order of the lines within a section. A capacity is kept for the entry that the
CCX line before it has made, and a CCX line makes its entry with the default capacity:
of the two lines of a CCM, the order matters. -/

set_option autoImplicit false

namespace CSwitch.Host

open Library
open Std (TreeMap)

def EntryLine.isCcx : EntryLine → Bool
  | ccx _ => true
  | capacity _ => false

/-- What the entry of a CCM is after one more line of its section. -/
def entryStep (entry : Option CcmMappingEntry) : EntryLine → Option CcmMappingEntry
  | .ccx ccxId => some { ccxId, capacityMibSX100 := defaultDfCapacityMibSX100 }
  | .capacity value =>
      entry.map fun entry => { entry with capacityMibSX100 := satMul32 value 100 }

/-- What the capacity of a CS link is after one more line of its section. -/
def capacityStep (capacity : Option Nat) : EntryLine → Option Nat
  | .ccx _ => capacity
  | .capacity value => some (satMul32 value 100)

/-! ## Reading the mapping -/

section Read

variable {parts : List (MappingSection × List Text)} {body : List Text}

/-- A step over the lines that tell something, along all lines. -/
def alongLines {ρ : Type} (step : ρ → EntryLine → ρ) (value : ρ) (rawLine : Text) : ρ :=
  match entryLine rawLine with
  | some line => step value line
  | none => value

theorem foldl_alongLines {ρ : Type} (step : ρ → EntryLine → ρ) (value : ρ) (body : List Text) :
    body.foldl (alongLines step) value = (entryLines body).foldl step value := by
  rw [entryLines, List.foldl_filterMap]
  apply List.foldl_ext
  intro value rawLine _
  unfold alongLines
  cases entryLine rawLine <;> rfl

theorem sectionRead_ccm (ccmId : Nat) :
    SectionRead actLine (fun out => out.ccmEntries[ccmId]?) (.ccm ccmId)
      (alongLines entryStep) where
  own out rawLine := by
    unfold actLine alongLines
    cases entryLine rawLine with
    | none => rfl
    | some line =>
        cases line with
        | ccx ccxId => exact TreeMap.getElem?_insert_self
        | capacity value =>
            unfold actEntryLine setCapacity
            dsimp only
            cases found : out.ccmEntries[ccmId]? with
            | none => exact found
            | some entry => exact TreeMap.getElem?_insert_self
  frame head out rawLine apart := by
    unfold actLine
    cases entryLine rawLine with
    | none => rfl
    | some line =>
        cases head with
        | none => cases line <;> rfl
        | cs csId => cases line <;> rfl
        | ccm other =>
            have different : ¬compare other ccmId = .eq := fun same =>
              apart (congrArg _ (Std.compare_eq_iff_eq.mp same))
            cases line with
            | ccx ccxId =>
                exact TreeMap.getElem?_insert.trans (if_neg different)
            | capacity value =>
                unfold actEntryLine setCapacity
                dsimp only
                cases out.ccmEntries[other]? with
                | none => rfl
                | some entry => exact TreeMap.getElem?_insert.trans (if_neg different)

theorem sectionRead_cs (csId : Nat) :
    SectionRead actLine (fun out => out.csCapacityMibSX100[csId]?) (.cs csId)
      (alongLines capacityStep) where
  own out rawLine := by
    unfold actLine alongLines
    cases entryLine rawLine with
    | none => rfl
    | some line =>
        cases line with
        | ccx ccxId => rfl
        | capacity value => exact TreeMap.getElem?_insert_self
  frame head out rawLine apart := by
    unfold actLine
    cases entryLine rawLine with
    | none => rfl
    | some line =>
        cases head with
        | none => cases line <;> rfl
        | ccm ccmId =>
            cases line with
            | ccx ccxId => rfl
            | capacity value =>
                unfold actEntryLine setCapacity
                dsimp only
                cases out.ccmEntries[ccmId]? <;> rfl
        | cs other =>
            have different : ¬compare other csId = .eq := fun same =>
              apart (congrArg _ (Std.compare_eq_iff_eq.mp same))
            cases line with
            | ccx ccxId => rfl
            | capacity value => exact TreeMap.getElem?_insert.trans (if_neg different)

theorem ccmEntry_of_mem {ccmId : Nat} (once : (parts.map Prod.fst).count (.ccm ccmId) ≤ 1)
    (member : (.ccm ccmId, body) ∈ parts) :
    (foldSections actLine {} parts).ccmEntries[ccmId]? = (entryLines body).foldl entryStep none :=
  ((sectionRead_ccm ccmId).of_mem once member).trans (foldl_alongLines entryStep none body)

end Read

/-! ## Orders of two lines -/

/-- What a section with a CCX line and a capacity line at most can tell. -/
inductive EntryOrder : List EntryLine → Prop where
  | none : EntryOrder []
  | one (line : EntryLine) : EntryOrder [line]
  | ccxFirst (ccxId value : Nat) : EntryOrder [.ccx ccxId, .capacity value]
  | capacityFirst (ccxId value : Nat) : EntryOrder [.capacity value, .ccx ccxId]

section Orders

variable {told other : List EntryLine}

theorem entryOrder_of_count (ccx : told.countP EntryLine.isCcx ≤ 1)
    (capacity : told.countP (fun line => !line.isCcx) ≤ 1) : EntryOrder told := by
  match told with
  | [] => exact .none
  | [line] => exact .one line
  | [first, second] =>
      cases first with
      | ccx ccxId =>
          cases second with
          | ccx _ => exact absurd ccx (by simp [List.countP_cons, EntryLine.isCcx])
          | capacity value => exact .ccxFirst ccxId value
      | capacity value =>
          cases second with
          | ccx ccxId => exact .capacityFirst ccxId value
          | capacity _ => exact absurd capacity (by simp [EntryLine.isCcx])
  | first :: second :: third :: rest =>
      have whole := List.length_eq_countP_add_countP EntryLine.isCcx
        (l := first :: second :: third :: rest)
      simp only [List.length_cons, Bool.not_eq_true, Bool.decide_eq_false] at whole
      omega

theorem perm_pair {first second : EntryLine} (perm : [first, second].Perm other) :
    other = [first, second] ∨ other = [second, first] := by
  have length := perm.length_eq
  match other with
  | [left, right] =>
      have place := perm.mem_iff.mpr (List.mem_cons_self : left ∈ [left, right])
      cases List.mem_cons.mp place with
      | inl same =>
          subst same
          exact .inl (by rw [List.perm_singleton.mp (perm.cons_inv).symm])
      | inr later =>
          obtain rfl := List.mem_singleton.mp later
          have swapped := (List.Perm.swap first left []).trans perm
          exact .inr (by rw [List.perm_singleton.mp swapped.cons_inv.symm])

/-- Two orders of the same lines make the same entry, unless a capacity of its own
comes before the CCX line in one of them only. -/
theorem foldl_entryStep_perm (order : EntryOrder told) (perm : told.Perm other) :
    told.foldl entryStep none = other.foldl entryStep none ↔
      ∀ ccxId value, .ccx ccxId ∈ told → .capacity value ∈ told →
        satMul32 value 100 ≠ defaultDfCapacityMibSX100 → told = other := by
  cases order with
  | none =>
      obtain rfl := perm.nil_eq
      exact iff_of_true rfl fun _ _ _ _ _ => rfl
  | one line =>
      obtain rfl := List.perm_singleton.mp perm.symm
      exact iff_of_true rfl fun _ _ _ _ _ => rfl
  | ccxFirst ccxId value =>
      cases perm_pair perm with
      | inl same => exact iff_of_true (by rw [same]) fun _ _ _ _ _ => same.symm
      | inr swapped =>
          subst swapped
          simp [entryStep]
  | capacityFirst ccxId value =>
      cases perm_pair perm with
      | inl same => exact iff_of_true (by rw [same]) fun _ _ _ _ _ => same.symm
      | inr swapped =>
          subst swapped
          simp [entryStep, eq_comm]

theorem foldl_capacityStep_perm (order : EntryOrder told) (perm : told.Perm other) :
    told.foldl capacityStep none = other.foldl capacityStep none := by
  cases order with
  | none => rw [perm.nil_eq]
  | one line => rw [List.perm_singleton.mp perm.symm]
  | ccxFirst ccxId value =>
      cases perm_pair perm with
      | inl same => rw [same]
      | inr swapped => rw [swapped]; rfl
  | capacityFirst ccxId value =>
      cases perm_pair perm with
      | inl same => rw [same]
      | inr swapped => rw [swapped]; rfl

/-- The capacity of a section is the one of its entry when it comes after the CCX line. -/
theorem capacity_kept_iff (order : EntryOrder told) {ccxId value : Nat}
    (ccx : .ccx ccxId ∈ told) (capacity : .capacity value ∈ told) :
    (told.foldl entryStep none).map (·.capacityMibSX100) = some (satMul32 value 100) ↔
      (satMul32 value 100 ≠ defaultDfCapacityMibSX100 → told = [.ccx ccxId, .capacity value]) := by
  cases order with
  | none => cases ccx
  | one line =>
      cases List.mem_singleton.mp ccx
      cases List.mem_singleton.mp capacity
  | ccxFirst =>
      simp only [List.mem_cons, EntryLine.ccx.injEq, EntryLine.capacity.injEq, reduceCtorEq,
        List.not_mem_nil, or_false, false_or] at ccx capacity
      subst ccx capacity
      simp [entryStep]
  | capacityFirst =>
      simp only [List.mem_cons, EntryLine.ccx.injEq, EntryLine.capacity.injEq, reduceCtorEq,
        List.not_mem_nil, or_false, false_or] at ccx capacity
      subst ccx capacity
      simp [entryStep, eq_comm]

end Orders

/-! ## Rearranged files -/

/-- `BTreeMap` equality of the two maps. -/
def SameMapping (left right : HostMapping) : Prop :=
  (∀ ccmId : Nat, left.ccmEntries[ccmId]? = right.ccmEntries[ccmId]?) ∧
    ∀ csId : Nat, left.csCapacityMibSX100[csId]? = right.csCapacityMibSX100[csId]?

/-- The same mapping, or none. -/
def SameOutcome : Except Text HostMapping → Except Text HostMapping → Prop
  | .ok left, .ok right => SameMapping left right
  | .error _, .error _ => True
  | _, _ => False

/-- Every id opens one section at most, and a section has one CCX line and one
capacity line at most. -/
structure WellFormed (text : Text) : Prop where
  once : ∀ head ≠ MappingSection.none, ((mappingSections text).map Prod.fst).count head ≤ 1
  ccx : ∀ part ∈ mappingSections text, (entryLines part.2).countP EntryLine.isCcx ≤ 1
  capacity : ∀ part ∈ mappingSections text,
    (entryLines part.2).countP (fun line => !line.isCcx) ≤ 1

def Malformed (text : Text) : Prop := ∃ rawLine ∈ lines text, (malformed rawLine).isSome = true

/-- A section of a CCM with a CCX line and a capacity that is not the default. -/
def TellsCapacity (body : List Text) (ccxId value : Nat) : Prop :=
  .ccx ccxId ∈ entryLines body ∧ .capacity value ∈ entryLines body ∧
    satMul32 value 100 ≠ defaultDfCapacityMibSX100

/-- The two lines of a CCM are in the same order in both files. -/
def SameOrder (text other : Text) : Prop :=
  ∀ ccmId body otherBody, (.ccm ccmId, body) ∈ mappingSections text →
    (.ccm ccmId, otherBody) ∈ mappingSections other →
      ∀ ccxId value, TellsCapacity body ccxId value → entryLines body = entryLines otherBody

/-- The CCX line of a CCM is before the one with its capacity. -/
def CcxFirst (text : Text) : Prop :=
  ∀ ccmId body, (.ccm ccmId, body) ∈ mappingSections text → ∀ ccxId value,
    TellsCapacity body ccxId value → entryLines body = [.ccx ccxId, .capacity value]

/-- The capacity that a CCM is given with its CCX is the one of its entry. -/
def KeepsCapacities (text : Text) : Prop :=
  ∀ mapping, parseHostMapping text = .ok mapping →
    ∀ ccmId body, (.ccm ccmId, body) ∈ mappingSections text → ∀ ccxId value,
      .ccx ccxId ∈ entryLines body → .capacity value ∈ entryLines body →
        mapping.ccmEntries[ccmId]?.map (·.capacityMibSX100) = some (satMul32 value 100)

section Rearranged

variable {text other : Text}

theorem parseHostMapping_of_malformed (isMalformed : Malformed text) :
    ∃ message, parseHostMapping text = .error message := by
  rw [parseHostMapping_eq]
  cases found : (lines text).findSome? malformed with
  | some message => exact ⟨message, rfl⟩
  | none =>
      obtain ⟨rawLine, listed, bad⟩ := isMalformed
      rw [List.findSome?_eq_none_iff.mp found rawLine listed] at bad
      cases bad

theorem parseHostMapping_of_not_malformed (notMalformed : ¬Malformed text) :
    parseHostMapping text = .ok (foldSections actLine {} (mappingSections text)) := by
  have found : (lines text).findSome? malformed = none := by
    rw [List.findSome?_eq_none_iff]
    intro rawLine listed
    exact Option.not_isSome_iff_eq_none.mp fun bad => notMalformed ⟨rawLine, listed, bad⟩
  rw [parseHostMapping_eq, found]

theorem WellFormed.entryOrder (wellFormed : WellFormed text)
    {part : MappingSection × List Text} (member : part ∈ mappingSections text) :
    EntryOrder (entryLines part.2) :=
  entryOrder_of_count (wellFormed.ccx part member) (wellFormed.capacity part member)

theorem malformed_iff_of_perm (perm : (lines text).Perm (lines other)) :
    Malformed text ↔ Malformed other := by
  unfold Malformed
  simp only [perm.mem_iff]

/-- The mappings of two well-formed files are the same when the CCM sections with a
capacity are in the same order. -/
theorem sameMapping_iff (rearranged : Rearranged opensSection (lines text) (lines other))
    (wellFormed : WellFormed text) :
    SameMapping (foldSections actLine {} (mappingSections text))
        (foldSections actLine {} (mappingSections other)) ↔ SameOrder text other := by
  have same : List.Forall₂ (fun part other => part.1 = other.1 ∧ part.2.Perm other.2)
      (mappingSections text) (mappingSections other) := rearranged.sections .none
  have ccm := fun ccmId =>
    (sectionRead_ccm ccmId).eq_iff same (wellFormed.once (.ccm ccmId) nofun) {}
  have cs := fun csId => (sectionRead_cs csId).eq_iff same (wellFormed.once (.cs csId) nofun) {}
  simp only [foldl_alongLines] at ccm cs
  constructor
  · intro sameMapping ccmId body otherBody member otherMember ccxId value tells
    have perm := body_perm same (wellFormed.once (.ccm ccmId) nofun) member otherMember
    have entries := (ccm ccmId).mp (sameMapping.1 ccmId) body otherBody member otherMember perm
    exact (foldl_entryStep_perm (wellFormed.entryOrder member) (perm.filterMap entryLine)).mp entries
      ccxId value tells.1 tells.2.1 tells.2.2
  · intro sameOrder
    constructor
    · intro ccmId
      refine (ccm ccmId).mpr fun body otherBody member otherMember perm => ?_
      refine (foldl_entryStep_perm (wellFormed.entryOrder member) (perm.filterMap entryLine)).mpr ?_
      intro ccxId value ccx capacity changed
      exact sameOrder ccmId body otherBody member otherMember ccxId value ⟨ccx, capacity, changed⟩
    · intro csId
      refine (cs csId).mpr fun body otherBody member otherMember perm => ?_
      exact foldl_capacityStep_perm (wellFormed.entryOrder member) (perm.filterMap entryLine)

theorem keepsCapacities_iff (wellFormed : WellFormed text) :
    KeepsCapacities text ↔ Malformed text ∨ CcxFirst text := by
  by_cases isMalformed : Malformed text
  · refine iff_of_true ?_ (.inl isMalformed)
    intro mapping parsed
    obtain ⟨message, failed⟩ := parseHostMapping_of_malformed isMalformed
    cases failed.symm.trans parsed
  · have parsed := parseHostMapping_of_not_malformed isMalformed
    have kept : ∀ {ccmId : Nat} {body : List Text} {ccxId value : Nat},
        (.ccm ccmId, body) ∈ mappingSections text → .ccx ccxId ∈ entryLines body →
        .capacity value ∈ entryLines body →
        ((foldSections actLine {} (mappingSections text)).ccmEntries[ccmId]?.map
            (·.capacityMibSX100) = some (satMul32 value 100) ↔
          (satMul32 value 100 ≠ defaultDfCapacityMibSX100 →
            entryLines body = [.ccx ccxId, .capacity value])) := by
      intro ccmId body ccxId value member ccx capacity
      rw [ccmEntry_of_mem (wellFormed.once _ nofun) member]
      exact capacity_kept_iff (wellFormed.entryOrder member) ccx capacity
    constructor
    · intro keeps
      refine .inr fun ccmId body member ccxId value tells => ?_
      exact (kept member tells.1 tells.2.1).mp
        (keeps _ parsed ccmId body member ccxId value tells.1 tells.2.1) tells.2.2
    · intro holds mapping isMapping ccmId body member ccxId value ccx capacity
      obtain rfl := Except.ok.inj (parsed.symm.trans isMapping)
      have ccxFirst := holds.resolve_left isMalformed
      exact (kept member ccx capacity).mpr fun changed =>
        ccxFirst ccmId body member ccxId value ⟨ccx, capacity, changed⟩

/-- A well-formed file whose lines are rearranged within their sections gives the same
mapping if and only if a capacity is malformed or the two lines of every CCM with a
capacity other than the default stay in order, and its capacities are kept if and only
if the CCX line is the first of the two. -/
theorem parseHostMapping_rearranged (text other : Text)
    (rearranged : Rearranged opensSection (lines text) (lines other))
    (wellFormed : WellFormed text) :
    (SameOutcome (parseHostMapping text) (parseHostMapping other) ↔
        Malformed text ∨ SameOrder text other) ∧
      (KeepsCapacities text ↔ Malformed text ∨ CcxFirst text) := by
  refine ⟨?_, keepsCapacities_iff wellFormed⟩
  have both := malformed_iff_of_perm rearranged.perm
  by_cases isMalformed : Malformed text
  · obtain ⟨message, failed⟩ := parseHostMapping_of_malformed isMalformed
    obtain ⟨otherMessage, otherFailed⟩ := parseHostMapping_of_malformed (both.mp isMalformed)
    rw [failed, otherFailed]
    exact iff_of_true trivial (.inl isMalformed)
  · rw [parseHostMapping_of_not_malformed isMalformed,
      parseHostMapping_of_not_malformed fun bad => isMalformed (both.mpr bad)]
    exact (sameMapping_iff rearranged wellFormed).trans (or_iff_right isMalformed).symm

end Rearranged

/-! A section of CCM 0 with its two lines in either order. -/

def capacityFirstFile : Text := "ccm0\ncapacity_mib_s 18000\nccx0\n".toList

def ccxFirstFile : Text := "ccm0\nccx0\ncapacity_mib_s 18000\n".toList

theorem capacityFirstFile_rearranged :
    Rearranged opensSection (lines capacityFirstFile) (lines ccxFirstFile) := by
  have first : lines capacityFirstFile =
      [] ++ "ccm0".toList :: ["capacity_mib_s 18000".toList, "ccx0".toList] := by decide
  have second : lines ccxFirstFile =
      [] ++ "ccm0".toList :: ["ccx0".toList, "capacity_mib_s 18000".toList] := by decide
  rw [first, second]
  exact @Rearranged.cons _ _ _ _ _ _ _ _ (.ccm 0) nofun (.refl _) (by decide +kernel)
    (.last (by decide +kernel) (.swap _ _ _))

theorem capacityFirstFile_wellFormed : WellFormed capacityFirstFile := by
  have parts : mappingSections capacityFirstFile =
      [(.none, []), (.ccm 0, ["capacity_mib_s 18000".toList, "ccx0".toList])] := by decide +kernel
  have heads : ((mappingSections capacityFirstFile).map Prod.fst).Nodup := by
    rw [parts]
    decide
  refine ⟨fun head _ => List.nodup_iff_count_le_one.mp heads head, ?_, ?_⟩
  · rw [parts]
    decide +kernel
  · rw [parts]
    decide +kernel

theorem parseHostMapping_rearranged_capacityFirst :
    KeepsCapacities capacityFirstFile ↔
      Malformed capacityFirstFile ∨ CcxFirst capacityFirstFile :=
  (parseHostMapping_rearranged capacityFirstFile ccxFirstFile capacityFirstFile_rearranged
    capacityFirstFile_wellFormed).2

/-- The two orders give CCM 0 two capacities, and one of them is not the one given. -/
theorem parseHostMapping_drops_capacity :
    Rearranged opensSection (lines capacityFirstFile) (lines ccxFirstFile) ∧
      WellFormed capacityFirstFile ∧
      ((parseHostMapping capacityFirstFile).toOption.bind fun mapping => mapping.ccmEntries[0]?) =
        some { ccxId := 0, capacityMibSX100 := 2000000 } ∧
      ((parseHostMapping ccxFirstFile).toOption.bind fun mapping => mapping.ccmEntries[0]?) =
        some { ccxId := 0, capacityMibSX100 := 1800000 } ∧
      ¬SameOutcome (parseHostMapping capacityFirstFile) (parseHostMapping ccxFirstFile) := by
  have dropped : ((parseHostMapping capacityFirstFile).toOption.bind fun mapping =>
      mapping.ccmEntries[0]?) = some { ccxId := 0, capacityMibSX100 := 2000000 } := by
    decide +kernel
  have kept : ((parseHostMapping ccxFirstFile).toOption.bind fun mapping =>
      mapping.ccmEntries[0]?) = some { ccxId := 0, capacityMibSX100 := 1800000 } := by
    decide +kernel
  refine ⟨capacityFirstFile_rearranged, capacityFirstFile_wellFormed, dropped, kept, ?_⟩
  intro same
  cases first : parseHostMapping capacityFirstFile with
  | error message =>
      rw [first] at dropped
      cases dropped
  | ok mapping =>
      cases second : parseHostMapping ccxFirstFile with
      | error message =>
          rw [second] at kept
          cases kept
      | ok other =>
          rw [first] at dropped same
          rw [second] at kept same
          have entries := dropped.symm.trans ((same.1 0).trans kept)
          exact absurd entries (by decide)

end CSwitch.Host
