import CSwitch.Host.Text
import CSwitch.Library.Sections
import CSwitch.Types

/-! The mapping file of the host. A line with a CCM or a CS link opens its section, and
the lines of a section tell its CCX and its capacity. -/

set_option autoImplicit false

namespace CSwitch.Host

open Library
open Std (TreeMap)

structure CcmMappingEntry where
  ccxId : Nat
  capacityMibSX100 : Nat
  deriving DecidableEq

structure HostMapping where
  ccmEntries : TreeMap Nat CcmMappingEntry := ∅
  csCapacityMibSX100 : TreeMap Nat Nat := ∅

inductive MappingSection where
  | ccm (ccmId : Nat)
  | cs (csId : Nat)
  | none
  deriving DecidableEq

def ccmSection (rest : Text) : MappingSection :=
  match parseU32 rest with
  | some ccmId => if ccmId ≤ 7 then .ccm ccmId else .none
  | none => .none

def csSection (rest : Text) : MappingSection :=
  match parseU32 rest with
  | some csId => if csId < maxDomains then .cs csId else .none
  | none => .none

/-- A CCX line of a CCM, with the default capacity. -/
def insertCcx (currentSection : MappingSection) (out : HostMapping) (ccxId : Nat) : HostMapping :=
  match currentSection with
  | .ccm ccmId =>
      { out with
        ccmEntries := out.ccmEntries.insert ccmId
          { ccxId, capacityMibSX100 := defaultDfCapacityMibSX100 } }
  | _ => out

/-- A capacity line: a CCM without an entry drops it. -/
def setCapacity (currentSection : MappingSection) (out : HostMapping) (value : Nat) : HostMapping :=
  match currentSection with
  | .ccm ccmId =>
      match out.ccmEntries[ccmId]? with
      | some entry =>
          { out with
            ccmEntries := out.ccmEntries.insert ccmId
              { entry with capacityMibSX100 := satMul32 value 100 } }
      | none => out
  | .cs csId =>
      { out with csCapacityMibSX100 := out.csCapacityMibSX100.insert csId (satMul32 value 100) }
  | .none => out

structure MappingParse where
  currentSection : MappingSection := .none
  out : HostMapping := {}

/-- One turn of the loop over the lines. -/
def parseMappingLine (state : MappingParse) (rawLine : Text) : Except Text MappingParse :=
  let line := trim rawLine
  if line.isEmpty then .ok state
  else
    match stripPrefix "ccm".toList line with
    | some rest => .ok { state with currentSection := ccmSection rest }
    | none =>
        match stripPrefix "cs".toList line with
        | some rest => .ok { state with currentSection := csSection rest }
        | none =>
            match stripPrefix "ccx".toList line with
            | some rest =>
                match parseU32 rest with
                | some ccxId =>
                    .ok { state with out := insertCcx state.currentSection state.out ccxId }
                | none => .ok state
            | none =>
                match stripPrefix "capacity_mib_s".toList line with
                | some rest =>
                    match parseU32 (trim rest) with
                    | some value =>
                        .ok { state with out := setCapacity state.currentSection state.out value }
                    | none => .error ("invalid capacity_mib_s line: ".toList ++ line)
                | none =>
                    if line = "missing".toList then .ok { state with currentSection := .none }
                    else .ok state

/-- The mapping that the text of the file gives, or the message of its first line with
a capacity that is not a number. -/
def parseHostMapping (text : Text) : Except Text HostMapping :=
  ((lines text).foldlM parseMappingLine {}).map (·.out)

/-! ## Lines -/

/-- What a line is, whatever has come before it. -/
inductive MappingLine where
  | heading (next : MappingSection)
  | ccx (ccxId : Nat)
  | capacity (value : Nat)
  | malformed (message : Text)
  | other
  deriving DecidableEq

def mappingLine (rawLine : Text) : MappingLine :=
  let line := trim rawLine
  if line.isEmpty then .other
  else
    match stripPrefix "ccm".toList line with
    | some rest => .heading (ccmSection rest)
    | none =>
        match stripPrefix "cs".toList line with
        | some rest => .heading (csSection rest)
        | none =>
            match stripPrefix "ccx".toList line with
            | some rest =>
                match parseU32 rest with
                | some ccxId => .ccx ccxId
                | none => .other
            | none =>
                match stripPrefix "capacity_mib_s".toList line with
                | some rest =>
                    match parseU32 (trim rest) with
                    | some value => .capacity value
                    | none => .malformed ("invalid capacity_mib_s line: ".toList ++ line)
                | none => if line = "missing".toList then .heading .none else .other

def opensSection (rawLine : Text) : Option MappingSection :=
  match mappingLine rawLine with
  | .heading next => some next
  | _ => none

def malformed (rawLine : Text) : Option Text :=
  match mappingLine rawLine with
  | .malformed message => some message
  | _ => none

/-- A line that tells something of the section that it is in. -/
inductive EntryLine where
  | ccx (ccxId : Nat)
  | capacity (value : Nat)
  deriving DecidableEq

def entryLine (rawLine : Text) : Option EntryLine :=
  match mappingLine rawLine with
  | .ccx ccxId => some (.ccx ccxId)
  | .capacity value => some (.capacity value)
  | _ => none

def entryLines (body : List Text) : List EntryLine := body.filterMap entryLine

def actEntryLine (currentSection : MappingSection) (out : HostMapping) : EntryLine → HostMapping
  | .ccx ccxId => insertCcx currentSection out ccxId
  | .capacity value => setCapacity currentSection out value

def actLine (currentSection : MappingSection) (out : HostMapping) (rawLine : Text) : HostMapping :=
  match entryLine rawLine with
  | some line => actEntryLine currentSection out line
  | none => out

def mappingSections (text : Text) : List (MappingSection × List Text) :=
  sections opensSection .none (lines text)

section Lines

theorem parseMappingLine_eq (state : MappingParse) (rawLine : Text) :
    parseMappingLine state rawLine =
      match malformed rawLine with
      | some message => .error message
      | none =>
          let next := sectionStep opensSection actLine (state.currentSection, state.out) rawLine
          .ok { currentSection := next.1, out := next.2 } := by
  unfold parseMappingLine malformed sectionStep opensSection actLine entryLine mappingLine
  dsimp only
  split
  · rfl
  · split
    · rfl
    · split
      · rfl
      · split
        · split <;> rfl
        · split
          · split <;> rfl
          · split <;> rfl

theorem foldlM_parseMappingLine (rawLines : List Text) (state : MappingParse) :
    rawLines.foldlM parseMappingLine state =
      match rawLines.findSome? malformed with
      | some message => .error message
      | none =>
          let last :=
            rawLines.foldl (sectionStep opensSection actLine) (state.currentSection, state.out)
          .ok { currentSection := last.1, out := last.2 } := by
  induction rawLines generalizing state with
  | nil => rfl
  | cons rawLine rest ih =>
      rw [List.foldlM_cons, List.findSome?_cons, parseMappingLine_eq]
      cases malformed rawLine with
      | some message => rfl
      | none => exact ih _

/-- The mapping is made section by section, unless a line is malformed. -/
theorem parseHostMapping_eq (text : Text) :
    parseHostMapping text =
      match (lines text).findSome? malformed with
      | some message => .error message
      | none => .ok (foldSections actLine {} (mappingSections text)) := by
  unfold parseHostMapping
  rw [foldlM_parseMappingLine]
  cases (lines text).findSome? malformed with
  | some message => rfl
  | none => exact congrArg Except.ok (foldl_sectionStep actLine (lines text) {})

end Lines

end CSwitch.Host
