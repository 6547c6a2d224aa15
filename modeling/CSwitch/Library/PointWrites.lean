import CSwitch.Library.KeyedTotals

/-! Writing to some entries of an ordered map, one after another: every write
changes the value that its key holds, and a missing key stays missing. -/

set_option autoImplicit false

namespace CSwitch.Library

open KeyedTotals
open Std (TreeMap)

variable {κ ν ω : Type} [Ord κ]

/-- A step of a fold that writes to the key of its entry and nowhere else. -/
structure PointWrite (write : ω → ν → ν) (step : TreeMap κ ν → κ × ω → TreeMap κ ν) : Prop where
  own : ∀ map entry, (step map entry)[entry.1]? = map[entry.1]?.map (write entry.2)
  frame : ∀ map entry other, entry.1 ≠ other → (step map entry)[other]? = map[other]?

section Folds

variable {write : ω → ν → ν} {step : TreeMap κ ν → κ × ω → TreeMap κ ν} {map : TreeMap κ ν}
  {entries : List (κ × ω)} {key : κ} {content : ω}

/-- A key that is not written keeps its value. -/
theorem PointWrite.foldl_of_not_mem (writes : PointWrite write step)
    (unwritten : key ∉ entries.map Prod.fst) : (entries.foldl step map)[key]? = map[key]? := by
  induction entries generalizing map with
  | nil => rfl
  | cons entry rest ih =>
      rw [List.map_cons, List.mem_cons, not_or] at unwritten
      exact (ih unwritten.2).trans (writes.frame map entry key fun same => unwritten.1 same.symm)

/-- A key that is written once holds what was written over its value. -/
theorem PointWrite.foldl_of_mem (writes : PointWrite write step)
    (once : (entries.map Prod.fst).Nodup) (written : (key, content) ∈ entries) :
    (entries.foldl step map)[key]? = map[key]?.map (write content) := by
  induction entries generalizing map with
  | nil => cases written
  | cons entry rest ih =>
      rw [List.map_cons, List.nodup_cons] at once
      cases List.mem_cons.mp written with
      | inl first =>
          subst first
          exact (writes.foldl_of_not_mem once.1).trans (writes.own map (key, content))
      | inr later =>
          refine (ih once.2 later).trans ?_
          rw [writes.frame]
          exact fun same => once.1 (same ▸ List.mem_map_of_mem later)

end Folds

variable [Std.TransOrd κ]

def writeAt (write : ω → ν → ν) (map : TreeMap κ ν) (key : κ) (content : ω) : TreeMap κ ν :=
  match map[key]? with
  | none => map
  | some value => map.insert key (write content value)

def writeAll (write : ω → ν → ν) (map : TreeMap κ ν) (entries : List (κ × ω)) : TreeMap κ ν :=
  entries.foldl (fun written entry => writeAt write written entry.1 entry.2) map

section Writes

variable {write : ω → ν → ν} {map : TreeMap κ ν} {entries : List (κ × ω)} {key : κ} {content : ω}

theorem writeAt_getElem?_self : (writeAt write map key content)[key]? =
    map[key]?.map (write content) := by
  unfold writeAt
  cases found : map[key]? with
  | none => exact found
  | some value => exact TreeMap.getElem?_insert_self

variable [Std.LawfulEqOrd κ]

theorem writeAt_getElem?_of_ne {other : κ} (apart : key ≠ other) :
    (writeAt write map key content)[other]? = map[other]? := by
  unfold writeAt
  cases map[key]? with
  | none => rfl
  | some value =>
      rw [TreeMap.getElem?_insert]
      exact if_neg fun same => apart (Std.compare_eq_iff_eq.mp same)

theorem pointWrite_writeAt (write : ω → ν → ν) :
    PointWrite write fun (map : TreeMap κ ν) entry => writeAt write map entry.1 entry.2 where
  own _ _ := writeAt_getElem?_self
  frame _ _ _ := writeAt_getElem?_of_ne

theorem writeAll_getElem?_of_not_mem (unwritten : key ∉ entries.map Prod.fst) :
    (writeAll write map entries)[key]? = map[key]? :=
  (pointWrite_writeAt write).foldl_of_not_mem unwritten

variable (write map) in
theorem writeAll_getElem?_of_mem (once : (entries.map Prod.fst).Nodup)
    (written : (key, content) ∈ entries) :
    (writeAll write map entries)[key]? = map[key]?.map (write content) :=
  (pointWrite_writeAt write).foldl_of_mem once written

end Writes

section Totals

variable [Std.LawfulEqOrd κ] [DecidableEq κ] (weight : κ → ν → Nat)
  (write : ω → ν → ν) (map : TreeMap κ ν) {entries : List (κ × ω)}

theorem total_writeAt (key : κ) (content : ω) :
    total weight (writeAt write map key content) + weightAt weight map key =
      total weight map + weightAt weight (writeAt write map key content) key := by
  have own : weightAt weight (writeAt write map key content) key =
      (map[key]?.map fun value => weight key (write content value)).getD 0 := by
    rw [weightAt, writeAt_getElem?_self, Option.map_map]
    rfl
  rw [own]
  unfold writeAt
  cases found : map[key]? with
  | none =>
      rw [weightAt, found]
      rfl
  | some value => exact total_insert weight map key (write content value)

/-- Writes exchange the weights of the keys they write. -/
theorem total_writeAll (once : (entries.map Prod.fst).Nodup) :
    total weight (writeAll write map entries) +
        (entries.map fun entry => weightAt weight map entry.1).sum =
      total weight map +
        (entries.map fun entry => weightAt weight (writeAll write map entries) entry.1).sum := by
  induction entries generalizing map with
  | nil => rfl
  | cons entry rest ih =>
      rw [List.map_cons, List.nodup_cons] at once
      have first := total_writeAt weight write map entry.1 entry.2
      have others := ih (writeAt write map entry.1 entry.2) once.2
      have untouched : (rest.map fun other =>
            weightAt weight (writeAt write map entry.1 entry.2) other.1) =
          rest.map fun other => weightAt weight map other.1 := by
        refine List.map_congr_left ?_
        intro other member
        rw [weightAt, writeAt_getElem?_of_ne, ← weightAt]
        exact fun same => once.1 (same ▸ List.mem_map_of_mem member)
      have kept : weightAt weight (writeAll write (writeAt write map entry.1 entry.2) rest) entry.1 =
          weightAt weight (writeAt write map entry.1 entry.2) entry.1 := by
        rw [weightAt, writeAll_getElem?_of_not_mem once.1, ← weightAt]
      rw [untouched] at others
      have same : writeAll write map (entry :: rest) =
          writeAll write (writeAt write map entry.1 entry.2) rest := rfl
      rw [same, List.map_cons, List.map_cons, List.sum_cons, List.sum_cons, kept]
      omega

end Totals

end CSwitch.Library
