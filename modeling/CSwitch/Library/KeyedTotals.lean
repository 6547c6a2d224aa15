import Mathlib

/-! Totals over the entries of an ordered map. A total is the sum of one weight
per entry, so a point update changes it by the weight of a single key. Counting
the keys of a fibre and measuring the surplus of a table of queues are both
totals. -/

set_option autoImplicit false

namespace KeyedTotals

open Std (TreeMap)

variable {κ ν : Type} [Ord κ] [Std.TransOrd κ] [Std.LawfulEqOrd κ]
variable (weight : κ → ν → Nat) (map : TreeMap κ ν)

def total : Nat := (map.toList.map fun entry => weight entry.1 entry.2).sum

/-- The weight of one key, zero when it is absent. -/
def weightAt (key : κ) : Nat := (map[key]?.map (weight key)).getD 0

private theorem nodup_toList : map.toList.Nodup :=
  TreeMap.distinct_keys_toList.imp fun distinct same => distinct (by rw [same, Std.compare_self])

variable [DecidableEq κ]

private def totalBut (key : κ) : Nat :=
  ((map.toList.filter (¬ key == ·.1)).map fun entry => weight entry.1 entry.2).sum

private theorem total_split (key : κ) :
    total weight map = weightAt weight map key + totalBut weight map key := by
  unfold total weightAt totalBut
  cases found : map[key]? with
  | none =>
      have whole : map.toList.filter (¬ key == ·.1) = map.toList := by
        refine List.filter_eq_self.mpr ?_
        rintro ⟨other, value⟩ member
        have present := TreeMap.mem_toList_iff_getElem?_eq_some.mp member
        have distinct : key ≠ other := by
          rintro rfl
          simp [found] at present
        simp [distinct]
      rw [whole]
      simp
  | some value =>
      have entries : map.toList.Perm ((key, value) :: map.toList.filter (¬ key == ·.1)) := by
        refine (List.perm_ext_iff_of_nodup (nodup_toList map) ?_).mpr ?_
        · refine List.nodup_cons.mpr ⟨by simp, (nodup_toList map).filter _⟩
        · rintro ⟨other, stored⟩
          simp only [TreeMap.mem_toList_iff_getElem?_eq_some, List.mem_cons, Prod.mk.injEq,
            List.mem_filter, decide_eq_true_eq, beq_iff_eq]
          by_cases same : key = other
          · subst same
            simp [found, eq_comm]
          · simp [same, Ne.symm same]
      have sums := (entries.map fun entry => weight entry.1 entry.2).sum_eq
      simpa using sums

/-- Storing a value exchanges the weight of its key. -/
theorem total_insert (key : κ) (value : ν) :
    total weight (map.insert key value) + weightAt weight map key =
      total weight map + weight key value := by
  have entries := ((TreeMap.toList_insert_perm (t := map) (k := key) (v := value)).map
    fun entry => weight entry.1 entry.2).sum_eq
  have after : total weight (map.insert key value) =
      weight key value + totalBut weight map key := by
    simpa [total, totalBut] using entries
  rw [after, total_split weight map key]
  omega

omit [Std.TransOrd κ] [Std.LawfulEqOrd κ] [DecidableEq κ]

theorem values_eq_map_toList : map.values = map.toList.map Prod.snd := by
  have folded : map.values = map.foldr (fun _ value rest => value :: rest) [] := rfl
  rw [folded, TreeMap.foldr_eq_foldr_toList]
  induction map.toList with
  | nil => rfl
  | cons entry rest ih => simp [ih]

theorem foldl_values (counts : TreeMap κ Nat) :
    counts.values.foldl (· + ·) 0 = total (fun _ count => count) counts := by
  rw [← List.sum_eq_foldl, values_eq_map_toList, total]

end KeyedTotals
