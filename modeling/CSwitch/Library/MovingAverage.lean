import Mathlib

/-! Moving averages in floor arithmetic. An average lies between the value it
moves and the sample, so it stays within its samples once it lies within them;
the averages of the parts of a whole add up to at most the average of the wholes. -/

set_option autoImplicit false

namespace CSwitch.Library

/-- The weight `keep` on the past against one on the sample, rounded down. -/
def average (keep previous sample : Nat) : Nat := (previous * keep + sample) / (keep + 1)

section Average

variable {keep previous sample : Nat}

theorem le_average {low : Nat} (past : low ≤ previous) (now : low ≤ sample) :
    low ≤ average keep previous sample := by
  have kept : low * keep ≤ previous * keep := Nat.mul_le_mul_right keep past
  unfold average
  rw [Nat.le_div_iff_mul_le (Nat.succ_pos keep), Nat.mul_succ]
  exact Nat.add_le_add kept now

theorem average_le {high : Nat} (past : previous ≤ high) (now : sample ≤ high) :
    average keep previous sample ≤ high := by
  have kept : previous * keep ≤ high * keep := Nat.mul_le_mul_right keep past
  unfold average
  apply Nat.div_le_of_le_mul
  rw [Nat.mul_comm (keep + 1), Nat.mul_succ]
  exact Nat.add_le_add kept now

@[simp] theorem average_self (keep value : Nat) : average keep value value = value :=
  Nat.le_antisymm (average_le le_rfl le_rfl) (le_average le_rfl le_rfl)

/-- From nothing, an average does not reach its first sample. -/
theorem average_zero_lt (weighs : 0 < keep) (some : 0 < sample) :
    average keep 0 sample < sample := by
  unfold average
  rw [Nat.zero_mul, Nat.zero_add]
  exact Nat.div_lt_self some (Nat.succ_lt_succ weighs)

/-- Rounding down loses less than one. -/
theorem average_mul_bounds (keep previous sample : Nat) :
    average keep previous sample * (keep + 1) ≤ previous * keep + sample ∧
      previous * keep + sample ≤ average keep previous sample * (keep + 1) + keep := by
  unfold average
  have parts := Nat.div_add_mod (previous * keep + sample) (keep + 1)
  have rest : (previous * keep + sample) % (keep + 1) < keep + 1 := Nat.mod_lt _ (Nat.succ_pos keep)
  rw [Nat.mul_comm (keep + 1)] at parts
  omega

end Average

/-- A share of the weight on the sample and the rest on the past, rounded down. -/
def blend (total weight previous sample : Nat) : Nat :=
  (weight * sample + (total - weight) * previous) / total

section Blend

variable {total weight previous sample : Nat}

/-- The two weights of a blend make up the whole. -/
theorem blend_const (share : weight ≤ total) (value : Nat) :
    weight * value + (total - weight) * value = value * total := by
  rw [← Nat.add_mul, Nat.add_sub_cancel' share, Nat.mul_comm]

theorem le_blend {low : Nat} (positive : 0 < total) (share : weight ≤ total)
    (past : low ≤ previous) (now : low ≤ sample) : low ≤ blend total weight previous sample := by
  unfold blend
  rw [Nat.le_div_iff_mul_le positive, ← blend_const share]
  exact Nat.add_le_add (Nat.mul_le_mul_left _ now) (Nat.mul_le_mul_left _ past)

theorem blend_le {high : Nat} (share : weight ≤ total) (past : previous ≤ high)
    (now : sample ≤ high) : blend total weight previous sample ≤ high := by
  unfold blend
  apply Nat.div_le_of_le_mul
  rw [Nat.mul_comm total, ← blend_const share]
  exact Nat.add_le_add (Nat.mul_le_mul_left _ now) (Nat.mul_le_mul_left _ past)

end Blend

/-! ## Within samples -/

/-- A value lies between the least and the largest of some samples. -/
structure WithinSamples (samples : List Nat) (value : Nat) : Prop where
  least : ∃ low ∈ samples, low ≤ value
  largest : ∃ high ∈ samples, value ≤ high

theorem withinSamples_of_mem {samples : List Nat} {value : Nat} (member : value ∈ samples) :
    WithinSamples samples value :=
  ⟨⟨value, member, le_rfl⟩, ⟨value, member, le_rfl⟩⟩

/-- A value between the one before and a new sample. -/
theorem WithinSamples.between {samples : List Nat} {value next : Nat}
    (within : WithinSamples samples value) (sample : Nat)
    (above : ∀ low, low ≤ value → low ≤ sample → low ≤ next)
    (below : ∀ high, value ≤ high → sample ≤ high → next ≤ high) :
    WithinSamples (samples ++ [sample]) next := by
  obtain ⟨⟨low, lowMember, less⟩, high, highMember, more⟩ := within
  have new : sample ∈ samples ++ [sample] := List.mem_append_right samples List.mem_cons_self
  constructor
  · rcases le_total low sample with before | after
    · exact ⟨low, List.mem_append_left _ lowMember, above low less before⟩
    · exact ⟨sample, new, above sample (after.trans less) le_rfl⟩
  · rcases le_total high sample with before | after
    · exact ⟨sample, new, below sample (more.trans before) le_rfl⟩
    · exact ⟨high, List.mem_append_left _ highMember, below high more after⟩

theorem WithinSamples.average {samples : List Nat} {value : Nat}
    (within : WithinSamples samples value) (keep sample : Nat) :
    WithinSamples (samples ++ [sample]) (average keep value sample) :=
  within.between sample (fun _ past now => le_average past now) (fun _ past now => average_le past now)

theorem WithinSamples.blend {samples : List Nat} {value total weight : Nat}
    (within : WithinSamples samples value) (positive : 0 < total) (share : weight ≤ total)
    (sample : Nat) : WithinSamples (samples ++ [sample]) (blend total weight value sample) :=
  within.between sample
    (fun _ past now => le_blend positive share past now) (fun _ past now => blend_le share past now)

/-! ## Parts of a whole -/

/-- The averages of parts, against the average of their sums. -/
theorem sum_average_bounds (keep : Nat) {previous samples : List Nat}
    (same : previous.length = samples.length) :
    (List.zipWith (average keep) previous samples).sum * (keep + 1) ≤
        previous.sum * keep + samples.sum ∧
      previous.sum * keep + samples.sum ≤
        (List.zipWith (average keep) previous samples).sum * (keep + 1) + samples.length * keep := by
  induction previous generalizing samples with
  | nil =>
      obtain rfl := List.length_eq_zero_iff.mp same.symm
      simp
  | cons value previous ih =>
      cases samples with
      | nil => cases same
      | cons sample samples =>
          obtain ⟨upper, lower⟩ := ih (Nat.succ.inj same)
          obtain ⟨ownUpper, ownLower⟩ := average_mul_bounds keep value sample
          simp only [List.zipWith_cons_cons, List.sum_cons, List.length_cons, Nat.add_mul, Nat.one_mul]
            at upper lower ownUpper ownLower ⊢
          omega

/-- The floors of the shares of a whole add up to at most the whole, and miss it
by less than one each. -/
theorem sum_shares_bounds (scale total : Nat) (positive : 0 < total) (parts : List Nat) :
    (parts.map fun part => part * scale / total).sum * total ≤ parts.sum * scale ∧
      parts.sum * scale ≤
        (parts.map fun part => part * scale / total).sum * total + parts.length * (total - 1) := by
  induction parts with
  | nil => simp
  | cons part rest ih =>
      have split := Nat.div_add_mod (part * scale) total
      have less := Nat.mod_lt (part * scale) positive
      rw [Nat.mul_comm total] at split
      simp only [List.map_cons, List.sum_cons, List.length_cons, Nat.add_mul, Nat.one_mul] at ih ⊢
      omega

end CSwitch.Library
