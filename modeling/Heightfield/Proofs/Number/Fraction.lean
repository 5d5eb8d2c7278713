import Heightfield.Proofs.Number.Floor

/-!
# Integer parts of rounded rationals

A rational that is rounded keeps its integer part unless it is so near to the next integer that it
is rounded up to it. A fraction is at least one part of its denominator below the next integer, so
that one with few digits is never that near.

* `Number.Nearest.floor_value_eq` is about rationals, and `Number.Nearest.floor_value_eq_of_digits`
  about fractions with few digits.
* `Number.sub_mul_floor_mem` is about what is left over of a fraction.
* `Number.fract_value_lt_iff` says which numbers have a fractional part that is rounded below 1.
-/

namespace Heightfield.Number

variable {x : Float32} {q : ℚ} {m n : ℤ}

/-! ## Rationals -/

/-- Small integers are numbers. -/
theorem exists_value_eq_intCast (hn : |n| < 2 ^ 24) :
    ∃ x : Float32, x.isFinite = true ∧ value x = n := by
  have hnat := nearest_ofNat n.natAbs
  rw [Nat.cast_natAbs] at hnat
  obtain ⟨hfinite, hvalue⟩ := hnat.value_eq_intCast (by rwa [abs_abs])
  rcases le_total 0 n with hpos | hneg
  · rw [abs_of_nonneg hpos] at hvalue
    exact ⟨_, hfinite, hvalue⟩
  · rw [abs_of_nonpos hneg] at hvalue
    refine ⟨_, isFinite_neg hfinite, ?_⟩
    rw [value_neg hfinite, hvalue, Int.cast_neg, neg_neg]

/-- **A rational that is not near to the next integer keeps its integer part.** -/
theorem Nearest.floor_value_eq (h : Nearest q x) (hx : x.isFinite = true)
    (hgap : |q| / 2 ^ 24 + 1 / 2 ^ 125 < 1 - Int.fract q) : ⌊value x⌋ = ⌊q⌋ := by
  have hsplit := Int.floor_add_fract q
  have hfract := Int.fract_nonneg q
  obtain ⟨hlow, hhigh⟩ := abs_le.mp (le_refl |q|)
  have hsmall : |⌊q⌋| < 2 ^ 24 := by
    have habs : |(⌊q⌋ : ℚ)| < 2 ^ 24 := abs_lt.mpr ⟨by linarith, by linarith⟩
    exact_mod_cast habs
  obtain ⟨y, hy, hvalue⟩ := exists_value_eq_intCast hsmall
  refine Int.floor_eq_iff.mpr ⟨?_, ?_⟩
  · rw [← hvalue, value_le_value_iff hy hx]
    exact (nearest_value hy).mono h (hvalue ▸ Int.floor_le q)
  · have herror := (abs_le.mp (h.abs_value_sub_le_add hx)).2
    linarith

/-! ## Fractions -/

/-- What is left over of the numerator, for the integer part. -/
theorem fract_mul (hn : n ≠ 0) :
    Int.fract (m / n : ℚ) * n = (m - n * ⌊(m / n : ℚ)⌋ : ℤ) := by
  have hn' : (n : ℚ) ≠ 0 := by exact_mod_cast hn
  rw [← Int.self_sub_floor, sub_mul, div_mul_cancel₀ _ hn']
  push_cast
  ring

/-- What is left over has the sign of the denominator and is smaller. -/
theorem sub_mul_floor_mem (hn : n ≠ 0) :
    0 ≤ (m - n * ⌊(m / n : ℚ)⌋) * n ∧ |m - n * ⌊(m / n : ℚ)⌋| < |n| := by
  have hfract := fract_mul (m := m) hn
  have hnonneg := Int.fract_nonneg (m / n : ℚ)
  have hsign : (0 : ℚ) ≤ ((m - n * ⌊(m / n : ℚ)⌋ : ℤ) : ℚ) * n := by
    rw [← hfract, mul_assoc]
    exact mul_nonneg hnonneg (mul_self_nonneg _)
  have hsmall : |((m - n * ⌊(m / n : ℚ)⌋ : ℤ) : ℚ)| < |(n : ℚ)| := by
    rw [← hfract, abs_mul, abs_of_nonneg hnonneg]
    exact mul_lt_of_lt_one_left (abs_pos.mpr (by exact_mod_cast hn)) (Int.fract_lt_one _)
  exact ⟨by exact_mod_cast hsign, by exact_mod_cast hsmall⟩

/-- A fraction is at least one part of its denominator below the next integer. -/
theorem one_le_gap_mul (hn : n ≠ 0) : 1 ≤ (1 - Int.fract (m / n : ℚ)) * |(n : ℚ)| := by
  have hfract : Int.fract (m / n : ℚ) * |(n : ℚ)| = (|m - n * ⌊(m / n : ℚ)⌋| : ℤ) := by
    rw [Int.cast_abs, ← fract_mul hn, abs_mul, abs_of_nonneg (Int.fract_nonneg (m / n : ℚ))]
  have hstep : ((|m - n * ⌊(m / n : ℚ)⌋| : ℤ) : ℚ) + 1 ≤ |(n : ℚ)| := by
    exact_mod_cast (sub_mul_floor_mem hn).2
  rw [sub_mul, hfract]
  linarith

/-- **A fraction with few digits keeps its integer part.** -/
theorem Nearest.floor_value_eq_of_digits (h : Nearest (m / n) x) (hn : n ≠ 0)
    (hle : |m| + |n| ≤ 2 ^ 24) : x.isFinite = true ∧ ⌊value x⌋ = ⌊(m / n : ℚ)⌋ := by
  have hgap := one_le_gap_mul (m := m) hn
  have hone : (1 : ℚ) ≤ |(n : ℚ)| := by exact_mod_cast Int.one_le_abs hn
  have hdigits : |(m : ℚ)| + |(n : ℚ)| ≤ 2 ^ 24 := by exact_mod_cast hle
  have hm := abs_nonneg (m : ℚ)
  have hpos : 0 < |(n : ℚ)| := one_pos.trans_le hone
  have habs : |(m / n : ℚ)| * |(n : ℚ)| = |(m : ℚ)| := by
    rw [abs_div, div_mul_cancel₀ _ hpos.ne']
  have hfinite : x.isFinite = true := by
    refine h.isFinite ?_
    rw [abs_div]
    refine (div_le_self hm hone).trans ?_
    linarith
  refine ⟨hfinite, h.floor_value_eq hfinite ?_⟩
  refine lt_of_mul_lt_mul_right ?_ hpos.le
  calc (|(m / n : ℚ)| / 2 ^ 24 + 1 / 2 ^ 125) * |(n : ℚ)|
      = |(m : ℚ)| / 2 ^ 24 + |(n : ℚ)| / 2 ^ 125 := by rw [← habs]; ring
    _ < 1 := by linarith
    _ ≤ (1 - Int.fract (m / n : ℚ)) * |(n : ℚ)| := hgap

/-! ## Fractional parts of numbers -/

/-- What is rounded to a number below 1. -/
theorem roundsBelow_one_iff : RoundsBelow q 0x3f800000 ↔ q < 1 - 1 / 2 ^ 25 := by
  norm_num [RoundsBelow, amount, unit]

/-- A number that is not small has few digits behind the point. -/
theorem fract_value_le (h : 1 ≤ |value x|) : Int.fract (value x) ≤ 1 - 1 / 2 ^ 23 := by
  have hone : amount (127 * 2 ^ 23) = 1 := by norm_num [amount, unit]
  rw [abs_value, ← hone, amount_strictMono.le_iff_le] at h
  obtain ⟨i, hi⟩ := exists_mul_unit (x := x) (t := 126) (by omega)
  have hunit : unit 126 = 1 / 2 ^ 23 := by norm_num [unit]
  have hvalue : value x = i / (2 ^ 23 : ℤ) := by
    rw [hi, hunit]
    push_cast
    ring
  have hgap := one_le_gap_mul (m := i) (n := 2 ^ 23) (by decide)
  rw [← hvalue] at hgap
  push_cast at hgap
  rw [abs_of_pos (by positivity)] at hgap
  linarith

theorem fract_value_lt_iff (hx : x.isFinite = true) :
    Int.fract (value x) < 1 - 1 / 2 ^ 25 ↔ value x < -1 / 2 ^ 25 ∨ 0 ≤ value x := by
  rcases le_or_gt 1 |value x| with hle | hlt
  · have hfract := fract_value_le hle
    refine iff_of_true (hfract.trans_lt (by norm_num)) ?_
    rcases le_abs.mp hle with hpos | hneg
    · exact .inr (by linarith)
    · exact .inl (by linarith)
  · obtain ⟨hlow, hhigh⟩ := abs_lt.mp hlt
    rcases le_or_gt 0 (value x) with hpos | hneg
    · have hone : amount 0x3f800000 = 1 := by norm_num [amount, unit]
      have hself : Int.fract (value x) = value x := Int.fract_eq_self.mpr ⟨hpos, hhigh⟩
      have hrounds := (nearest_value hx).rounds
      rw [abs_value, ← hone, amount_strictMono.lt_iff_lt] at hlt
      rw [abs_of_nonneg hpos] at hrounds
      rw [hself, ← roundsBelow_one_iff, ← hrounds.lt_iff (by decide) (by decide)]
      exact iff_of_true hlt (.inr hpos)
    · have hfloor : ⌊value x⌋ = -1 := by
        rw [Int.floor_eq_iff]
        push_cast
        exact ⟨hlow.le, by linarith⟩
      rw [← Int.self_sub_floor, hfloor]
      push_cast
      constructor
      · intro h
        exact .inl (by linarith)
      · rintro (h | h) <;> linarith

end Heightfield.Number
