import Mathlib.Analysis.SpecialFunctions.Complex.Arctan
import Mathlib.Analysis.SpecialFunctions.Trigonometric.Bounds
import Heightfield.Proofs.Number.Overflow

/-!
# Poles of the tangent

The tangent has its poles at the odd multiples of a right angle. No number is near one of them,
however large it is: a number is a multiple of a power of two, and the multiples of the power that
are small enough stay away from those of the right angle, as two neighbouring fractions with large
denominators enclose the quotient.

* `Number.arctanSum` and `Number.pi_mem` enclose the half-circle.
* `Number.Encloses` says that two fractions enclose a real number, and `Number.Encloses.le_dist` how
  far its multiples are from the integers.
* `Number.abs_tan_value_le` bounds the tangents of all finite numbers.
-/

namespace Heightfield.Number

open Filter Real

/-! ## The half-circle -/

/-- The first terms of the series for the angle with the tangent `1 / b`. -/
def arctanSum (b n : ℕ) : ℚ :=
  ∑ i ∈ Finset.range n, (-1) ^ i * (1 / ((2 * i + 1) * b ^ (2 * i + 1)))

/-- The series alternates, so that its sums are below and above the angle in turns. -/
theorem arctan_mem {b : ℕ} (hb : 1 < b) (k : ℕ) :
    arctanSum b (2 * k) ≤ arctan (b : ℝ)⁻¹ ∧ arctan (b : ℝ)⁻¹ ≤ arctanSum b (2 * k + 1) := by
  have hone : (1 : ℝ) < b := by exact_mod_cast hb
  have hnorm : ‖(b : ℝ)⁻¹‖ < 1 := by
    rw [norm_of_nonneg (by positivity)]
    exact inv_lt_one_of_one_lt₀ hone
  let term (i : ℕ) : ℝ := 1 / ((2 * i + 1) * b ^ (2 * i + 1))
  have hsum (n : ℕ) : (arctanSum b n : ℝ) = ∑ i ∈ Finset.range n, (-1) ^ i * term i := by
    simp [arctanSum, term]
  have htendsto : Tendsto (fun n => ∑ i ∈ Finset.range n, (-1) ^ i * term i) atTop
      (nhds (arctan (b : ℝ)⁻¹)) := by
    refine (hasSum_arctan hnorm).tendsto_sum_nat.congr fun n => ?_
    refine Finset.sum_congr rfl fun i _ => ?_
    simp only [term, inv_pow]
    push_cast
    field_simp
  have hanti : Antitone term := by
    refine antitone_nat_of_succ_le fun i => ?_
    simp only [term]
    gcongr
    · exact i.le_succ
    · exact hone.le
    · exact i.le_succ
  rw [hsum, hsum]
  exact ⟨hanti.alternating_series_le_tendsto htendsto k,
    hanti.tendsto_le_alternating_series htendsto k⟩

/-- A fraction below the half-circle, by less than 2^-216. -/
def piBelow : ℚ := 4 * (4 * arctanSum 5 (2 * 23) - arctanSum 239 (2 * 7 + 1))

/-- A fraction above the half-circle, by less than 2^-216. -/
def piAbove : ℚ := 4 * (4 * arctanSum 5 (2 * 23 + 1) - arctanSum 239 (2 * 7))

theorem pi_mem : piBelow ≤ π ∧ π ≤ piAbove := by
  have hformula := four_mul_arctan_inv_5_sub_arctan_inv_239
  have hfive := arctan_mem (b := 5) (by decide) 23
  have hlarge := arctan_mem (b := 239) (by decide) 7
  rw [piBelow, piAbove]
  push_cast at hfive hlarge ⊢
  constructor <;> linarith [hfive.1, hfive.2, hlarge.1, hlarge.2]

/-! ## Neighbouring fractions -/

/-- Neighbouring fractions `p / q` and `p' / q'` enclose the real number, and neither is nearer to
it than `ε` over its denominator. -/
structure Encloses (α ε : ℝ) (p q p' q' : ℕ) : Prop where
  det : p' * q = p * q' + 1
  below : ε ≤ q * α - p
  above : ε ≤ p' - q' * α

variable {α ε : ℝ} {p q p' q' : ℕ}

/-- **Multiples stay away from the integers**, for factors less than the sum of the denominators. -/
theorem Encloses.le_dist (h : Encloses α ε p q p' q') (hε : 0 ≤ ε) {k : ℕ} (hpos : 0 < k)
    (hlt : k < q + q') (n : ℤ) : ε ≤ |k * α - n| := by
  obtain ⟨hdet, hbelow, habove⟩ := h
  have hdet' : (p' * q : ℤ) = p * q' + 1 := by exact_mod_cast hdet
  -- the fraction n / k has coordinates by the two neighbours, which cannot both be positive
  obtain ⟨a, ha⟩ : ∃ a : ℤ, a = k * p' - n * q' := ⟨_, rfl⟩
  obtain ⟨b, hb⟩ : ∃ b : ℤ, b = n * q - k * p := ⟨_, rfl⟩
  have hk : (k : ℤ) = a * q + b * q' := by
    rw [ha, hb]
    linear_combination (-k : ℤ) * hdet'
  have hn : n = a * p + b * p' := by
    rw [ha, hb]
    linear_combination (-n : ℤ) * hdet'
  have hvalue : k * α - n = a * (q * α - p) - b * (p' - q' * α) := by
    have hk' : (k : ℝ) = a * q + b * q' := by exact_mod_cast hk
    rw [hk', hn]
    push_cast
    ring
  have hX : 0 ≤ q * α - p := hε.trans hbelow
  have hY : 0 ≤ p' - q' * α := hε.trans habove
  rw [hvalue, le_abs]
  rcases le_or_gt a 0 with ha | ha <;> rcases le_or_gt b 0 with hb | hb
  · have := mul_nonpos_of_nonpos_of_nonneg ha (Int.natCast_nonneg q)
    have := mul_nonpos_of_nonpos_of_nonneg hb (Int.natCast_nonneg q')
    omega
  · right
    have hleft := mul_nonpos_of_nonpos_of_nonneg (Int.cast_nonpos.mpr ha) hX
    have hright := le_mul_of_one_le_left hY (Int.cast_one_le_of_pos hb)
    linarith
  · left
    have hleft := le_mul_of_one_le_left hX (Int.cast_one_le_of_pos ha)
    have hright := mul_nonpos_of_nonpos_of_nonneg (Int.cast_nonpos.mpr hb) hY
    linarith
  · have := le_mul_of_one_le_left (Int.natCast_nonneg q) ha
    have := le_mul_of_one_le_left (Int.natCast_nonneg q') hb
    omega

/-- Fractions enclose a quotient by the half-circle if they do so with its bounds. -/
theorem encloses_div_pi {c ε : ℚ} (hc : 0 ≤ c) (hε : 0 ≤ ε) (hdet : p' * q = p * q' + 1)
    (hbelow : (p + ε) * piAbove ≤ q * c) (habove : q' * c ≤ (p' - ε) * piBelow) :
    Encloses (c / π) ε p q p' q' := by
  obtain ⟨hlow, hhigh⟩ := pi_mem
  have hpi := pi_pos
  refine ⟨hdet, ?_, ?_⟩
  · have hbelow' : ((p : ℝ) + ε) * piAbove ≤ q * c := by exact_mod_cast hbelow
    rw [le_sub_iff_add_le', ← mul_div_assoc, le_div_iff₀ hpi]
    exact (mul_le_mul_of_nonneg_left hhigh (by positivity)).trans hbelow'
  · have habove' : (q' : ℝ) * c ≤ (p' - ε) * piBelow := by exact_mod_cast habove
    have hnonneg : 0 ≤ p' - ε := by
      have hprod : 0 ≤ (p' - ε) * piBelow := (mul_nonneg q'.cast_nonneg hc).trans habove
      exact nonneg_of_mul_nonneg_left hprod (by decide +kernel)
    rw [le_sub_comm, ← mul_div_assoc, div_le_iff₀ hpi]
    exact habove'.trans (mul_le_mul_of_nonneg_left hlow (by exact_mod_cast hnonneg))

/-! ## Cosines -/

/-- A cosine is small only near an odd multiple of a right angle. -/
theorem le_abs_cos {x ε : ℝ} (h : ∀ n : ℤ, ε ≤ |2 * x / π - n|) : ε ≤ |Real.cos x| := by
  have hpi := pi_pos
  -- the distance to the odd multiple in the same half-circle
  let y := x - ⌊x / π⌋ * π - π / 2
  have hcos : |Real.cos x| = |Real.sin y| := by
    rw [sin_sub_pi_div_two, abs_neg, cos_sub_int_mul_pi, abs_mul, abs_zpow]
    simp
  have hy : 2 / π * y = 2 * x / π - (2 * ⌊x / π⌋ + 1 : ℤ) := by
    simp only [y]
    push_cast
    field_simp
    ring
  have habs : |y| ≤ π / 2 := by
    have hfloor := Int.floor_le (x / π)
    have hlt := Int.lt_floor_add_one (x / π)
    rw [le_div_iff₀ hpi] at hfloor
    rw [div_lt_iff₀ hpi] at hlt
    rw [abs_le]
    constructor <;> simp only [y] <;> linarith
  calc ε ≤ |2 * x / π - (2 * ⌊x / π⌋ + 1 : ℤ)| := h _
    _ = 2 / π * |y| := by rw [← hy, abs_mul, abs_of_pos (by positivity)]
    _ ≤ |Real.sin y| := mul_abs_le_abs_sin habs
    _ = |Real.cos x| := hcos.symm

/-- Small multiples are not near to an odd multiple of a right angle. -/
theorem Encloses.le_abs_cos {c : ℚ} (h : Encloses ((2 * c : ℚ) / π) ε p q p' q') (hε : 0 ≤ ε)
    {k : ℕ} (hpos : 0 < k) (hlt : k < q + q') : ε ≤ |Real.cos (k * c : ℚ)| := by
  refine Number.le_abs_cos fun n => ?_
  have hfactor : 2 * ((k * c : ℚ) : ℝ) / π = k * ((2 * c : ℚ) / π) := by
    push_cast
    ring
  rw [hfactor]
  exact h.le_dist hε hpos hlt n

/-! ## Numbers

Two weights are enough for the numbers from 1 on, with factors below 2^87: the neighbours are those
of the least denominators that together reach this bound. -/

/-- The multiples of 2^-23, which the numbers from 1 on are. -/
theorem encloses_unit_small : Encloses ((2 * unit 126 : ℚ) / π) (1 / 2 ^ 90 : ℚ)
    2651314987759742131 34935833101959507573953635
    10450759246865109277 137707508358235407944588274 :=
  encloses_div_pi (by decide +kernel) (by positivity) (by decide +kernel) (by decide +kernel)
    (by decide +kernel)

/-- The multiples of 2^41, which the numbers from 2^64 on are. -/
theorem encloses_unit_large : Encloses ((2 * unit 190 : ℚ) / π) (1 / 2 ^ 90 : ℚ)
    143551241859299816211974084346831000332 102540872567003114945082117
    142020119270741287439118803405710755069 101447168017991101022298196 :=
  encloses_div_pi (by decide +kernel) (by positivity) (by decide +kernel) (by decide +kernel)
    (by decide +kernel)

/-- Numbers of 64 successive exponents are multiples of the weight of the last digit at the first
one. -/
theorem Encloses.le_abs_cos_unit {t j n : ℕ} {ε : ℚ}
    (h : Encloses ((2 * unit t : ℚ) / π) ε p q p' q') (hε : 0 ≤ ε) (hq : 2 ^ 87 ≤ q + q')
    (hpos : 0 < n) (hn : n < 2 ^ 24) (hj : j < 64) :
    ε ≤ |Real.cos (n * unit (t + j) : ℚ)| := by
  have hmultiple : n * unit (t + j) = (n * 2 ^ j : ℕ) * unit t := by
    rw [unit_add]
    push_cast
    ring
  have hfactor : n * 2 ^ j < q + q' :=
    calc n * 2 ^ j ≤ n * 2 ^ 63 := Nat.mul_le_mul_left n (Nat.pow_le_pow_right two_pos (by omega))
      _ < 2 ^ 87 := by omega
      _ ≤ q + q' := hq
  rw [hmultiple]
  exact h.le_abs_cos (by exact_mod_cast hε) (by positivity) hfactor

/-- The cosine of a number is not small, whatever its exponent is. -/
theorem le_abs_cos_amount {m : ℕ} (h : m < infinite) :
    ((1 / 2 ^ 90 : ℚ) : ℝ) ≤ |Real.cos (amount m)| := by
  have hinfinite : infinite = 255 * 2 ^ 23 := rfl
  obtain ⟨t, ht⟩ : ∃ t, t = m / 2 ^ 23 - 1 := ⟨_, rfl⟩
  rcases lt_or_ge t 126 with hsmall | hlarge
  · -- below 1 the cosine is at least a half
    have hone : 2 ^ 24 * unit 125 = 1 := by norm_num [unit]
    have hlt := amount_lt (m := m) (t := 125) (by omega)
    rw [hone] at hlt
    have hsquare : (amount m : ℝ) ^ 2 ≤ 1 := by
      exact_mod_cast pow_le_one₀ (amount_nonneg m) hlt.le
    have hcos := Real.one_sub_sq_div_two_le_cos (x := amount m)
    refine le_trans ?_ (hcos.trans (le_abs_self _))
    norm_num
    linarith
  · obtain ⟨n, hn⟩ : ∃ n, n = m - t * 2 ^ 23 := ⟨_, rfl⟩
    have hamount : amount m = n * unit t := by rw [hn, ht, amount]
    have hlt : n < 2 ^ 24 := by omega
    rw [hamount]
    rcases lt_or_ge t 190 with hmiddle | hhuge
    · obtain ⟨j, rfl⟩ := Nat.exists_eq_add_of_le hlarge
      exact encloses_unit_small.le_abs_cos_unit (by positivity) (by norm_num) (by omega) hlt
        (by omega)
    · obtain ⟨j, rfl⟩ := Nat.exists_eq_add_of_le hhuge
      exact encloses_unit_large.le_abs_cos_unit (by positivity) (by norm_num) (by omega) hlt
        (by omega)

/-- **No finite number is near a pole of the tangent.** -/
theorem abs_tan_value_le {x : Float32} (h : x.isFinite = true) : |Real.tan (value x)| ≤ 2 ^ 90 := by
  have hcos : |Real.cos (value x)| = |Real.cos (amount (rank x).natAbs)| := by
    rw [value_eq]
    split_ifs
    · rw [Rat.cast_neg, Real.cos_neg]
    · rfl
  have hle := le_abs_cos_amount (isFinite_iff.mp h)
  rw [← hcos] at hle
  have hpos : (0 : ℝ) < |Real.cos (value x)| := lt_of_lt_of_le (by norm_num) hle
  rw [Real.tan_eq_sin_div_cos, abs_div, div_le_iff₀ hpos]
  calc |Real.sin (value x)| ≤ 1 := abs_sin_le_one _
    _ = 2 ^ 90 * ((1 / 2 ^ 90 : ℚ) : ℝ) := by norm_num
    _ ≤ 2 ^ 90 * |Real.cos (value x)| := mul_le_mul_of_nonneg_left hle (by positivity)

end Heightfield.Number
