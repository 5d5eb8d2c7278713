import Heightfield.Proofs.Number.Arithmetic

/-!
# Overflow

A result is finite just if its operands are and the exact result is not beyond the range: it stays
below half-way from the greatest number to the power of two behind it. What is not finite stays so
under sums, differences and products.

* `Number.Fits` are the rationals within the range, and `Number.Nearest.isFinite_iff_fits` says that
  just they are rounded to finite numbers.
* `Number.isFinite_add_iff`, `Number.isFinite_sub_iff`, `Number.isFinite_mul_iff` and
  `Number.isFinite_div_iff` say which results are finite.
-/

namespace Heightfield.Number

open Float.Model Float.Model.UnpackedFloat

variable {q r : ℚ} {m : ℕ} {x y : Float32}

/-! ## The range -/

/-- The rational is within the range of finite numbers, up to half a unit of the greatest one. -/
def Fits (q : ℚ) : Prop := |q| < 2 ^ 128 - 2 ^ 103

theorem Fits.of_mem (hq : Fits q) (hr : Fits r) {p : ℚ} (hle : q ≤ p) (hge : p ≤ r) : Fits p :=
  lt_of_le_of_lt (abs_le_max_abs_abs hle hge) (max_lt hq hr)

theorem fits_of_abs_le (h : |q| ≤ 2 ^ 127) : Fits q := h.trans_lt (by norm_num)

@[simp] theorem fits_neg : Fits (-q) ↔ Fits q := by rw [Fits, abs_neg, Fits]

/-- Half-way behind an integer the next one is taken, unless the integer is even. -/
theorem NearestInt.le_iff {k l : ℕ} (h : NearestInt q k) :
    k ≤ l ↔ q < l + 1 / 2 ∨ q = l + 1 / 2 ∧ l % 2 = 0 := by
  constructor
  · intro hle
    rcases hle.eq_or_lt with rfl | hlt
    · exact h.upper.lt_or_eq.imp_right fun heq => ⟨heq, h.even (.inr heq)⟩
    · have hstep : (k : ℚ) + 1 ≤ l := by exact_mod_cast hlt
      exact .inl (by linarith [h.upper])
  · rintro (hlt | ⟨rfl, heven⟩)
    · by_contra hlt'
      have hstep : (l : ℚ) + 1 ≤ k := by exact_mod_cast not_le.mp hlt'
      linarith [h.lower]
    · have hself := NearestInt.half l
      rw [heven, add_zero] at hself
      exact h.mono hself le_rfl

/-- Bits below those of the infinity have a lesser exponent than it, and what is rounded up to it
has the exponent before. -/
theorem Rounds.lt_infinite_iff (h : Rounds q m) : m < infinite ↔ q < 2 ^ 128 - 2 ^ 103 := by
  obtain ⟨t, k, hscaled, hk, rfl⟩ := h
  have hbounds := hk.bounds hscaled
  have hbits : infinite = 254 * 2 ^ 23 + 2 ^ 23 := rfl
  rw [min_lt_iff, or_iff_left (lt_irrefl _)]
  rcases lt_trichotomy t 253 with ht | rfl | ht
  · refine iff_of_true (by omega) ?_
    have hunit : unit t ≤ unit 252 := unit_mono (by omega)
    have hbelow : unit 252 = 2 ^ 103 := by norm_num [unit]
    have hlt := hscaled.lt
    linarith
  · have hlast : unit 253 = 2 ^ 104 := by norm_num [unit]
    have hodd : ¬ (2 ^ 24 - 1) % 2 = 0 := by decide
    have hiff := hk.le_iff (l := 2 ^ 24 - 1)
    have hhalf : ((2 ^ 24 - 1 : ℕ) : ℚ) + 1 / 2 = 2 ^ 24 - 1 / 2 := by norm_num
    rw [or_iff_left fun h => hodd h.2, hlast, hhalf, div_lt_iff₀ (by positivity)] at hiff
    have hmid : (2 ^ 24 - 1 / 2 : ℚ) * 2 ^ 104 = 2 ^ 128 - 2 ^ 103 := by norm_num
    rw [← hmid, ← hiff]
    omega
  · have hle := hbounds.2 (by omega)
    refine iff_of_false (by omega) ?_
    have hunit : unit 254 ≤ unit t := unit_mono ht
    have habove : unit 254 = 2 ^ 105 := by norm_num [unit]
    have hge := hscaled.le (by omega)
    rw [not_lt]
    linarith

/-- **The rationals within the range are rounded to finite numbers**, and no others are. -/
theorem Nearest.isFinite_iff_fits (h : Nearest q x) : x.isFinite = true ↔ Fits q := by
  rw [isFinite_iff, natAbs_rank, h.rounds.lt_infinite_iff, Fits]

/-- The values of finite numbers are within the range. -/
theorem fits_value (h : x.isFinite = true) : Fits (value x) :=
  (nearest_value h).isFinite_iff_fits.mp h

/-- The value of a finite number is rounded to no number of another value. -/
theorem Nearest.value_eq (h : Nearest (value x) y) (hx : x.isFinite = true) :
    value y = value x := by
  rw [value, value, h.rank_eq (nearest_value hx)]

theorem value_one_literal : value 1 = 1 := value_one

/-! ## Results that are not finite -/

variable {u v : UnpackedFloat}

theorem isFinite_eq (x : Float32) : x.isFinite = x.toModel.unpack.isFinite := rfl

/-- What is not finite is stored so. -/
theorem isFinite_packed (h : u.isFinite = false) : (packed u).isFinite = false := by
  cases u with
  | notANumber => decide
  | infinity s => cases s <;> decide
  | zero s => cases h
  | finite s k e hpos => cases h

theorem isFinite_unpacked_neg (u : UnpackedFloat) : u.neg.isFinite = u.isFinite := by
  cases u <;> rfl

theorem isFinite_add_of_not (h : (u.isFinite && v.isFinite) = false) :
    (UnpackedFloat.add .binary32 u v).isFinite = false := by
  cases u <;> cases v
  case infinity.infinity s t => cases s <;> cases t <;> rfl
  all_goals first | rfl | cases h

theorem isFinite_mul_of_not (h : (u.isFinite && v.isFinite) = false) :
    (UnpackedFloat.mul .binary32 u v).isFinite = false := by
  cases u <;> cases v <;> first | rfl | cases h

theorem isFinite_div_of_not (h : u.isFinite = false) :
    (UnpackedFloat.div .binary32 u v).isFinite = false := by
  cases u <;> cases v <;> first | rfl | cases h

/-! ## Signs -/

theorem neg_eq_packed (x : Float32) : -x = packed x.toModel.unpack.neg := rfl

theorem abs_eq_packed (x : Float32) : x.abs = packed x.toModel.unpack.abs := rfl

/-- A finite number is taken apart into a zero, or into a significand and an exponent. -/
theorem unpack_cases (h : x.isFinite = true) :
    (∃ s, x.toModel.unpack = .zero s ∧ rank x = 0) ∨
      ∃ s m k e hpos, x.toModel.unpack = .finite s k e hpos ∧ Encodes m k e ∧ m < infinite ∧
        rank x = s.apply m := by
  have hunpacks := unpacks x
  have hrank : rank x = (sign x).apply (magnitude x) := rfl
  rw [isFinite_iff, natAbs_rank] at h
  rw [hrank]
  generalize x.toModel.unpack = u at hunpacks ⊢
  cases hunpacks with
  | notANumber h' => omega
  | infinity h' => omega
  | zero h' =>
    refine .inl ⟨_, rfl, ?_⟩
    rw [h']
    cases sign x <;> rfl
  | finite _ henc => exact .inr ⟨_, _, _, _, _, rfl, henc, h, rfl⟩

/-- A finite number that is taken apart and put together again is what it was. -/
theorem rank_packed_unpack (h : x.isFinite = true) : rank (packed x.toModel.unpack) = rank x := by
  obtain ⟨s, hunpack, hrank⟩ | ⟨s, m, k, e, hpos, hunpack, henc, hm, hrank⟩ := unpack_cases h
  · rw [hunpack, hrank, rank_packed_zero]
  · rw [hunpack, hrank, rank_packed_finite henc, min_eq_left hm.le]

/-- The opposite of a finite number has the opposite rank. -/
theorem rank_neg (h : x.isFinite = true) : rank (-x) = -rank x := by
  rw [neg_eq_packed]
  obtain ⟨s, hunpack, hrank⟩ | ⟨s, m, k, e, hpos, hunpack, henc, hm, hrank⟩ := unpack_cases h
  · rw [hunpack, hrank, UnpackedFloat.neg, rank_packed_zero, neg_zero]
  · rw [hunpack, hrank, UnpackedFloat.neg, rank_packed_finite henc, min_eq_left hm.le]
    cases s
    · exact (neg_neg _).symm
    · rfl

theorem isFinite_neg (h : x.isFinite = true) : (-x).isFinite = true := by
  rw [isFinite_iff] at h ⊢
  rwa [rank_neg (isFinite_iff.mpr h), Int.natAbs_neg]

theorem value_neg (h : x.isFinite = true) : value (-x) = -value x := by
  rw [value, value, rank_neg h, Int.sign_neg, Int.natAbs_neg]
  push_cast
  ring

/-- The magnitude of a finite number is its rank without the sign. -/
theorem rank_abs (h : x.isFinite = true) : rank x.abs = (rank x).natAbs := by
  rw [abs_eq_packed]
  obtain ⟨s, hunpack, hrank⟩ | ⟨s, m, k, e, hpos, hunpack, henc, hm, hrank⟩ := unpack_cases h
  · rw [hunpack, hrank, UnpackedFloat.abs, rank_packed_zero, Int.natAbs_zero, Nat.cast_zero]
  · rw [hunpack, hrank, UnpackedFloat.abs, rank_packed_finite henc, min_eq_left hm.le]
    cases s
    · exact congrArg Nat.cast (Int.natAbs_neg m).symm
    · rfl

theorem isFinite_abs (h : x.isFinite = true) : x.abs.isFinite = true := by
  rw [isFinite_iff] at h ⊢
  rwa [rank_abs (isFinite_iff.mpr h), Int.natAbs_natCast]

/-! ## Operations -/

/-- A result that is rounded correctly for finite operands, and is not finite for others. -/
theorem isFinite_iff_of_nearest {z : Float32}
    (hfinite : x.isFinite = true → y.isFinite = true → Nearest q z)
    (hother : (x.isFinite && y.isFinite) = false → z.isFinite = false) :
    z.isFinite = true ↔ x.isFinite = true ∧ y.isFinite = true ∧ Fits q := by
  by_cases hxy : (x.isFinite && y.isFinite) = true
  · obtain ⟨hx, hy⟩ := (Bool.and_eq_true ..).mp hxy
    rw [(hfinite hx hy).isFinite_iff_fits]
    simp [hx, hy]
  · have hz := hother (Bool.not_eq_true _ ▸ hxy)
    refine iff_of_false (by simp [hz]) fun h => hxy ?_
    rw [h.1, h.2.1]
    rfl

/-- **The sums that are finite.** -/
theorem isFinite_add_iff : (x + y).isFinite = true ↔
    x.isFinite = true ∧ y.isFinite = true ∧ Fits (value x + value y) :=
  isFinite_iff_of_nearest nearest_add fun h => isFinite_packed (isFinite_add_of_not h)

/-- **The differences that are finite.** -/
theorem isFinite_sub_iff : (x - y).isFinite = true ↔
    x.isFinite = true ∧ y.isFinite = true ∧ Fits (value x - value y) := by
  refine isFinite_iff_of_nearest nearest_sub fun h => ?_
  rw [isFinite_eq x, isFinite_eq y, ← isFinite_unpacked_neg y.toModel.unpack] at h
  have hadd := isFinite_packed (isFinite_add_of_not h)
  rwa [← sub_eq_add] at hadd

/-- **The products that are finite.** -/
theorem isFinite_mul_iff : (x * y).isFinite = true ↔
    x.isFinite = true ∧ y.isFinite = true ∧ Fits (value x * value y) :=
  isFinite_iff_of_nearest nearest_mul fun h => isFinite_packed (isFinite_mul_of_not h)

/-- **The quotients that are finite**, of finite divisors that are not zero. -/
theorem isFinite_div_iff (hy : y.isFinite = true) (hne : value y ≠ 0) :
    (x / y).isFinite = true ↔ x.isFinite = true ∧ Fits (value x / value y) := by
  have hiff := isFinite_iff_of_nearest (z := x / y) (fun hx hy => nearest_div hx hy hne) fun h => by
    rw [hy, Bool.and_true] at h
    exact isFinite_packed (isFinite_div_of_not h)
  rw [hiff]
  simp [hy]

end Heightfield.Number
