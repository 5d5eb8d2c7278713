import Heightfield.Proofs.Number.Arithmetic
import Heightfield.Proofs.Number.Clamp

/-!
# Points of a range

The point of a range at a fraction of its width is computed from the width. Three results are
rounded on the way, and rounding keeps the order: the points are ordered as the fractions are. But
the width of a range of numbers need not be a number: if it is too large, then it is infinite.

* `Number.point` is the point, moved into the range.
* `Number.point_mem`, `Number.point_le_point` and `Number.point_zero` are about ranges that have a
  finite width.
* `Number.point_eq_of_infinite` and `Number.isNaN_point_of_infinite` are about the others.
-/

namespace Heightfield.Number

variable {lo hi t u x : Float32}

/-- Clamping does not remove a NaN. -/
theorem clamp_of_isNaN (h : x.isNaN = true) (lo hi : Float32) : clamp x lo hi = x := by
  have hlow : ¬ x < lo := fun hlt => absurd (h.symm.trans (Number.lt_iff.mp hlt).1) nofun
  have hhigh : ¬ hi < x := fun hlt => absurd (h.symm.trans (Number.lt_iff.mp hlt).2.1) nofun
  simp [clamp, hlow, hhigh]

/-- The point of a range at a fraction of its width, moved into the range. -/
def point (lo hi t : Float32) : Float32 := clamp (lo + (hi - lo) * t) lo hi

/-- A fraction of the whole. -/
structure IsFraction (t : Float32) : Prop where
  isFinite : t.isFinite = true
  nonneg : 0 ≤ value t
  le_one : value t ≤ 1

/-- A fraction of a finite number is finite, as it is between zero and that number. -/
theorem IsFraction.isFinite_mul (ht : IsFraction t) (hx : x.isFinite = true)
    (hnonneg : 0 ≤ value x) : (x * t).isFinite = true := by
  have hlow : value 0 ≤ value x * value t := by
    rw [value_zero]
    exact mul_nonneg hnonneg ht.nonneg
  exact ((nearest_mul hx ht.isFinite).mem (by decide) hx hlow
    (mul_le_of_le_one_right hnonneg ht.le_one)).1

section

variable (hlo : lo.isFinite = true) (hhi : hi.isFinite = true) (hle : lo ≤ hi)
include hlo hhi hle

/-- A width is not negative. -/
theorem zero_le_width : 0 ≤ hi - lo := by
  have hvalue := (value_le_value_iff hlo hhi).mpr hle
  exact (nearest_zero (x := 0) (by decide)).mono (nearest_sub hhi hlo) (sub_nonneg.mpr hvalue)

/-! ## Ranges of finite width -/

section

variable (hwidth : (hi - lo).isFinite = true)
include hwidth

theorem zero_le_value_width : 0 ≤ value (hi - lo) :=
  value_zero.symm.trans_le ((value_le_value_iff (by decide) hwidth).mpr (zero_le_width hlo hhi hle))

/-- A point is rounded once more when the step to it is added. -/
theorem nearest_add_mul (ht : IsFraction t) :
    Nearest (value lo + value ((hi - lo) * t)) (lo + (hi - lo) * t) :=
  nearest_add hlo (ht.isFinite_mul hwidth (zero_le_value_width hlo hhi hle hwidth))

theorem point_mem (ht : IsFraction t) : lo ≤ point lo hi t ∧ point lo hi t ≤ hi :=
  clamp_mem hle (nearest_add_mul hlo hhi hle hwidth ht).isNaN

theorem isFinite_point (ht : IsFraction t) : (point lo hi t).isFinite = true := by
  obtain ⟨hlow, hhigh⟩ := point_mem hlo hhi hle hwidth ht
  exact isFinite_of_le hlo hhi hlow hhigh

/-- **Points are ordered as the fractions are.** -/
theorem point_le_point (ht : IsFraction t) (hu : IsFraction u) (htu : value t ≤ value u) :
    point lo hi t ≤ point lo hi u := by
  have hzero := zero_le_value_width hlo hhi hle hwidth
  -- the steps are ordered as the fractions are, and so are the sums
  have hstep : value ((hi - lo) * t) ≤ value ((hi - lo) * u) := by
    refine (value_le_value_iff (ht.isFinite_mul hwidth hzero) (hu.isFinite_mul hwidth hzero)).mpr ?_
    exact (nearest_mul hwidth ht.isFinite).mono (nearest_mul hwidth hu.isFinite)
      (mul_le_mul_of_nonneg_left htu hzero)
  refine clamp_le_clamp hle ?_
  exact (nearest_add_mul hlo hhi hle hwidth ht).mono (nearest_add_mul hlo hhi hle hwidth hu)
    (by linarith)

/-- The first point is the lower end of the range, up to the sign of a zero. -/
theorem point_zero (ht : IsFraction t) (hzero : value t = 0) : (point lo hi t == lo) = true := by
  have hsum := nearest_add_mul hlo hhi hle hwidth ht
  have hstep : value ((hi - lo) * t) = 0 := by
    have hmul := nearest_mul hwidth ht.isFinite
    rw [hzero, mul_zero] at hmul
    exact value_of_rank_eq_zero hmul.rank_eq_zero
  rw [hstep, add_zero] at hsum
  obtain ⟨hnan, hrank⟩ := rank_clamp hle hsum.isNaN
  have hlow := hsum.rank_eq (nearest_value hlo)
  obtain ⟨hlo', -, hrange⟩ := Number.le_iff.mp hle
  exact Number.beq_iff.mpr ⟨hnan, hlo', by rw [point]; omega⟩

end

/-! ## Ranges of infinite width -/

section

variable (hwidth : (hi - lo).isFinite = false)
include hwidth

theorem rank_width : rank (hi - lo) = infinite := by
  obtain ⟨-, hnan, hrank⟩ := Number.le_iff.mp (zero_le_width hlo hhi hle)
  rw [isNaN_eq_false_iff] at hnan
  have hzero : rank 0 = 0 := by decide
  have hinfinite : ¬ (rank (hi - lo)).natAbs < infinite := by
    rw [← isFinite_iff]
    simp [hwidth]
  omega

/-- Every point but the first one is the upper end of the range. -/
theorem point_eq_of_infinite (ht : IsFraction t) (hpos : 0 < rank t) : point lo hi t = hi := by
  have hstep := rank_mul_of_infinite (rank_width hlo hhi hle hwidth) ht.isFinite hpos
  have hsum := rank_add_of_infinite hlo hstep
  have hnan : (lo + (hi - lo) * t).isNaN = false := by
    rw [isNaN_eq_false_iff, hsum]
    decide
  have hlo' := isFinite_iff.mp hlo
  have hhi' := isFinite_iff.mp hhi
  obtain ⟨hlonan, hhinan, -⟩ := Number.le_iff.mp hle
  obtain ⟨hlt, -⟩ | ⟨-, heq⟩ | ⟨-, hnot, -⟩ := clamp_cases hle (lo + (hi - lo) * t)
  · have := (Number.lt_iff.mp hlt).2.2
    omega
  · exact heq
  · exact absurd (Number.lt_iff.mpr ⟨hhinan, hnan, by omega⟩) hnot

/-- The first point is no number. -/
theorem isNaN_point_of_infinite (hzero : rank t = 0) : (point lo hi t).isNaN = true := by
  have hstep := isNaN_mul_of_infinite (rank_width hlo hhi hle hwidth) hzero
  have hsum := isNaN_add lo hstep
  rwa [point, clamp_of_isNaN hsum]

end
end
end Heightfield.Number
