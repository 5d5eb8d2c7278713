import Mathlib.Analysis.SpecialFunctions.Pow.Real
import Heightfield.Pattern.Operation
import Heightfield.Proofs.Number.Floor
import Heightfield.Proofs.Number.Pole
import Heightfield.Proofs.Number.Root

/-!
# Results of operators that are finite

The operators keep clear of the points where a result is not defined, but not of results that are
too large: a sum, a difference, a product or a quotient of finite numbers may overflow, and so may
the steps of a remainder, a dot product, a cross product or a length. All other operators give
finite results.

* `Number.Faithful` is what is relied on of the circular functions and powers.
* `ScalarOperation.InRange` and `VectorOperation.InRange` say that no step of an operator overflows.
* `isFinite_apply` says that the results are finite for just these operands.
-/

namespace Heightfield

namespace Number

variable {a b x y : Float32} {q r : ℚ}

/-! ## The greatest number -/

/-- The greatest finite number. -/
def largest : Float32 := Float32.ofBits 0x7f7fffff

theorem isFinite_largest : largest.isFinite = true := by decide

theorem value_largest : value largest = 2 ^ 128 - 2 ^ 104 := by
  rw [value_of_rank_eq (m := 0x7f7fffff) (by decide)]
  norm_num [amount, unit]

theorem abs_value_le (h : x.isFinite = true) : |value x| ≤ value largest := by
  have hle {y : Float32} (hy : y.isFinite = true) : value y ≤ value largest := by
    refine (value_le_value_iff hy isFinite_largest).mpr (Number.le_iff.mpr ?_)
    refine ⟨isNaN_of_isFinite hy, by decide, ?_⟩
    have hrank : rank largest = infinite - 1 := by decide
    rw [isFinite_iff] at hy
    omega
  have hneg := hle (isFinite_neg h)
  rw [value_neg h] at hneg
  exact abs_le.mpr ⟨neg_le.mp hneg, hle h⟩

theorem beq_zero_iff (h : x.isFinite = true) : (x == 0) = true ↔ value x = 0 := by
  have hzero : (0 : Float32).isNaN = false ∧ rank 0 = 0 := by decide
  rw [Number.beq_iff, hzero.2]
  refine ⟨fun hx => value_of_rank_eq_zero hx.2.2, fun hx => ⟨isNaN_of_isFinite h, hzero.1, ?_⟩⟩
  exact Nearest.rank_eq_zero (hx ▸ nearest_value h)

/-! ## Library functions -/

/-- The number is one of the two next to the real number: no finite number lies between them. -/
def Faithful (r : ℝ) (x : Float32) : Prop :=
  ∀ y : Float32, y.isFinite = true → ((value y : ℝ) ≤ r → y ≤ x) ∧ (r ≤ value y → x ≤ y)

theorem faithful_value (h : x.isFinite = true) : Faithful (value x) x := by
  intro y hy
  rw [Rat.cast_le, Rat.cast_le]
  exact ⟨(value_le_value_iff hy h).mp, (value_le_value_iff h hy).mp⟩

theorem Faithful.isFinite {r : ℝ} (h : Faithful r x) (hr : |r| ≤ (value largest : ℚ)) :
    x.isFinite = true := by
  obtain ⟨hlow, hhigh⟩ := abs_le.mp hr
  have hneg := isFinite_neg isFinite_largest
  have hvalue : ((value (-largest) : ℚ) : ℝ) ≤ r := by
    rw [value_neg isFinite_largest]
    push_cast
    exact hlow
  exact isFinite_of_le hneg isFinite_largest ((h _ hneg).1 hvalue) ((h _ isFinite_largest).2 hhigh)

/-! ## Remainders -/

/-- A rational is not rounded to a number of the other sign. -/
theorem Nearest.mul_value_nonneg (h : Nearest q x) : 0 ≤ q * value x := by
  obtain ⟨m, -, hrank⟩ := h
  have hamount := amount_nonneg (rank x).natAbs
  rw [Number.value_eq x]
  split_ifs at hrank ⊢ with hneg hq hq
  · exact mul_nonneg_of_nonpos_of_nonpos hq.le (neg_nonpos.mpr hamount)
  · omega
  · have hzero : rank x = 0 := by omega
    rw [hzero, Int.natAbs_zero, amount_zero, mul_zero]
  · exact mul_nonneg (not_lt.mp hq) hamount

/-- Having the same sign carries on over a rational in between. -/
theorem mul_nonneg_trans {p : ℚ} (h : 0 ≤ p * q) (h' : 0 ≤ q * r) (hzero : q = 0 → r = 0) :
    0 ≤ p * r := by
  rcases eq_or_ne q 0 with hq | hq
  · rw [hzero hq, mul_zero]
  · have hsquare : 0 < q * q := mul_self_pos.mpr hq
    refine nonneg_of_mul_nonneg_left ?_ hsquare
    calc 0 ≤ p * q * (q * r) := mul_nonneg h h'
      _ = p * r * (q * q) := by ring

/-- A rational has the sign of its integer part, unless that is zero. -/
theorem mul_floor_nonneg (q : ℚ) : 0 ≤ q * ⌊q⌋ := by
  rcases le_or_gt 0 q with hq | hq
  · exact mul_nonneg hq (Int.cast_nonneg (Int.floor_nonneg.mpr hq))
  · have hfloor : (⌊q⌋ : ℚ) ≤ 0 := (Int.floor_le q).trans hq.le
    exact mul_nonneg_of_nonpos_of_nonpos hq.le hfloor

/-- A difference of rationals of the same sign is not greater than both. -/
theorem Fits.sub_of_mul_nonneg (hq : Fits q) (hr : Fits r) (h : 0 ≤ q * r) : Fits (q - r) := by
  rcases mul_nonneg_iff.mp h with ⟨hq', hr'⟩ | ⟨hq', hr'⟩
  · exact (fits_neg.mpr hr).of_mem hq (by linarith) (by linarith)
  · exact hq.of_mem (fits_neg.mpr hr) (by linarith) (by linarith)

/-- What is taken off a number for its remainder has its sign. -/
theorem mul_value_mul_floor_nonneg (ha : a.isFinite = true) (hb : b.isFinite = true)
    (hzero : value b ≠ 0) (hquotient : (a / b).isFinite = true) :
    0 ≤ value a * value (b * floor (a / b)) := by
  have hfloor := nearest_mul hb (isFinite_floor_iff.mpr hquotient)
  rw [value_floor hquotient] at hfloor
  have hsign := (nearest_div ha hb hzero).mul_value_nonneg
  have hab : 0 ≤ value a * value b * value (a / b) := by
    calc 0 ≤ value a / value b * value (a / b) * (value b * value b) :=
          mul_nonneg hsign (mul_self_nonneg _)
      _ = value a * value b * value (a / b) := by field_simp
  refine mul_nonneg_trans ?_ hfloor.mul_value_nonneg fun h => ?_
  · rw [← mul_assoc]
    refine mul_nonneg_trans hab (mul_floor_nonneg _) fun h => ?_
    rw [h, Int.floor_zero, Int.cast_zero]
  · rw [h] at hfloor
    exact value_of_rank_eq_zero hfloor.rank_eq_zero

end Number

open Number

/-! ## Operators on numbers -/

section

variable {a b : Float32} (ha : a.isFinite = true) (hb : b.isFinite = true)
include ha

theorem isFinite_safeSqrt : (safeSqrt a).isFinite = true := by
  unfold safeSqrt
  split_ifs with hneg
  · decide
  · refine (isFinite_sqrt_iff ?_).mpr ha
    exact Number.le_of_not_lt (isNaN_of_isFinite ha) (by decide) hneg

theorem isFinite_fractionalPart : (fractionalPart a).isFinite = true := by
  rw [fractionalPart, isFinite_sub_iff, isFinite_floor_iff, value_floor ha, Int.self_sub_floor]
  refine ⟨ha, ha, fits_of_abs_le ?_⟩
  rw [abs_of_nonneg (Int.fract_nonneg _)]
  exact (Int.fract_lt_one _).le.trans (by norm_num)

theorem isFinite_roundUp : (roundUp a).isFinite = true := by
  have hhalf : value 0.5 = 1 / 2 := by
    rw [value_of_rank_eq (m := 0x3f000000) (by decide)]
    norm_num [amount, unit]
  have hle := abs_value_le ha
  rw [value_largest, abs_le] at hle
  rw [roundUp, isFinite_floor_iff, isFinite_add_iff, hhalf, Fits, abs_lt]
  refine ⟨ha, by decide, ?_, ?_⟩ <;> linarith

include hb

theorem isFinite_least : (least a b).isFinite = true := by
  unfold least
  split_ifs <;> assumption

theorem isFinite_greatest : (greatest a b).isFinite = true := by
  unfold greatest
  split_ifs <;> assumption

/-- A quotient by zero counts as zero. -/
theorem isFinite_safeDivide_iff :
    (safeDivide a b).isFinite = true ↔ Fits (value a / value b) := by
  unfold safeDivide
  split_ifs with hzero
  · rw [beq_zero_iff hb] at hzero
    rw [hzero, div_zero]
    exact iff_of_true (by decide) (fits_of_abs_le (by norm_num))
  · rw [beq_zero_iff hb] at hzero
    rw [isFinite_div_iff hb hzero]
    exact and_iff_right ha

/-- Of the steps of a remainder the last one does not overflow. -/
theorem isFinite_flooredModulo_iff : (flooredModulo a b).isFinite = true ↔
    Fits (value a / value b) ∧ Fits (value b * ⌊value (a / b)⌋) := by
  unfold flooredModulo
  split_ifs with hzero
  · rw [beq_zero_iff hb] at hzero
    rw [hzero, div_zero, zero_mul, and_self_iff]
    exact iff_of_true (by decide) (fits_of_abs_le (by norm_num))
  · rw [beq_zero_iff hb] at hzero
    have hquotient := isFinite_div_iff (x := a) hb hzero
    rw [isFinite_sub_iff, isFinite_mul_iff, isFinite_floor_iff, hquotient]
    constructor
    · rintro ⟨-, ⟨-, ⟨-, hfits⟩, hproduct⟩, -⟩
      rw [value_floor (hquotient.mpr ⟨ha, hfits⟩)] at hproduct
      exact ⟨hfits, hproduct⟩
    · rintro ⟨hfits, hproduct⟩
      have hfinite := hquotient.mpr ⟨ha, hfits⟩
      rw [← value_floor hfinite] at hproduct
      refine ⟨ha, ⟨hb, ⟨ha, hfits⟩, hproduct⟩, ?_⟩
      refine (fits_value ha).sub_of_mul_nonneg (fits_value ?_) ?_
      · exact isFinite_mul_iff.mpr ⟨hb, isFinite_floor_iff.mpr hfinite, hproduct⟩
      · exact mul_value_mul_floor_nonneg ha hb hzero hfinite

end

/-- The library functions that an operator calls are faithful at its operands. -/
def ScalarOperation.IsFaithful (op : ScalarOperation) (a b : Float32) : Prop :=
  match op with
  | .sine => Faithful (Real.sin (value a)) (sin a)
  | .cosine => Faithful (Real.cos (value a)) (cos a)
  | .tangent => Faithful (Real.tan (value a)) (tan a)
  | .power => 0 < value a → Faithful ((value a : ℝ) ^ (value b : ℝ)) (pow a b)
  | _ => True

/-- No step of an operator overflows. As in the code, a quotient by zero is zero here. -/
def ScalarOperation.InRange (op : ScalarOperation) (a b : Float32) : Prop :=
  match op with
  | .add => Fits (value a + value b)
  | .subtract => Fits (value a - value b)
  | .multiply => Fits (value a * value b)
  | .divide => Fits (value a / value b)
  | .modulo => Fits (value a / value b) ∧ Fits (value b * ⌊value (a / b)⌋)
  | .power => 0 < value a → (value a : ℝ) ^ (value b : ℝ) ≤ (value largest : ℚ)
  | _ => True

namespace ScalarOperation

variable {op : ScalarOperation} {a b : Float32}

/-- **The results of operators on numbers that are finite**, but for powers. -/
theorem isFinite_apply_iff (ha : a.isFinite = true) (hb : b.isFinite = true)
    (hfaithful : op.IsFaithful a b) (hop : op ≠ .power) :
    (op.apply a b).isFinite = true ↔ op.InRange a b := by
  have hone : (1 : ℝ) ≤ (value largest : ℚ) := by
    rw [value_largest]
    norm_num
  cases op with
  | add => exact isFinite_add_iff.trans (by simp [InRange, ha, hb])
  | subtract => exact isFinite_sub_iff.trans (by simp [InRange, ha, hb])
  | multiply => exact isFinite_mul_iff.trans (by simp [InRange, ha, hb])
  | divide => exact isFinite_safeDivide_iff ha hb
  | modulo => exact isFinite_flooredModulo_iff ha hb
  | power => exact absurd rfl hop
  | sqrt => exact iff_of_true (isFinite_safeSqrt ha) trivial
  | absolute => exact iff_of_true (isFinite_abs ha) trivial
  | floor => exact iff_of_true (isFinite_floor_iff.mpr ha) trivial
  | ceil => exact iff_of_true (isFinite_ceil ha) trivial
  | round => exact iff_of_true (isFinite_roundUp ha) trivial
  | fract => exact iff_of_true (isFinite_fractionalPart ha) trivial
  | minimum => exact iff_of_true (isFinite_least ha hb) trivial
  | maximum => exact iff_of_true (isFinite_greatest ha hb) trivial
  | sign =>
    refine iff_of_true ?_ trivial
    simp only [apply, signOf]
    split_ifs <;> decide
  | sine =>
    exact iff_of_true (hfaithful.isFinite ((Real.abs_sin_le_one _).trans hone)) trivial
  | cosine =>
    exact iff_of_true (hfaithful.isFinite ((Real.abs_cos_le_one _).trans hone)) trivial
  | tangent =>
    refine iff_of_true (hfaithful.isFinite ((abs_tan_value_le ha).trans ?_)) trivial
    rw [value_largest]
    norm_num

/-- A power is finite if the exact one is not greater than all finite numbers. -/
theorem isFinite_power (ha : a.isFinite = true) (hfaithful : power.IsFaithful a b)
    (hrange : power.InRange a b) : (power.apply a b).isFinite = true := by
  simp only [apply, safePower]
  split_ifs with hneg
  · decide
  · have hpos : 0 < value a := by
      rw [← value_zero, ← not_le, value_le_value_iff ha (by decide)]
      exact hneg
    refine (hfaithful hpos).isFinite ?_
    rw [abs_of_nonneg (by positivity)]
    exact hrange hpos

end ScalarOperation

/-! ## Vectors -/

/-- All components are finite. -/
structure Vec3.IsFinite (v : Vec3) : Prop where
  x : v.x.isFinite = true
  y : v.y.isFinite = true
  z : v.z.isFinite = true

/-- The components are related one by one. -/
structure Vec3.Each (P : Float32 → Float32 → Prop) (v w : Vec3) : Prop where
  x : P v.x w.x
  y : P v.y w.y
  z : P v.z w.z

/-- No step of a dot product overflows. -/
structure Vec3.DotInRange (v w : Vec3) : Prop where
  x : Fits (value v.x * value w.x)
  y : Fits (value v.y * value w.y)
  z : Fits (value v.z * value w.z)
  xy : Fits (value (v.x * w.x) + value (v.y * w.y))
  xyz : Fits (value (v.x * w.x + v.y * w.y) + value (v.z * w.z))

/-- No step of a difference of two products overflows. -/
structure MinorInRange (a b c d : Float32) : Prop where
  left : Fits (value a * value b)
  right : Fits (value c * value d)
  difference : Fits (value (a * b) - value (c * d))

namespace Vec3

variable {v w : Vec3}

/-- An operator on numbers that is applied to the components. -/
theorem isFinite_zip_apply_iff {f : ScalarOperation} (hv : v.IsFinite) (hw : w.IsFinite)
    (hfaithful : Each f.IsFaithful v w) (hf : f ≠ .power) :
    (zip f.apply v w).IsFinite ↔ Each f.InRange v w := by
  have hx := ScalarOperation.isFinite_apply_iff hv.x hw.x hfaithful.x hf
  have hy := ScalarOperation.isFinite_apply_iff hv.y hw.y hfaithful.y hf
  have hz := ScalarOperation.isFinite_apply_iff hv.z hw.z hfaithful.z hf
  exact ⟨fun h => ⟨hx.mp h.x, hy.mp h.y, hz.mp h.z⟩,
    fun h => ⟨hx.mpr h.x, hy.mpr h.y, hz.mpr h.z⟩⟩

theorem isFinite_difference_iff (hv : v.IsFinite) (hw : w.IsFinite) :
    (v - w).IsFinite ↔ Each ScalarOperation.subtract.InRange v w :=
  isFinite_zip_apply_iff (f := .subtract) hv hw ⟨trivial, trivial, trivial⟩ nofun

theorem isFinite_scale_iff {r : Float32} (hv : v.IsFinite) (hr : r.isFinite = true) :
    (v * r).IsFinite ↔ Each ScalarOperation.multiply.InRange v (splat r) := by
  have hzip : v * r = zip ScalarOperation.multiply.apply v (splat r) := rfl
  rw [hzip]
  exact isFinite_zip_apply_iff (f := .multiply) hv ⟨hr, hr, hr⟩ ⟨trivial, trivial, trivial⟩ nofun

theorem isFinite_dot_iff (hv : v.IsFinite) (hw : w.IsFinite) :
    (v.dot w).isFinite = true ↔ v.DotInRange w := by
  simp only [dot, isFinite_add_iff, isFinite_mul_iff, hv.x, hv.y, hv.z, hw.x, hw.y, hw.z, true_and]
  exact ⟨fun ⟨⟨hx, hy, hxy⟩, hz, hxyz⟩ => ⟨hx, hy, hz, hxy, hxyz⟩,
    fun h => ⟨⟨h.x, h.y, h.xy⟩, h.z, h.xyz⟩⟩

/-- A dot product of a vector with itself that is finite is one of a finite vector. -/
theorem isFinite_of_dot (h : (v.dot w).isFinite = true) : v.IsFinite := by
  simp only [dot, isFinite_add_iff, isFinite_mul_iff] at h
  exact ⟨h.1.1.1, h.1.2.1.1, h.2.1.1⟩

theorem zero_le_dot_self (hv : v.IsFinite) : 0 ≤ v.dot v :=
  zero_le_add (zero_le_add (zero_le_mul_self hv.x) (zero_le_mul_self hv.y)) (zero_le_mul_self hv.z)

theorem isFinite_length_iff (hv : v.IsFinite) : v.length.isFinite = true ↔ v.DotInRange v :=
  (isFinite_sqrt_iff (zero_le_dot_self hv)).trans (isFinite_dot_iff hv hv)

theorem isFinite_minor_iff {a b c d : Float32} (ha : a.isFinite = true) (hb : b.isFinite = true)
    (hc : c.isFinite = true) (hd : d.isFinite = true) :
    (a * b - c * d).isFinite = true ↔ MinorInRange a b c d := by
  simp only [isFinite_sub_iff, isFinite_mul_iff, ha, hb, hc, hd, true_and]
  exact ⟨fun ⟨hl, hr, h⟩ => ⟨hl, hr, h⟩, fun h => ⟨h.left, h.right, h.difference⟩⟩

/-- No step of a cross product overflows. -/
structure CrossInRange (v w : Vec3) : Prop where
  x : MinorInRange v.y w.z v.z w.y
  y : MinorInRange v.z w.x v.x w.z
  z : MinorInRange v.x w.y v.y w.x

theorem isFinite_cross_iff (hv : v.IsFinite) (hw : w.IsFinite) :
    (v.cross w).IsFinite ↔ v.CrossInRange w := by
  have hx := isFinite_minor_iff hv.y hw.z hv.z hw.y
  have hy := isFinite_minor_iff hv.z hw.x hv.x hw.z
  have hz := isFinite_minor_iff hv.x hw.y hv.y hw.x
  exact ⟨fun h => ⟨hx.mp h.x, hy.mp h.y, hz.mp h.z⟩,
    fun h => ⟨hx.mpr h.x, hy.mpr h.y, hz.mpr h.z⟩⟩

/-- The lengths that vectors are divided by are not small. -/
theorem le_value_normalizeEpsilon : 1 / 2 ^ 20 ≤ value normalizeEpsilon := by
  have hvalue : value (Float32.ofBits 0x35800000) = 1 / 2 ^ 20 := by
    rw [value_of_rank_eq (m := 0x35800000) (by decide)]
    norm_num [amount, unit]
  rw [← hvalue, value_le_value_iff (by decide) (by decide +kernel)]
  decide +kernel

/-- The reciprocal of a length that is finite and not small. -/
theorem isFinite_one_div_length (hlength : v.length.isFinite = true)
    (hlong : ¬ v.length < normalizeEpsilon) :
    (1 / v.length).isFinite = true ∧ |value (1 / v.length)| ≤ 2 ^ 20 := by
  have hepsilon : normalizeEpsilon.isFinite = true := by decide +kernel
  have hle := Number.le_of_not_lt (isNaN_of_isFinite hlength) (isNaN_of_isFinite hepsilon) hlong
  have hlow := le_value_normalizeEpsilon.trans ((value_le_value_iff hepsilon hlength).mpr hle)
  have hpos : 0 < value v.length := lt_of_lt_of_le (by norm_num) hlow
  have hpower : value (Float32.ofBits 0x49800000) = 2 ^ 20 := by
    rw [value_of_rank_eq (m := 0x49800000) (by decide)]
    norm_num [amount, unit]
  have hone : (1 : Float32).isFinite = true := by decide
  have hzero : (0 : Float32).isFinite = true := by decide
  have hreciprocal := nearest_div hone hlength hpos.ne'
  rw [value_one_literal] at hreciprocal
  obtain ⟨hfinite, hge, hle⟩ := hreciprocal.mem hzero (by decide)
    (value_zero.trans_le (by positivity)) (hpower ▸ (one_div_le hpos (by norm_num)).mpr hlow)
  rw [value_zero] at hge
  rw [hpower] at hle
  exact ⟨hfinite, by rwa [abs_of_nonneg hge]⟩

/-- **A vector of length 1 is finite**, although the length that it is made from may not be: the
reciprocal of the length is zero then. -/
theorem isFinite_normalize (hv : v.IsFinite) : v.normalize.IsFinite := by
  unfold normalize
  split_ifs with hshort
  · exact ⟨by decide, by decide, by decide⟩
  · by_cases hlength : v.length.isFinite = true
    · obtain ⟨hfinite, hbound⟩ := isFinite_one_div_length hlength hshort
      have hrange := (isFinite_length_iff hv).mp hlength
      have hproduct {a : Float32} (hsquare : Fits (value a * value a)) :
          Fits (value a * value (1 / v.length)) := by
        have hle : |value a| ≤ 2 ^ 64 := by
          rw [Fits, abs_mul_self] at hsquare
          refine abs_le_of_sq_le_sq ?_ (by positivity)
          linarith
        refine fits_of_abs_le ?_
        calc |value a * value (1 / v.length)| = |value a| * |value (1 / v.length)| := abs_mul _ _
          _ ≤ 2 ^ 64 * 2 ^ 20 := mul_le_mul hle hbound (abs_nonneg _) (by positivity)
          _ ≤ 2 ^ 127 := by norm_num
      exact (isFinite_scale_iff hv hfinite).mpr
        ⟨hproduct hrange.x, hproduct hrange.y, hproduct hrange.z⟩
    · have hinfinite : rank v.length = infinite :=
        rank_eq_infinite (zero_le_sqrt (zero_le_dot_self hv)) hlength
      have hrank := rank_one_div_of_infinite hinfinite
      have hfinite : (1 / v.length).isFinite = true := by
        rw [isFinite_iff, hrank]
        decide
      have hproduct (a : Float32) : Fits (value a * value (1 / v.length)) := by
        rw [value_of_rank_eq_zero hrank, mul_zero]
        exact fits_of_abs_le (by norm_num)
      exact (isFinite_scale_iff hv hfinite).mpr ⟨hproduct _, hproduct _, hproduct _⟩

end Vec3

/-! ## Operators on vectors -/

/-- Both outcomes are finite. -/
structure VectorOutcome.IsFinite (o : VectorOutcome) : Prop where
  vector : o.vector.IsFinite
  value : o.value.isFinite = true

namespace VectorOperation

/-- The operator on numbers that an operator applies to the components. -/
def componentwise? : VectorOperation → Option ScalarOperation
  | .add => some .add
  | .subtract => some .subtract
  | .multiply => some .multiply
  | .divide => some .divide
  | .floor => some .floor
  | .ceil => some .ceil
  | .fraction => some .fract
  | .absolute => some .absolute
  | .minimum => some .minimum
  | .maximum => some .maximum
  | .sine => some .sine
  | .cosine => some .cosine
  | .tangent => some .tangent
  | .scale | .crossProduct | .dotProduct | .length | .distance | .normalize => none

/-- The library functions that an operator calls are faithful at the components. -/
def IsFaithful (op : VectorOperation) (a b : Vec3) : Prop :=
  ∀ f ∈ op.componentwise?, Vec3.Each f.IsFaithful a b

/-- No step of an operator overflows. -/
def InRange (op : VectorOperation) (a b : Vec3) (factor : Float32) : Prop :=
  match op with
  | .scale => Vec3.Each ScalarOperation.multiply.InRange a (Vec3.splat factor)
  | .crossProduct => a.CrossInRange b
  | .dotProduct => a.DotInRange b
  | .length => a.DotInRange a
  | .distance => Vec3.Each ScalarOperation.subtract.InRange a b ∧ (a - b).DotInRange (a - b)
  | op => ∀ f ∈ op.componentwise?, Vec3.Each f.InRange a b

variable {op : VectorOperation} {f : ScalarOperation} {a b : Vec3} {factor : Float32}

theorem vector_of_componentwise (h : op.componentwise? = some f) :
    (op.apply a b factor).vector = Vec3.zip f.apply a b := by
  cases op <;> cases h <;> rfl

/-- Both outcomes are finite if the natural one is. -/
theorem isFinite_apply_iff_vector :
    (op.apply a b factor).IsFinite ↔ (op.apply a b factor).vector.IsFinite :=
  ⟨fun h => h.vector, fun h => ⟨h, (op.value_eq_x a b factor).symm ▸ h.x⟩⟩

theorem isFinite_apply_iff_value (h : op.isScalar = true) :
    (op.apply a b factor).IsFinite ↔ (op.apply a b factor).value.isFinite = true := by
  refine ⟨fun h => h.value, fun hvalue => ⟨?_, hvalue⟩⟩
  rw [op.vector_of_isScalar h]
  exact ⟨hvalue, hvalue, hvalue⟩

/-- **The outcomes of operators on vectors that are finite.** -/
theorem isFinite_apply_iff (ha : a.IsFinite) (hb : b.IsFinite) (hfactor : factor.isFinite = true)
    (hfaithful : op.IsFaithful a b) :
    (op.apply a b factor).IsFinite ↔ op.InRange a b factor := by
  cases op with
  | scale => exact isFinite_apply_iff_vector.trans (Vec3.isFinite_scale_iff ha hfactor)
  | crossProduct => exact isFinite_apply_iff_vector.trans (Vec3.isFinite_cross_iff ha hb)
  | dotProduct => exact (isFinite_apply_iff_value rfl).trans (Vec3.isFinite_dot_iff ha hb)
  | length => exact (isFinite_apply_iff_value rfl).trans (Vec3.isFinite_length_iff ha)
  | distance =>
    refine (isFinite_apply_iff_value rfl).trans ?_
    rw [InRange, ← Vec3.isFinite_difference_iff ha hb]
    refine ⟨fun h => ?_, fun ⟨hsub, hdot⟩ => (Vec3.isFinite_length_iff hsub).mpr hdot⟩
    have hsub := Vec3.isFinite_of_dot (isFinite_of_isFinite_sqrt h)
    exact ⟨hsub, (Vec3.isFinite_length_iff hsub).mp h⟩
  | normalize =>
    exact iff_of_true (isFinite_apply_iff_vector.mpr (Vec3.isFinite_normalize ha)) nofun
  | _ =>
    -- the operators that are applied to the components
    rw [isFinite_apply_iff_vector, vector_of_componentwise rfl,
      Vec3.isFinite_zip_apply_iff ha hb (hfaithful _ rfl) nofun]
    exact ⟨fun h f hf => Option.some.inj hf ▸ h, fun h => h _ rfl⟩

end VectorOperation

/-- **The results of operators that are finite.** On finite operands the result of an operator on
numbers is finite if no step of it overflows, and only then, but for powers; and so are both
outcomes of an operator on vectors. -/
theorem isFinite_apply {a b factor : Float32} {v w : Vec3} (ha : a.isFinite = true)
    (hb : b.isFinite = true) (hfactor : factor.isFinite = true) (hv : v.IsFinite)
    (hw : w.IsFinite) :
    (∀ op : ScalarOperation, op.IsFaithful a b →
      (op.InRange a b → (op.apply a b).isFinite = true) ∧
        (op ≠ .power → (op.apply a b).isFinite = true → op.InRange a b)) ∧
    ∀ op : VectorOperation, op.IsFaithful v w →
      ((op.apply v w factor).IsFinite ↔ op.InRange v w factor) := by
  refine ⟨fun op hfaithful => ⟨fun hrange => ?_, fun hop => ?_⟩, fun op => ?_⟩
  · by_cases hop : op = .power
    · subst hop
      exact ScalarOperation.isFinite_power ha hfaithful hrange
    · exact (ScalarOperation.isFinite_apply_iff ha hb hfaithful hop).mpr hrange
  · exact (ScalarOperation.isFinite_apply_iff ha hb hfaithful hop).mp
  · exact VectorOperation.isFinite_apply_iff hv hw hfactor

/-- A power of an exponent zero is 1, and a vector of infinite length has a direction. -/
theorem isFinite_apply_far :
    (ScalarOperation.power.apply largest 0).isFinite = true ∧
    (VectorOperation.normalize.apply ⟨largest, largest, -largest⟩ Vec3.zero 0).IsFinite := by
  have hlargest := isFinite_largest
  have hzero : (0 : Float32).isFinite = true := by decide
  have hfar : Vec3.IsFinite ⟨largest, largest, -largest⟩ :=
    ⟨hlargest, hlargest, isFinite_neg hlargest⟩
  have hfaithful : ScalarOperation.power.IsFaithful largest 0 := fun _ => by
    have hpow : pow largest 0 = 1 := by decide
    have hone : value 1 = 1 := value_one_literal
    have hfaithful := faithful_value (x := 1) (by decide)
    rwa [value_zero, Rat.cast_zero, Real.rpow_zero, hpow, ← Rat.cast_one, ← hone]
  have hrange : ScalarOperation.power.InRange largest 0 := fun _ => by
    rw [value_zero, Rat.cast_zero, Real.rpow_zero, value_largest]
    norm_num
  have horigin : Vec3.zero.IsFinite := ⟨hzero, hzero, hzero⟩
  have hfinite := isFinite_apply hlargest hzero hzero hfar horigin
  exact ⟨(hfinite.1 _ hfaithful).1 hrange, (hfinite.2 .normalize nofun).mpr nofun⟩

/-- Of finite operands a sum, a quotient, a remainder and a length that are not finite. -/
theorem not_isFinite_apply :
    largest.isFinite = true ∧ (Float32.ofBits 1).isFinite = true ∧
    (ScalarOperation.add.apply largest largest).isFinite = false ∧
    (ScalarOperation.divide.apply 1 (Float32.ofBits 1)).isFinite = false ∧
    (ScalarOperation.modulo.apply 1 (Float32.ofBits 1)).isFinite = false ∧
    (VectorOperation.length.apply ⟨largest, 0, 0⟩ Vec3.zero 0).value.isFinite = false := by
  decide

end Heightfield
