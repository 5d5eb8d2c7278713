import Heightfield.Pattern.Wave
import Heightfield.Proofs.Number.Fraction
import Heightfield.Proofs.Pattern.Range

/-!
# Ranges of remainders

The exact fractional part of a number is at least 0 and less than 1, and the exact floored remainder
is zero, or it has the sign of the divisor and is smaller. What is computed is rounded on the way. A
fractional part is rounded once, and the fractional part of a tiny negative number is rounded up to
1. A remainder is rounded three times: the quotient may be rounded up to an integer, the multiple of
the divisor that is taken off to some number that is not a multiple, and what is left over to the
divisor itself.

* `fractionalPart_mem` is about fractional parts.
* `isRemainder_flooredModulo_iff` says of which operands the remainder is in range:
  `RemainderInRange` is that none of the three roundings leads out of it.
* `flooredModulo_of_clear` says that this is so if the quotient is not near to the next integer, and
  bounds the error.
* `flooredModulo_of_commonUnit` is about operands that are multiples of a common unit with few
  digits, such as integers: their remainder is exact.
* `remainders_mem` puts this together, with the waves that a fractional part is the profile of.
-/

namespace Heightfield

open Number

variable {a b r x y : Float32} {q : ℚ} {t : ℕ} {m n : ℤ}

namespace Number

/-! ## Remainders as numbers -/

/-- The number is zero, or it has the sign of the divisor and is smaller in magnitude. -/
def IsRemainder (r b : Float32) : Prop := 0 ≤ r ∧ r < b ∨ b < r ∧ r ≤ 0

instance (r b : Float32) : Decidable (IsRemainder r b) := inferInstanceAs (Decidable (_ ∨ _))

protected theorem le_of_lt (h : x < y) : x ≤ y := by
  obtain ⟨hx, hy, hlt⟩ := Number.lt_iff.mp h
  exact Number.le_iff.mpr ⟨hx, hy, hlt.le⟩

theorem isRemainder_iff (hb : b.isFinite = true) : IsRemainder r b ↔
    r.isFinite = true ∧ 0 ≤ value r * value b ∧ |value r| < |value b| := by
  have hzero : (0 : Float32).isFinite = true := by decide
  constructor
  · rintro (⟨hlow, hhigh⟩ | ⟨hlow, hhigh⟩)
    · have hr := isFinite_of_le hzero hb hlow (Number.le_of_lt hhigh)
      rw [← value_le_value_iff hzero hr, value_zero] at hlow
      rw [← value_lt_value_iff hr hb] at hhigh
      refine ⟨hr, mul_nonneg hlow (hlow.trans hhigh.le), ?_⟩
      rwa [abs_of_nonneg hlow, abs_of_nonneg (hlow.trans hhigh.le)]
    · have hr := isFinite_of_le hb hzero (Number.le_of_lt hlow) hhigh
      rw [← value_le_value_iff hr hzero, value_zero] at hhigh
      rw [← value_lt_value_iff hb hr] at hlow
      refine ⟨hr, mul_nonneg_of_nonpos_of_nonpos hhigh (hlow.le.trans hhigh), ?_⟩
      rwa [abs_of_nonpos hhigh, abs_of_nonpos (hlow.le.trans hhigh), neg_lt_neg_iff]
  · rintro ⟨hr, hsign, habs⟩
    unfold IsRemainder
    rw [← value_le_value_iff hzero hr, ← value_le_value_iff hr hzero, ← value_lt_value_iff hr hb,
      ← value_lt_value_iff hb hr, value_zero]
    rcases lt_or_ge (value b) 0 with hneg | hpos
    · have hle := nonpos_of_mul_nonneg_left hsign hneg
      rw [abs_of_nonpos hle, abs_of_neg hneg, neg_lt_neg_iff] at habs
      exact .inr ⟨habs, hle⟩
    · have hlt := (abs_nonneg (value r)).trans_lt habs
      have hge := nonneg_of_mul_nonneg_left hsign (abs_of_nonneg hpos ▸ hlt)
      rw [abs_of_nonneg hge, abs_of_nonneg hpos] at habs
      exact .inl ⟨hge, habs⟩

/-- Rounding a rational does not carry it over a number. -/
theorem Nearest.sub_mul_sub_nonneg (h : Nearest q x) (hx : x.isFinite = true)
    (hy : y.isFinite = true) : 0 ≤ (value y - q) * (value y - value x) := by
  have hself := nearest_value hy
  rcases le_total q (value y) with hle | hle
  · have hvalue := (value_le_value_iff hx hy).mpr (h.mono hself hle)
    exact mul_nonneg (sub_nonneg.mpr hle) (sub_nonneg.mpr hvalue)
  · have hvalue := (value_le_value_iff hy hx).mpr (hself.mono h hle)
    exact mul_nonneg_of_nonpos_of_nonpos (sub_nonpos.mpr hle) (sub_nonpos.mpr hvalue)

/-- A difference keeps its sign when it is rounded. -/
theorem value_sub_mul_nonneg_iff (hx : x.isFinite = true) (hy : y.isFinite = true) :
    0 ≤ value (x - y) * q ↔ 0 ≤ (value x - value y) * q := by
  have hsign := (nearest_sub hx hy).mul_value_nonneg
  have hzero := value_sub_eq_zero_iff hx hy
  rw [← sub_eq_zero (a := value x)] at hzero
  rw [mul_comm _ q, mul_comm _ q]
  refine ⟨fun h => mul_nonneg_trans h ?_ hzero.mp, fun h => mul_nonneg_trans h hsign hzero.mpr⟩
  rwa [mul_comm]

/-- What the errors of the multiple and of the difference come to. -/
theorem remainder_error_le {d p r s : ℚ} (hd : d ≠ 0)
    (hp : |p - d * ⌊s / d⌋| ≤ |d * ⌊s / d⌋| / 2 ^ 24) (hr : |r - (s - p)| ≤ |s - p| / 2 ^ 24)
    (hgap : (|s / d| + 2) / 2 ^ 24 < 1 - Int.fract (s / d)) :
    |r - (s - d * ⌊s / d⌋)| ≤ (|s| + 2 * |d|) / 2 ^ 24 ∧ |r| < |d| := by
  have hfract := Int.fract_nonneg (s / d)
  have hpos : 0 < |d| := abs_pos.mpr hd
  have hquotient : |s / d| * |d| = |s| := by rw [← abs_mul, div_mul_cancel₀ _ hd]
  have hrest : s - d * ⌊s / d⌋ = d * Int.fract (s / d) := by
    rw [← Int.self_sub_floor, mul_sub, mul_div_cancel₀ _ hd]
  have hexact : |s - d * ⌊s / d⌋| = |d| * Int.fract (s / d) := by
    rw [hrest, abs_mul, abs_of_nonneg hfract]
  have hscaled : (|s| + 2 * |d|) / 2 ^ 24 < |d| - |d| * Int.fract (s / d) := by
    have hmul := mul_lt_mul_of_pos_right hgap hpos
    rw [div_mul_eq_mul_div, add_mul, hquotient] at hmul
    linarith
  have hmultiple : |d * ⌊s / d⌋| ≤ |s| + |d| := by
    have htriangle := abs_sub_abs_le_abs_sub (d * ⌊s / d⌋) s
    have hle := mul_le_of_le_one_right hpos.le (Int.fract_lt_one (s / d)).le
    rw [abs_sub_comm, hexact] at htriangle
    linarith
  have hleft : |s - p| ≤ |d| := by
    have htriangle := abs_sub_le s (d * ⌊s / d⌋) p
    rw [hexact, abs_sub_comm (d * _) p] at htriangle
    linarith
  have herror : |r - (s - d * ⌊s / d⌋)| ≤ (|s| + 2 * |d|) / 2 ^ 24 := by
    have htriangle := abs_sub_le r (s - p) (s - d * ⌊s / d⌋)
    rw [sub_sub_sub_cancel_left, abs_sub_comm (d * _) p] at htriangle
    linarith
  refine ⟨herror, ?_⟩
  have htriangle := abs_sub_abs_le_abs_sub r (s - d * ⌊s / d⌋)
  rw [hexact] at htriangle
  linarith

end Number

/-! ## Fractional parts -/

theorem nearest_fractionalPart (ha : a.isFinite = true) :
    Nearest (Int.fract (value a)) (fractionalPart a) := by
  have hsub := nearest_sub ha (isFinite_floor_iff.mpr ha)
  rwa [value_floor ha, Int.self_sub_floor] at hsub

/-- **Fractional parts.** That of a tiny negative number is 1, and all others are less than 1. -/
theorem fractionalPart_mem (ha : a.isFinite = true) :
    0 ≤ fractionalPart a ∧ fractionalPart a ≤ 1 ∧
      (fractionalPart a < 1 ↔ value a < -1 / 2 ^ 25 ∨ 0 ≤ value a) := by
  have hnearest := nearest_fractionalPart ha
  have hfinite := isFinite_fractionalPart ha
  have hnonneg := Int.fract_nonneg (value a)
  have hlow := hnearest.zero_le hnonneg
  have hone : Nearest 1 1 := value_one_literal ▸ nearest_value (by decide)
  refine ⟨hlow, hnearest.mono hone (Int.fract_lt_one _).le, ?_⟩
  have habs := hnearest.abs_value_lt_iff (y := 1) (by decide) (by simp [value_one_literal])
  have hmagnitude : magnitude 1 = 0x3f800000 := by decide
  rw [value_one_literal, abs_one, abs_of_nonneg (zero_le_value hlow), abs_of_nonneg hnonneg,
    hmagnitude, roundsBelow_one_iff, fract_value_lt_iff ha] at habs
  rw [← habs, ← value_lt_value_iff hfinite (by decide), value_one_literal]

/-! ## Floored remainders -/

/-- None of the three roundings of a remainder leads out of its range. -/
structure RemainderInRange (a b : Float32) : Prop where
  /-- the multiple of the divisor that is taken off does not overflow -/
  multiple : Fits (value b * ⌊value (a / b)⌋)
  /-- the quotient is not rounded up to an integer, unless the multiple is what is divided -/
  quotient : ⌊value (a / b)⌋ ≤ ⌊value a / value b⌋ ∨ value a = value (b * floor (a / b))
  /-- what is left over is not rounded up to the divisor -/
  rest : RoundsBelow |value a - value (b * floor (a / b))| (magnitude b)

/-- The quotient is not so near to the next integer that errors could lead up to it, and the multiple
does not overflow. -/
structure QuotientClear (a b : Float32) : Prop where
  multiple : Fits (value b * ⌊value a / value b⌋)
  gap : (|value a / value b| + 2) / 2 ^ 24 < 1 - Int.fract (value a / value b)

section

variable (ha : a.isFinite = true) (hb : b.isFinite = true) (hzero : value b ≠ 0)
include ha hb hzero

omit ha in
theorem flooredModulo_eq : flooredModulo a b = a - b * floor (a / b) := by
  rw [flooredModulo, if_neg]
  rwa [beq_zero_iff hb]

/-- What is left over has the sign of the divisor if the multiple that is taken off is not beyond
the dividend. -/
theorem sub_mul_nonneg_iff (hquotient : (a / b).isFinite = true)
    (hmultiple : (b * floor (a / b)).isFinite = true) :
    0 ≤ (value a - value (b * floor (a / b))) * value b ↔
      ⌊value (a / b)⌋ ≤ ⌊value a / value b⌋ ∨ value a = value (b * floor (a / b)) := by
  have hmul := nearest_mul hb (isFinite_floor_iff.mpr hquotient)
  rw [value_floor hquotient] at hmul
  have hside := hmul.sub_mul_sub_nonneg hmultiple ha
  have hsquare : 0 < value b * value b := mul_self_pos.mpr hzero
  have hexact : (value a - value b * ⌊value (a / b)⌋) * value b =
      (value a / value b - ⌊value (a / b)⌋) * (value b * value b) := by
    field_simp
  rw [Int.le_floor]
  constructor
  · intro hsign
    rcases le_or_gt (⌊value (a / b)⌋ : ℚ) (value a / value b) with hle | hlt
    · exact .inl hle
    · -- the multiple is beyond the dividend, and so is what it is rounded to
      have hneg : (value a - value b * ⌊value (a / b)⌋) * value b < 0 :=
        hexact ▸ mul_neg_of_neg_of_pos (sub_neg.mpr hlt) hsquare
      refine .inr (by_contra fun hne => hneg.not_ge (mul_nonneg_trans hside hsign fun h => ?_))
      exact absurd (sub_eq_zero.mp h) hne
  · rintro (hle | heq)
    · rw [mul_comm]
      refine mul_nonneg_trans ?_ hside fun h => ?_
      · rw [mul_comm, hexact]
        exact mul_nonneg (sub_nonneg.mpr hle) hsquare.le
      · rw [← sub_eq_zero.mp h] at hmul
        rw [hmul.value_eq ha, sub_self]
    · rw [heq, sub_self, zero_mul]

/-- The remainder as a rational, if the multiple does not overflow: the sign depends on the first
two roundings, the magnitude on the last one. -/
theorem sign_and_magnitude_iff (hquotient : (a / b).isFinite = true)
    (hmultiple : (b * floor (a / b)).isFinite = true) :
    0 ≤ value (flooredModulo a b) * value b ∧ |value (flooredModulo a b)| < |value b| ↔
      (⌊value (a / b)⌋ ≤ ⌊value a / value b⌋ ∨ value a = value (b * floor (a / b))) ∧
        RoundsBelow |value a - value (b * floor (a / b))| (magnitude b) := by
  rw [flooredModulo_eq hb hzero, value_sub_mul_nonneg_iff ha hmultiple,
    (nearest_sub ha hmultiple).abs_value_lt_iff hb hzero,
    sub_mul_nonneg_iff ha hb hzero hquotient hmultiple]

/-- **The remainders that are in range.** -/
theorem isRemainder_flooredModulo_iff (hquotient : (a / b).isFinite = true) :
    IsRemainder (flooredModulo a b) b ↔ RemainderInRange a b := by
  have hmul := nearest_mul hb (isFinite_floor_iff.mpr hquotient)
  rw [value_floor hquotient] at hmul
  rw [isRemainder_iff hb, isFinite_flooredModulo_iff ha hb,
    and_iff_right ((isFinite_div_iff hb hzero).mp hquotient).2]
  have hiff := sign_and_magnitude_iff ha hb hzero hquotient
  constructor
  · rintro ⟨hmultiple, hr⟩
    obtain ⟨hsign, hrest⟩ := (hiff (hmul.isFinite_iff_fits.mpr hmultiple)).mp hr
    exact ⟨hmultiple, hsign, hrest⟩
  · rintro ⟨hmultiple, hsign, hrest⟩
    exact ⟨hmultiple, (hiff (hmul.isFinite_iff_fits.mpr hmultiple)).mpr ⟨hsign, hrest⟩⟩

/-- **The error of a remainder** whose quotient is not near to the next integer, which is too little
to lead out of the range. -/
theorem flooredModulo_of_clear (hclear : QuotientClear a b) :
    |value (flooredModulo a b) - (value a - value b * ⌊value a / value b⌋)| ≤
        (|value a| + 2 * |value b|) / 2 ^ 24 ∧
      IsRemainder (flooredModulo a b) b := by
  obtain ⟨hfits, hgap⟩ := hclear
  have hfract := Int.fract_nonneg (value a / value b)
  have hsmall : Fits (value a / value b) := fits_of_abs_le (by linarith)
  have hquotient := (isFinite_div_iff hb hzero).mpr ⟨ha, hsmall⟩
  have hfloor := (nearest_div ha hb hzero).floor_value_eq hquotient (by linarith)
  have hmul := nearest_mul hb (isFinite_floor_iff.mpr hquotient)
  rw [value_floor hquotient, hfloor] at hmul
  have hmultiple := hmul.isFinite_iff_fits.mpr hfits
  have hfinite := (isFinite_flooredModulo_iff ha hb).mpr ⟨hsmall, hfloor ▸ hfits⟩
  have hmod := flooredModulo_eq (a := a) hb hzero
  have hproduct := abs_value_mul_intCast_sub_le hmul hmultiple
  have hdifference := abs_value_sub_sub_le ha hmultiple (hmod ▸ hfinite)
  rw [← hmod] at hdifference
  obtain ⟨herror, hlt⟩ := remainder_error_le hzero hproduct hdifference hgap
  refine ⟨herror, (isRemainder_iff hb).mpr ⟨hfinite, ?_, hlt⟩⟩
  rw [hmod, value_sub_mul_nonneg_iff ha hmultiple,
    sub_mul_nonneg_iff ha hb hzero hquotient hmultiple]
  exact .inl hfloor.le

end

/-! ## Exact remainders -/

/-- The operands are integers times a common unit, and these have few digits. -/
structure CommonUnit (a b : Float32) (t : ℕ) (m n : ℤ) : Prop where
  dividend : value a = m * unit t
  divisor : value b = n * unit t
  exponent : t < 254
  digits : |m| + |n| ≤ 2 ^ 24

/-- **Remainders with few digits are exact**: none of the three steps rounds. -/
theorem value_flooredModulo (ha : a.isFinite = true) (hb : b.isFinite = true)
    (hn : n ≠ 0) (h : CommonUnit a b t m n) :
    (flooredModulo a b).isFinite = true ∧
      value (flooredModulo a b) = (m - n * ⌊(m / n : ℚ)⌋ : ℤ) * unit t := by
  obtain ⟨-, hsmall⟩ := sub_mul_floor_mem (m := m) hn
  obtain ⟨hdividend, hdivisor, ht, hle⟩ := h
  have hunit := unit_pos t
  have hzero : value b ≠ 0 := by
    rw [hdivisor]
    exact mul_ne_zero (by exact_mod_cast hn) hunit.ne'
  have hdiv := nearest_div ha hb hzero
  rw [hdividend, hdivisor, mul_div_mul_right _ _ hunit.ne'] at hdiv
  obtain ⟨hquotient, hfloor⟩ := hdiv.floor_value_eq_of_digits hn hle
  have hmul := nearest_mul hb (isFinite_floor_iff.mpr hquotient)
  rw [value_floor hquotient, hfloor, hdivisor, mul_right_comm, ← Int.cast_mul] at hmul
  have hmultiple : |n * ⌊(m / n : ℚ)⌋| < 2 ^ 24 := by
    have hnear := abs_sub_abs_le_abs_sub (n * ⌊(m / n : ℚ)⌋) m
    rw [abs_sub_comm] at hnear
    omega
  obtain ⟨hfinite, hvalue⟩ := hmul.value_eq_mul_unit hmultiple ht
  have hsub := nearest_sub ha hfinite
  rw [hdividend, hvalue, ← sub_mul, ← Int.cast_sub] at hsub
  have hm := abs_nonneg m
  rw [flooredModulo_eq hb hzero]
  exact hsub.value_eq_mul_unit (by omega) ht

/-- The remainder of integers times a unit is exact and in range. -/
theorem flooredModulo_of_commonUnit (ha : a.isFinite = true) (hb : b.isFinite = true)
    (hzero : value b ≠ 0) (h : CommonUnit a b t m n) :
    value (flooredModulo a b) = value a - value b * ⌊value a / value b⌋ ∧
      IsRemainder (flooredModulo a b) b := by
  have hunit := unit_pos t
  have hn : n ≠ 0 := by
    rintro rfl
    exact hzero (h.divisor.trans (by rw [Int.cast_zero, zero_mul]))
  obtain ⟨hfinite, hvalue⟩ := value_flooredModulo ha hb hn h
  obtain ⟨hsign, hsmall⟩ := sub_mul_floor_mem (m := m) hn
  constructor
  · rw [hvalue, h.dividend, h.divisor, mul_div_mul_right _ _ hunit.ne']
    push_cast
    ring
  · rw [isRemainder_iff hb, hvalue, h.divisor, abs_mul, abs_mul, abs_of_pos hunit]
    refine ⟨hfinite, ?_, mul_lt_mul_of_pos_right (by exact_mod_cast hsmall) hunit⟩
    rw [mul_mul_mul_comm]
    exact mul_nonneg (by exact_mod_cast hsign) (mul_self_nonneg _)

example : flooredModulo (-1) 3 = 2 ∧ flooredModulo 1 (-3) = -2 ∧ flooredModulo 7.5 2.5 = 0 := by
  decide

/-! ## All remainders -/

/-- **Ranges of remainders.** Fractional parts are between 0 and 1, and less than 1 but for tiny
negative numbers; the waves of the profile that they are used for are so as well. Floored remainders
are in range just if no rounding leads out of it. They are so, and near to the exact ones, if the
quotient is not near to the next integer, and they are exact for operands that are integers with few
digits times a common unit. -/
theorem remainders_mem (ha : a.isFinite = true) :
    (0 ≤ fractionalPart a ∧ fractionalPart a ≤ 1 ∧
      (fractionalPart a < 1 ↔ value a < -1 / 2 ^ 25 ∨ 0 ≤ value a)) ∧
    (∀ b : Float32, b.isFinite = true → value b ≠ 0 → (a / b).isFinite = true →
      (IsRemainder (flooredModulo a b) b ↔ RemainderInRange a b) ∧
      (QuotientClear a b →
        |value (flooredModulo a b) - (value a - value b * ⌊value a / value b⌋)| ≤
            (|value a| + 2 * |value b|) / 2 ^ 24 ∧
          IsRemainder (flooredModulo a b) b) ∧
      ∀ t m n, CommonUnit a b t m n →
        value (flooredModulo a b) = value a - value b * ⌊value a / value b⌋ ∧
          IsRemainder (flooredModulo a b) b) ∧
    ∀ (w : WaveSettings) (p : Vec3) (phase : Float32), w.profile = .saw →
      w.phaseAt p phase = a →
      0 ≤ w.texture p phase ∧ w.texture p phase ≤ 1 ∧
        (w.texture p phase < 1 ↔ value a < -1 / 2 ^ 25 ∨ 0 ≤ value a) := by
  have hfract := fractionalPart_mem ha
  refine ⟨hfract, fun b hb hzero hquotient => ⟨?_, ?_, ?_⟩, fun w p phase hsaw hphase => ?_⟩
  · exact isRemainder_flooredModulo_iff ha hb hzero hquotient
  · exact flooredModulo_of_clear ha hb hzero
  · exact fun t m n h => flooredModulo_of_commonUnit ha hb hzero h
  · have htexture : w.texture p phase = fractionalPart a := by
      rw [WaveSettings.texture, WaveSettings.shape, hsaw, hphase]
    rw [htexture]
    exact hfract

/-- The fractional part of -0.25, the remainders of -1 by 3 and by -4, and waves at the origin. -/
theorem remainders_mem_small :
    fractionalPart (-0.25) < 1 ∧ IsRemainder (flooredModulo (-1) 3) 3 ∧
      IsRemainder (flooredModulo (-1) (-4)) (-4) ∧
      WaveSettings.texture { profile := .saw } Vec3.zero (-0.25) < 1 := by
  obtain ⟨hfract, -, hwave⟩ := remainders_mem (a := -0.25) (by decide)
  obtain ⟨-, hmodulo, -⟩ := remainders_mem (a := -1) (by decide)
  have hquarter : value (-0.25) < -1 / 2 ^ 25 := by
    rw [value_of_rank_eq_apply (s := .negative) (m := 0x3e800000) (by decide)]
    norm_num [amount, unit]
  have hone : value (-1) = -1 := by rw [value_neg (by decide), value_one_literal]
  have hthree : value 3 = 3 := by
    rw [value_of_rank_eq (m := 0x40400000) (by decide)]
    norm_num [amount, unit]
  have hfour : value (-4) = -4 := by
    rw [value_of_rank_eq_apply (s := .negative) (m := 0x40800000) (by decide)]
    norm_num [amount, unit]
  have hcommon : CommonUnit (-1) 3 149 (-1) 3 :=
    ⟨by simp [hone, unit_eq_one], by simp [hthree, unit_eq_one], by decide, by decide⟩
  have hclear : QuotientClear (-1) (-4) := by
    have hfloor : ⌊(1 / 4 : ℚ)⌋ = 0 := by norm_num
    have hself : Int.fract (1 / 4 : ℚ) = 1 / 4 := by norm_num [Int.fract]
    have hquotient : (-1 / -4 : ℚ) = 1 / 4 := by norm_num
    refine ⟨?_, ?_⟩ <;> rw [hone, hfour, hquotient]
    · rw [hfloor, Int.cast_zero, mul_zero]
      exact fits_of_abs_le (by norm_num)
    · rw [hself]
      norm_num
  have hphase : WaveSettings.phaseAt { profile := .saw } Vec3.zero (-0.25) = -0.25 := by decide
  refine ⟨hfract.2.2.mpr (.inl hquarter), ?_, ?_, ?_⟩
  · have h := hmodulo 3 (by decide) (by simp [hthree]) (by decide)
    exact (h.2.2 149 (-1) 3 hcommon).2
  · have h := hmodulo (-4) (by decide) (by simp [hfour]) (by decide)
    exact (h.2.1 hclear).2
  · exact (hwave _ _ _ rfl hphase).2.2.mpr (.inl hquarter)

/-- About -1e-10. -/
def tiny : Float32 := Float32.ofBits 0xaedbe6ff

/-- A fractional part that is 1, a remainder that is the divisor, one that has the wrong sign as the
quotient is rounded up to 6, and waves that reach 1. -/
theorem not_remainders_mem :
    (tiny.isFinite = true ∧ fractionalPart tiny = 1) ∧
    ((tiny / 3).isFinite = true ∧ flooredModulo tiny 3 = 3 ∧ ¬ IsRemainder 3 3) ∧
    ((6.6 / 1.1 : Float32).isFinite = true ∧ flooredModulo 6.6 1.1 < 0) ∧
    WaveSettings.phaseAt { profile := .saw } Vec3.zero tiny = tiny ∧
      WaveSettings.texture { profile := .saw } Vec3.zero tiny = 1 := by
  decide

end Heightfield
