import Heightfield.Proofs.Number.Clamp
import Heightfield.Proofs.Number.Grid

/-!
# Integer parts

The bits behind the point are cleared to truncate a number, so what is left stands for the integer
part of its magnitude. Floors and ceilings come from that by one exact step.

* `Number.amount_cleared` says what bits without those behind the point stand for.
* `Number.value_truncate`, `Number.value_floor` and `Number.value_ceil` are the results.
-/

namespace Heightfield.Number

open Float.Model Float.Model.UnpackedFloat

variable {x y : Float32} {m k e : ℕ}

/-! ## Bits -/

/-- The bits of a finite number are kept as they are. -/
theorem rank_ofBits {u : UInt32} (h : u.toNat % 2 ^ 31 < infinite) :
    rank (Float32.ofBits u) = if u.toNat < 2 ^ 31 then (u.toNat : ℤ) else 2 ^ 31 - u.toNat := by
  have hvalid : Format.binary32.Valid u.toBitVec := by
    refine ⟨fun hexponent => absurd (congrArg BitVec.toNat hexponent) ?_⟩
    rw [toNat_unpackExponent]
    change u.toNat / 2 ^ 23 % 2 ^ 8 ≠ 255
    have hinfinite : infinite = 255 * 2 ^ 23 := rfl
    omega
  let x : Float32 := ⟨⟨u, hvalid⟩⟩
  have hfinite : x.isFinite = true := by
    rw [isFinite_iff, natAbs_rank]
    exact h
  exact (rank_packed_unpack hfinite).trans (rank_eq x)

/-- The bits of a magnitude without those that stand behind the point. -/
def cleared (m : ℕ) : ℕ :=
  if m / 2 ^ 23 < 127 then 0
  else if m / 2 ^ 23 < 150 then m / 2 ^ (150 - m / 2 ^ 23) * 2 ^ (150 - m / 2 ^ 23)
  else m

theorem cleared_le (m : ℕ) : cleared m ≤ m := by
  unfold cleared
  split_ifs
  · exact Nat.zero_le m
  · exact Nat.div_mul_le_self m _
  · exact le_rfl

theorem toNat_biasedExponent (x : Float32) : (biasedExponent x).toNat = magnitude x / 2 ^ 23 := by
  have hmask : (0xff : UInt32).toNat = 2 ^ 8 - 1 := rfl
  have hshift : (23 : UInt32).toNat % 32 = 23 := rfl
  have hlt := x.toBits.toNat_lt
  rw [biasedExponent, UInt32.toNat_and, hmask, Nat.and_two_pow_sub_one_eq_mod,
    UInt32.toNat_shiftRight, hshift, Nat.shiftRight_eq_div_pow, magnitude]
  omega

/-- Bits that are taken off the magnitude leave the sign alone. -/
theorem rank_ofBits_sub {u : UInt32} {r : ℕ} (h : x.isFinite = true) (hr : r ≤ magnitude x)
    (hu : u.toNat = x.toBits.toNat - r) :
    rank (Float32.ofBits u) = (sign x).apply (magnitude x - r : ℕ) := by
  have hlt := x.toBits.toNat_lt
  rw [isFinite_iff, natAbs_rank] at h
  have hinfinite : infinite = 255 * 2 ^ 23 := rfl
  rw [magnitude] at h hr
  rw [rank_ofBits (by omega), sign, magnitude]
  split_ifs <;> simp only [Sign.apply] <;> omega

/-- Shifting to the right and back clears the last bits. -/
theorem toNat_shiftRight_shiftLeft (u k : UInt32) (hk : k.toNat < 32) :
    ((u >>> k) <<< k).toNat = u.toNat - u.toNat % 2 ^ k.toNat := by
  have hlt := u.toNat_lt
  rw [UInt32.toNat_shiftLeft, UInt32.toNat_shiftRight, Nat.mod_eq_of_lt hk,
    Nat.shiftRight_eq_div_pow, Nat.shiftLeft_eq, Nat.div_mul_self_eq_mod_sub_self]
  exact Nat.mod_eq_of_lt (by omega)

/-- Truncating clears the bits behind the point, and keeps the sign. -/
theorem rank_truncate (h : x.isFinite = true) :
    rank (truncate x) = (sign x).apply (cleared (magnitude x)) := by
  have hexponent := toNat_biasedExponent x
  have hlt := x.toBits.toNat_lt
  unfold truncate cleared
  simp only [UInt32.lt_iff_toNat_lt, hexponent]
  have h127 : (127 : UInt32).toNat = 127 := rfl
  have h150 : (150 : UInt32).toNat = 150 := rfl
  rw [h127, h150]
  split_ifs with hsmall hpoint
  · rw [rank_ofBits_sub (r := magnitude x) h le_rfl, Nat.sub_self]
    have hmask : (0x80000000 : UInt32).toNat = 2 ^ 31 := rfl
    rw [UInt32.toNat_and, hmask, Nat.and_two_pow, Nat.toNat_testBit, magnitude]
    omega
  · have hk : (150 - biasedExponent x).toNat = 150 - magnitude x / 2 ^ 23 := by
      rw [UInt32.toNat_sub_of_le, hexponent, h150]
      rw [UInt32.le_iff_toNat_le, hexponent, h150]
      exact hpoint.le
    rw [Nat.div_mul_self_eq_mod_sub_self]
    refine rank_ofBits_sub h (Nat.mod_le _ _) ?_
    rw [toNat_shiftRight_shiftLeft _ _ (by omega), hk, magnitude]
    congr 1
    refine (Nat.mod_mod_of_dvd _ (pow_dvd_pow 2 ?_)).symm
    rw [magnitude] at hsmall
    omega
  · rfl

/-! ## Magnitudes -/

/-- The weight of the last digit, for numbers with digits behind the point. -/
theorem unit_mul_pow (hk : k ≤ 149) : unit (149 - k) * 2 ^ k = 1 := by
  rw [← unit_add, Nat.sub_add_cancel hk, unit_eq_one]

/-- **Bits without those behind the point stand for the integer part.** -/
theorem amount_cleared (m : ℕ) : amount (cleared m) = ⌊amount m⌋ := by
  unfold cleared
  split_ifs with hsmall hpoint
  · have hone : 2 ^ 24 * unit 125 = 1 := by norm_num [unit]
    have hlt := amount_lt (m := m) (t := 125) (by omega)
    rw [amount_zero, Int.floor_eq_zero_iff.mpr ⟨amount_nonneg m, hone ▸ hlt⟩, Int.cast_zero]
  · -- the digits behind the point are the last ones of the significand
    obtain ⟨k, hk⟩ : ∃ k, m / 2 ^ 23 + k = 150 := ⟨150 - m / 2 ^ 23, by omega⟩
    obtain ⟨n, hn⟩ : ∃ n, m = (149 - k) * 2 ^ 23 + n := ⟨m - (149 - k) * 2 ^ 23, by omega⟩
    have hbounds : 2 ^ 23 ≤ n ∧ n < 2 ^ 24 := by omega
    have hexponent : 150 - m / 2 ^ 23 = k := by omega
    have hdvd : 2 ^ k ∣ 2 ^ 23 := pow_dvd_pow 2 (by omega)
    have hcleared : m / 2 ^ k * 2 ^ k = (149 - k) * 2 ^ 23 + n / 2 ^ k * 2 ^ k := by
      rw [hn, Nat.add_div_of_dvd_right (hdvd.mul_left _), add_mul,
        Nat.div_mul_cancel (hdvd.mul_left _)]
    have hlower : 2 ^ 23 ≤ n / 2 ^ k * 2 ^ k := by
      calc 2 ^ 23 = 2 ^ 23 / 2 ^ k * 2 ^ k := (Nat.div_mul_cancel hdvd).symm
        _ ≤ n / 2 ^ k * 2 ^ k := Nat.mul_le_mul_right _ (Nat.div_le_div_right hbounds.1)
    have hupper : n / 2 ^ k * 2 ^ k < 2 ^ 24 := (Nat.div_mul_le_self n _).trans_lt hbounds.2
    have hunit := unit_mul_pow (k := k) (by omega)
    have hquotient : amount m = n / (2 ^ k : ℕ) := by
      rw [hn, amount_eq (fun _ => hbounds.1) hbounds.2.le, eq_div_iff (by positivity), mul_assoc,
        Nat.cast_pow, Nat.cast_ofNat, hunit, mul_one]
    rw [hexponent, hcleared, amount_eq (fun _ => hlower) hupper.le, hquotient,
      Rat.floor_natCast_div_natCast, Nat.cast_mul, mul_assoc, Nat.cast_pow, Nat.cast_ofNat,
      mul_comm (2 ^ k), hunit, mul_one]
    norm_cast
  · obtain ⟨k, hk⟩ : ∃ k, m / 2 ^ 23 - 1 = 149 + k := ⟨m / 2 ^ 23 - 150, by omega⟩
    have hinteger : amount m = ((m - (149 + k) * 2 ^ 23) * 2 ^ k : ℕ) := by
      rw [amount, hk, unit_add, unit_eq_one, one_mul]
      push_cast
      rfl
    rw [hinteger, Int.floor_natCast, Int.cast_natCast]

/-! ## Numbers -/

theorem value_lt_value_iff (hx : x.isFinite = true) (hy : y.isFinite = true) :
    value x < value y ↔ x < y := by
  rw [← not_le, value_le_value_iff hy hx, not_iff_comm]
  exact ⟨Number.le_of_not_lt (isNaN_of_isFinite hx) (isNaN_of_isFinite hy), Number.not_lt_of_le⟩

/-- A small integer is not rounded. -/
theorem Nearest.value_eq_intCast {n : ℤ} (h : Nearest n x) (hn : |n| < 2 ^ 24) :
    x.isFinite = true ∧ value x = n := by
  rw [← mul_one (n : ℚ), ← unit_eq_one] at h ⊢
  exact h.value_eq_mul_unit hn (by decide)

/-- From 2^23 on every number is its own integer part. -/
theorem truncate_of_le (h : 150 ≤ magnitude x / 2 ^ 23) : truncate x = x := by
  have h127 : (127 : UInt32).toNat = 127 := rfl
  have h150 : (150 : UInt32).toNat = 150 := rfl
  unfold truncate
  simp only [UInt32.lt_iff_toNat_lt, toNat_biasedExponent, h127, h150]
  rw [if_neg (by omega), if_neg (by omega)]

theorem abs_value_lt (h : truncate x ≠ x) : |value x| < 2 ^ 23 := by
  have hlt : magnitude x / 2 ^ 23 < 150 := not_le.mp fun hle => h (truncate_of_le hle)
  have hpower : 2 ^ 24 * unit 148 = 2 ^ 23 := by norm_num [unit]
  rw [abs_value, ← hpower]
  exact amount_lt (by omega)

/-- Truncating leaves a NaN and an infinity alone. -/
theorem truncate_of_not_isFinite (h : x.isFinite = false) : truncate x = x := by
  have hlarge : infinite ≤ magnitude x := by
    rw [← natAbs_rank, ← not_lt, ← isFinite_iff, h]
    simp
  have hinfinite : infinite = 255 * 2 ^ 23 := rfl
  exact truncate_of_le (by omega)

theorem isFinite_truncate (h : x.isFinite = true) : (truncate x).isFinite = true := by
  have hrank := rank_truncate h
  have hle := cleared_le (magnitude x)
  rw [isFinite_iff, natAbs_rank] at h
  rw [isFinite_iff, hrank]
  cases sign x <;> simp only [Sign.apply] <;> omega

/-- **Truncating a number gives the integer part of its magnitude, with its sign.** -/
theorem value_truncate (h : x.isFinite = true) :
    value (truncate x) = (if value x < 0 then ⌈value x⌉ else ⌊value x⌋ : ℤ) := by
  rw [value_of_rank_eq_apply (rank_truncate h), value_eq_factor x, amount_cleared]
  have hnonneg := amount_nonneg (magnitude x)
  cases sign x with
  | positive => rw [factor_positive, one_mul, one_mul, if_neg (not_lt.mpr hnonneg)]
  | negative =>
    rw [factor_negative, neg_one_mul, neg_one_mul, Int.ceil_neg]
    rcases hnonneg.eq_or_lt with hzero | hpos
    · simp [← hzero]
    · rw [if_pos (neg_neg_of_pos hpos), Int.cast_neg]

/-- What is not its own integer part has a small one. -/
theorem abs_round_lt {q : ℚ} (h : |q| < 2 ^ 23) : |⌊q⌋| < 2 ^ 24 ∧ |⌈q⌉| < 2 ^ 24 := by
  obtain ⟨hlow, hhigh⟩ := abs_lt.mp h
  have hfloor : (-2 ^ 23 : ℤ) ≤ ⌊q⌋ := Int.le_floor.mpr (by push_cast; linarith)
  have hceil : ⌈q⌉ ≤ (2 ^ 23 : ℤ) := Int.ceil_le.mpr (by push_cast; linarith)
  have hle := Int.floor_le_ceil q
  have hstep := Int.ceil_le_floor_add_one q
  rw [abs_lt, abs_lt]
  omega

/-- The floor is the greatest integer that is not above the number. -/
theorem floor_spec (h : x.isFinite = true) :
    (floor x).isFinite = true ∧ value (floor x) = ⌊value x⌋ := by
  have htruncate := isFinite_truncate h
  have hvalue := value_truncate h
  have hiff := value_lt_value_iff h htruncate
  rw [hvalue] at hiff
  simp only [floor]
  split_ifs with hlt
  · -- the integer part is above the number, so that is negative
    have hne : truncate x ≠ x := fun heq => by simp [heq, Number.lt_iff] at hlt
    have habove := hiff.mpr hlt
    split_ifs at hvalue habove with hneg
    · have hceil : ⌈value x⌉ = ⌊value x⌋ + 1 := by
        have := Int.floor_lt.mpr habove
        have := Int.ceil_le_floor_add_one (value x)
        omega
      have hsub := nearest_sub htruncate (by decide : (1 : Float32).isFinite = true)
      rw [hvalue, value_one_literal, hceil, Int.cast_add, Int.cast_one,
        add_sub_cancel_right] at hsub
      exact hsub.value_eq_intCast (abs_round_lt (abs_value_lt hne)).1
    · exact absurd habove (not_lt.mpr (Int.floor_le _))
  · refine ⟨htruncate, hvalue.trans ?_⟩
    have habove := not_lt.mp (hiff.not.mpr hlt)
    split_ifs at habove ⊢
    · have := Int.le_floor.mpr habove
      have := Int.floor_le_ceil (value x)
      exact_mod_cast (by omega : ⌈value x⌉ = ⌊value x⌋)
    · rfl

/-- The ceiling is the least integer that is not below the number. -/
theorem ceil_spec (h : x.isFinite = true) :
    (ceil x).isFinite = true ∧ value (ceil x) = ⌈value x⌉ := by
  have htruncate := isFinite_truncate h
  have hvalue := value_truncate h
  have hiff := value_lt_value_iff htruncate h
  rw [hvalue] at hiff
  simp only [ceil]
  split_ifs with hlt
  · -- the integer part is below the number, so that is positive
    have hne : truncate x ≠ x := fun heq => by simp [heq, Number.lt_iff] at hlt
    have hbelow := hiff.mpr hlt
    split_ifs at hvalue hbelow with hneg
    · exact absurd hbelow (not_lt.mpr (Int.le_ceil _))
    · have hfloor : ⌊value x⌋ = ⌈value x⌉ - 1 := by
        have := Int.lt_ceil.mpr hbelow
        have := Int.ceil_le_floor_add_one (value x)
        omega
      have hadd := nearest_add htruncate (by decide : (1 : Float32).isFinite = true)
      rw [hvalue, value_one_literal, hfloor, Int.cast_sub, Int.cast_one, sub_add_cancel] at hadd
      exact hadd.value_eq_intCast (abs_round_lt (abs_value_lt hne)).2
  · refine ⟨htruncate, hvalue.trans ?_⟩
    have hbelow := not_lt.mp (hiff.not.mpr hlt)
    split_ifs at hbelow ⊢
    · rfl
    · have := Int.ceil_le.mpr hbelow
      have := Int.floor_le_ceil (value x)
      exact_mod_cast (by omega : ⌊value x⌋ = ⌈value x⌉)

/-- **The floor of a number is an integer**, the greatest one that is not above it. -/
theorem value_floor (h : x.isFinite = true) : value (floor x) = ⌊value x⌋ := (floor_spec h).2

/-- **The ceiling of a number is an integer**, the least one that is not below it. -/
theorem value_ceil (h : x.isFinite = true) : value (ceil x) = ⌈value x⌉ := (ceil_spec h).2

/-- An infinity and a NaN have no integer part. -/
theorem isFinite_floor_iff : (floor x).isFinite = true ↔ x.isFinite = true := by
  refine ⟨fun hfloor => ?_, fun h => (floor_spec h).1⟩
  by_contra h
  have htruncate := truncate_of_not_isFinite (Bool.eq_false_of_not_eq_true h)
  have hself : ¬ x < x := by simp [Number.lt_iff]
  rw [floor, htruncate, if_neg hself] at hfloor
  exact h hfloor

theorem isFinite_ceil (h : x.isFinite = true) : (ceil x).isFinite = true := (ceil_spec h).1

end Heightfield.Number
