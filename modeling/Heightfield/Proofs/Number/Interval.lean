import Heightfield.Number.Shortest
import Mathlib.Algebra.Order.Field.Rat
import Mathlib.Tactic.FieldSimp
import Mathlib.Tactic.Linarith
import Mathlib.Tactic.LinearCombination
import Mathlib.Tactic.NormNum
import Mathlib.Tactic.Positivity
import Mathlib.Tactic.Ring

/-!
# The decimals that round to a binary number

The comparisons that decide whether a decimal rounds to a binary number are comparisons of
rationals. The decimals that round to the single-precision numbers form intervals that follow one
upon the other; of two neighbours only one owns the midpoint between them, so a decimal rounds to
one number at most.

* `Decimal.value`, `Binary.lower` and `Binary.upper` are the rationals.
* `Binary.holds_iff` says what the comparisons mean.
* `Binary.eq_of_holds` is the uniqueness, and `Binary.holds_shortest` says that the shortest decimal
  of a number rounds to it.
-/

namespace Heightfield.Number

/-- A power with an integer exponent is a quotient of two with natural ones. -/
theorem zpow_mul_pow_toNat {a : ℚ} (ha : a ≠ 0) (e : ℤ) : a ^ e * a ^ (-e).toNat = a ^ e.toNat := by
  rcases le_total 0 e with he | he
  · rw [Int.toNat_of_nonpos (by omega), pow_zero, mul_one]
    conv_lhs => rw [← Int.toNat_of_nonneg he, zpow_natCast]
  · rw [Int.toNat_of_nonpos he, pow_zero, ← zpow_natCast, Int.toNat_of_nonneg (by omega),
      ← zpow_add₀ ha]
    simp

/-! ## Comparisons -/

namespace Decimal

/-- The number that a decimal stands for. -/
def value (d : Decimal) : ℚ := d.digits * 10 ^ d.exponent

variable {d : Decimal} {n : Nat} {p : ℤ}

/-- Both sides of a comparison are scaled by the same positive number. -/
theorem against_eq (d : Decimal) (n : Nat) (p : ℤ) :
    ((d.against n p).1 : ℚ) = d.value * (10 ^ (-d.exponent).toNat * 2 ^ (-p).toNat) ∧
      ((d.against n p).2 : ℚ) = n * 2 ^ p * (10 ^ (-d.exponent).toNat * 2 ^ (-p).toNat) := by
  have hten := zpow_mul_pow_toNat (a := 10) (by norm_num) d.exponent
  have htwo := zpow_mul_pow_toNat (a := 2) (by norm_num) p
  constructor
  · simp only [against, value, Nat.pow_eq, Nat.cast_mul, Nat.cast_pow, Nat.cast_ofNat]
    rw [← hten]
    ring
  · simp only [against, Nat.pow_eq, Nat.cast_mul, Nat.cast_pow, Nat.cast_ofNat]
    rw [← htwo]
    ring

theorem against_le_iff : (d.against n p).1 ≤ (d.against n p).2 ↔ d.value ≤ n * 2 ^ p := by
  obtain ⟨hfst, hsnd⟩ := against_eq d n p
  rw [← Nat.cast_le (α := ℚ), hfst, hsnd]
  exact mul_le_mul_iff_left₀ (by positivity)

theorem le_against_iff : (d.against n p).2 ≤ (d.against n p).1 ↔ n * 2 ^ p ≤ d.value := by
  obtain ⟨hfst, hsnd⟩ := against_eq d n p
  rw [← Nat.cast_le (α := ℚ), hfst, hsnd]
  exact mul_le_mul_iff_left₀ (by positivity)

theorem against_lt_iff : (d.against n p).1 < (d.against n p).2 ↔ d.value < n * 2 ^ p := by
  rw [← not_le, le_against_iff, not_le]

theorem lt_against_iff : (d.against n p).2 < (d.against n p).1 ↔ n * 2 ^ p < d.value := by
  rw [← not_le, against_le_iff, not_le]

end Decimal

namespace Binary

/-- The midpoint between a number and the one below it. -/
def lower (b : Binary) : ℚ :=
  (4 * b.significand - if b.narrowBelow then 1 else 2 : Nat) * 2 ^ (b.exponent - 2)

/-- The midpoint between a number and the one above it. -/
def upper (b : Binary) : ℚ := (4 * b.significand + 2 : Nat) * 2 ^ (b.exponent - 2)

/-- The decimals that round to a number lie between the midpoints; those count when the significand
is even. -/
theorem holds_iff {b : Binary} {d : Decimal} :
    b.Holds d ↔ if b.significand % 2 = 0 then b.lower ≤ d.value ∧ d.value ≤ b.upper
      else b.lower < d.value ∧ d.value < b.upper := by
  simp only [Holds, Decimal.against_le_iff, Decimal.le_against_iff, Decimal.against_lt_iff,
    Decimal.lt_against_iff, lower, upper]

theorem bounds_of_holds {b : Binary} {d : Decimal} (h : b.Holds d) :
    b.lower ≤ d.value ∧ d.value ≤ b.upper := by
  rw [holds_iff] at h
  split at h
  · exact h
  · exact ⟨h.1.le, h.2.le⟩

theorem strict_bounds_of_holds {b : Binary} {d : Decimal} (h : b.Holds d)
    (hodd : b.significand % 2 ≠ 0) : b.lower < d.value ∧ d.value < b.upper := by
  rwa [holds_iff, if_neg hodd] at h

theorem lower_lt_upper (b : Binary) : b.lower < b.upper := by
  have hlt : 4 * b.significand - (if b.narrowBelow then 1 else 2) < 4 * b.significand + 2 := by
    omega
  exact mul_lt_mul_of_pos_right (Nat.cast_lt.mpr hlt) (zpow_pos two_pos _)

/-! ## The numbers of single precision -/

/-- The magnitude of the single-precision number with the given bits. -/
def ofBits (bits : Nat) : Binary :=
  let e : Nat := bits / 2 ^ 23 % 2 ^ 8
  let f : Nat := bits % 2 ^ 23
  if e = 0 then ⟨f, -149, false⟩ else ⟨2 ^ 23 + f, (e : Int) - 150, f = 0 && 1 < e⟩

theorem ofFloat32_eq (x : Float32) : ofFloat32 x = ofBits x.toBits.toNat := rfl

/-- The sign takes no part in the magnitude. -/
theorem ofBits_mod (bits : Nat) : ofBits (bits % 2 ^ 31) = ofBits bits := by
  have he : bits % 2 ^ 31 / 2 ^ 23 % 2 ^ 8 = bits / 2 ^ 23 % 2 ^ 8 := by omega
  have hf : bits % 2 ^ 31 % 2 ^ 23 = bits % 2 ^ 23 := by omega
  simp only [ofBits, he, hf]

theorem significand_ofBits_mod_two (bits : Nat) : (ofBits bits).significand % 2 = bits % 2 := by
  simp only [ofBits]
  split <;> simp only <;> omega

/-- Only zero has the significand 0. -/
theorem significand_ofBits_pos {m : Nat} (hm : m < 2 ^ 31) (h0 : m ≠ 0) :
    0 < (ofBits m).significand := by
  simp only [ofBits]
  split <;> simp only <;> omega

/-- The interval of a number starts where that of the number before it ends. -/
theorem upper_ofBits {m : Nat} (hm : m + 1 < 2 ^ 31) :
    (ofBits m).upper = (ofBits (m + 1)).lower := by
  by_cases hcarry : (m + 1) % 2 ^ 23 = 0
  · -- the significand starts anew, with the next exponent
    have he : (m + 1) / 2 ^ 23 % 2 ^ 8 = m / 2 ^ 23 % 2 ^ 8 + 1 := by omega
    have hf : m % 2 ^ 23 = 2 ^ 23 - 1 := by omega
    simp only [ofBits, he, hf, hcarry, Nat.add_one_ne_zero, if_false]
    generalize m / 2 ^ 23 % 2 ^ 8 = e
    rcases Nat.eq_zero_or_pos e with rfl | hpos
    · norm_num [upper, lower]
    · have hstep : ((e + 1 : Nat) : ℤ) - 150 - 2 = ((e : ℤ) - 150 - 2) + 1 := by push_cast; ring
      rw [if_neg hpos.ne']
      simp only [upper, lower, hstep, zpow_add_one₀ (two_ne_zero (α := ℚ)), decide_true,
        Bool.true_and, decide_eq_true_eq, if_pos (Nat.lt_add_of_pos_left hpos)]
      norm_num
      ring
  · have he : (m + 1) / 2 ^ 23 % 2 ^ 8 = m / 2 ^ 23 % 2 ^ 8 := by omega
    have hf : (m + 1) % 2 ^ 23 = m % 2 ^ 23 + 1 := by omega
    simp only [ofBits, he, hf, Nat.add_one_ne_zero, decide_false, Bool.false_and]
    split <;> simp only [upper, lower, Bool.false_eq_true, if_false] <;> congr 2

/-- Between the intervals of two numbers there are those of the numbers between them. -/
theorem upper_lt_lower {m n : Nat} (hlt : m + 1 < n) (hn : n < 2 ^ 31) :
    (ofBits m).upper < (ofBits n).lower := by
  induction n, hlt using Nat.le_induction with
  | base =>
    have hmeet := upper_ofBits (m := m) (by omega)
    have hmeet' := upper_ofBits (m := m + 1) hn
    have hbetween := lower_lt_upper (ofBits (m + 1))
    linarith
  | succ n _ ih =>
    have hmeet := upper_ofBits (m := n) hn
    have hbetween := lower_lt_upper (ofBits n)
    have hbefore := ih (by omega)
    linarith

/-- A decimal does not round to a number and to a greater one. -/
theorem not_holds_of_lt {m n : Nat} {d : Decimal} (hlt : m < n) (hn : n < 2 ^ 31)
    (h : (ofBits m).Holds d) : ¬ (ofBits n).Holds d := by
  intro h'
  have habove := (bounds_of_holds h).2
  have hbelow := (bounds_of_holds h').1
  rcases Nat.eq_or_lt_of_le hlt with rfl | hfar
  · -- one of two neighbours has an odd significand
    have hmeet := upper_ofBits hn
    rcases Nat.mod_two_eq_zero_or_one m with heven | hodd
    · have hstrict := strict_bounds_of_holds h' (by rw [significand_ofBits_mod_two]; omega)
      linarith [hstrict.1]
    · have hstrict := strict_bounds_of_holds h (by rw [significand_ofBits_mod_two]; omega)
      linarith [hstrict.2]
  · linarith [upper_lt_lower hfar hn]

/-- A decimal rounds to one number at most. -/
theorem eq_of_holds {m n : Nat} {d : Decimal} (hm : m < 2 ^ 31) (hn : n < 2 ^ 31)
    (h : (ofBits m).Holds d) (h' : (ofBits n).Holds d) : m = n := by
  rcases Nat.lt_trichotomy m n with hlt | heq | hgt
  · exact absurd h' (not_holds_of_lt hlt hn h)
  · exact heq
  · exact absurd h (not_holds_of_lt hgt hm h')

/-- Whether a decimal rounds to a number depends on its value only. -/
theorem Holds.of_value_eq {b : Binary} {d d' : Decimal} (h : b.Holds d) (hd : d.value = d'.value) :
    b.Holds d' := by
  rw [holds_iff] at h ⊢
  rwa [← hd]

/-! ## The shortest decimal -/

theorem value_exact (b : Binary) : b.exact.value = b.significand * 2 ^ b.exponent := by
  unfold exact
  split
  next h =>
    have htwo := zpow_mul_pow_toNat (a := 2) two_ne_zero b.exponent
    rw [Int.toNat_of_nonpos (by omega : -b.exponent ≤ 0), pow_zero, mul_one] at htwo
    simp [Decimal.value, htwo]
  next h =>
    have hfive := zpow_mul_pow_toNat (a := 5) (by norm_num) b.exponent
    rw [Int.toNat_of_nonpos (by omega : b.exponent ≤ 0), pow_zero] at hfive
    have hten : (10 : ℚ) ^ b.exponent = 2 ^ b.exponent * 5 ^ b.exponent := by
      rw [← mul_zpow]
      norm_num
    simp only [Decimal.value, Nat.pow_eq, Nat.cast_mul, Nat.cast_pow, Nat.cast_ofNat, hten]
    linear_combination (b.significand * 2 ^ b.exponent : ℚ) * hfive

/-- A positive number lies between its midpoints. -/
theorem holds_exact {b : Binary} (h : 0 < b.significand) : b.Holds b.exact := by
  have hscale : (2 : ℚ) ^ b.exponent = 4 * 2 ^ (b.exponent - 2) := by
    rw [zpow_sub₀ two_ne_zero]
    norm_num
    ring
  have hpos : (0 : ℚ) < 2 ^ (b.exponent - 2) := zpow_pos two_pos _
  have hlower : b.lower < b.exact.value := by
    rw [value_exact, hscale, lower, ← mul_assoc]
    refine mul_lt_mul_of_pos_right ?_ hpos
    have : 4 * b.significand - (if b.narrowBelow then 1 else 2) < b.significand * 4 := by
      split <;> omega
    exact_mod_cast this
  have hupper : b.exact.value < b.upper := by
    rw [value_exact, hscale, upper, ← mul_assoc]
    refine mul_lt_mul_of_pos_right ?_ hpos
    exact_mod_cast (by omega : b.significand * 4 < 4 * b.significand + 2)
  rw [holds_iff]
  split
  · exact ⟨hlower.le, hupper.le⟩
  · exact ⟨hlower, hupper⟩

theorem holds_search (tie : Tie) {b : Binary} (h : 0 < b.significand) (fuel : Nat) (e : ℤ) :
    b.Holds (b.search tie fuel e) := by
  induction fuel generalizing e with
  | zero => exact holds_exact h
  | succ fuel ih =>
    rw [search]
    split
    next d hd => exact holds_of_onGrid? hd
    next => exact ih (e - 1)

/-- The shortest decimal rounds to the number that it is made for. -/
theorem holds_shortest (tie : Tie) {b : Binary} (h : 0 < b.significand) :
    b.Holds (b.shortest tie) :=
  holds_search tie h _ _

end Binary
end Heightfield.Number
