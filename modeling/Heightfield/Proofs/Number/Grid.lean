import Heightfield.Proofs.Number.Overflow

/-!
# Neighbouring numbers

The numbers of one exponent stand on a grid, whose step is the weight of their last digit. What is
on such a grid is not rounded, as long as it has few digits. What is between two neighbouring
numbers is rounded to the nearer one, so that it is moved by half a step at most.

* `Number.amount_succ` is the step from a number to the next one.
* `Number.Nearest.value_eq_mul_unit` is about rationals on a grid.
* `Number.RoundsBelow` are the rationals that are rounded below a number, as `Number.Rounds.lt_iff`
  says.
* `Number.Nearest.abs_value_sub_le` bounds what rounding adds or takes away, and
  `Number.abs_value_sub_sub_le` says that the bound holds for all differences.
* `Number.value_sub_eq_zero_iff` says that only the difference of equal numbers is zero.
-/

namespace Heightfield.Number

variable {q : ℚ} {k l m n t : ℕ} {x y z : Float32}

/-! ## The grid -/

/-- Bits of an exponent and a significand, which has all digits unless the exponent is the least
one; it may also be the one that carries over to the next exponent. -/
theorem amount_eq (hn : t ≠ 0 → 2 ^ 23 ≤ n) (hle : n ≤ 2 ^ 24) :
    amount (t * 2 ^ 23 + n) = n * unit t := by
  rcases hle.eq_or_lt with rfl | hlt
  · have ht : (t * 2 ^ 23 + 2 ^ 24) / 2 ^ 23 - 1 = t + 1 := by omega
    have hn' : t * 2 ^ 23 + 2 ^ 24 - (t + 1) * 2 ^ 23 = 2 ^ 23 := by omega
    simp only [amount, ht, hn', unit_succ]
    norm_num
    ring
  · have ht : (t * 2 ^ 23 + n) / 2 ^ 23 - 1 = t := by
      rcases t.eq_zero_or_pos with rfl | hpos
      · omega
      · have := hn hpos.ne'
        omega
    have hn' : t * 2 ^ 23 + n - t * 2 ^ 23 = n := by omega
    simp only [amount, ht, hn']

/-- Bits are those of an exponent and a significand. -/
theorem exists_digits (m : ℕ) :
    ∃ n, m = (m / 2 ^ 23 - 1) * 2 ^ 23 + n ∧ n < 2 ^ 24 ∧ (m / 2 ^ 23 - 1 ≠ 0 → 2 ^ 23 ≤ n) :=
  ⟨m - (m / 2 ^ 23 - 1) * 2 ^ 23, by omega, by omega, by omega⟩

/-- **The next number** is one step away, also if it has the next exponent. -/
theorem amount_succ (m : ℕ) : amount (m + 1) = amount m + unit (m / 2 ^ 23 - 1) := by
  obtain ⟨n, hm, hlt, hle⟩ := exists_digits m
  have hself := amount_eq hle hlt.le
  have hnext := amount_eq (n := n + 1) (fun ht => (hle ht).trans n.le_succ) hlt
  rw [← hm] at hself
  rw [← add_assoc, ← hm] at hnext
  rw [hnext, hself]
  push_cast
  ring

theorem amount_strictMono : StrictMono amount :=
  strictMono_nat_of_lt_succ fun m => by
    rw [amount_succ]
    exact lt_add_of_pos_right _ (unit_pos _)

/-- What has few digits on a grid is a number. -/
theorem exists_amount (hn : n < 2 ^ 24) (t : ℕ) :
    ∃ m < (t + 2) * 2 ^ 23, amount m = n * unit t := by
  induction t generalizing n with
  | zero =>
    have hamount := amount_eq (t := 0) (fun h => absurd rfl h) hn.le
    rw [zero_mul, zero_add] at hamount
    exact ⟨n, by omega, hamount⟩
  | succ t ih =>
    by_cases hle : 2 ^ 23 ≤ n
    · exact ⟨(t + 1) * 2 ^ 23 + n, by omega, amount_eq (fun _ => hle) hn.le⟩
    · -- fewer digits than there could be, so that the step may be halved
      obtain ⟨m, hm, hamount⟩ := ih (n := 2 * n) (by omega)
      refine ⟨m, hm.trans_le (Nat.mul_le_mul_right _ (t + 2).le_succ), ?_⟩
      rw [hamount, unit_succ]
      push_cast
      ring

theorem abs_value (x : Float32) : |value x| = amount (magnitude x) := by
  have habs : |factor (sign x)| = 1 := by cases sign x <;> simp
  rw [value_eq_factor, abs_mul, habs, one_mul, abs_of_nonneg (amount_nonneg _)]

/-- A number is a multiple of the step that it has itself, or of a smaller one. -/
theorem exists_mul_unit (h : t ≤ magnitude x / 2 ^ 23 - 1) : ∃ i : ℤ, value x = i * unit t := by
  obtain ⟨d, hd⟩ := Nat.exists_eq_add_of_le h
  let n := magnitude x - (magnitude x / 2 ^ 23 - 1) * 2 ^ 23
  have hamount : amount (magnitude x) = n * unit (t + d) := by rw [← hd, amount]
  refine ⟨(sign x).apply (n * 2 ^ d), ?_⟩
  rw [value_eq_factor, hamount, cast_apply, unit_add]
  push_cast
  ring

/-! ## Rounding -/

/-- A finite result is a significand that is rounded to an integer. -/
theorem Rounds.exists_nearestInt (h : Rounds q m) (hm : m < infinite) :
    ∃ t k, Scaled q t ∧ NearestInt (q / unit t) k ∧ m = t * 2 ^ 23 + k ∧ amount m = k * unit t := by
  obtain ⟨t, k, hscaled, hk, rfl⟩ := h
  obtain ⟨hle, hge⟩ := hk.bounds hscaled
  rw [min_lt_iff, or_iff_left (lt_irrefl _)] at hm
  rw [min_eq_left hm.le]
  exact ⟨t, k, hscaled, hk, rfl, amount_eq hge hle⟩

/-- A number is the only one that its own rational is rounded to. -/
theorem Rounds.eq_of_amount (h : Rounds (amount m) n) (hm : m < infinite) : n = m :=
  le_antisymm (h.mono (rounds_amount hm) le_rfl) ((rounds_amount hm).mono h le_rfl)

/-- The value of a rank that is given as a sign and a magnitude. -/
theorem value_of_rank_eq_apply {s : Float.Model.UnpackedFloat.Sign} (h : rank x = s.apply m) :
    value x = factor s * amount m := by
  cases s with
  | positive => rw [value_of_rank_eq h, factor_positive, one_mul]
  | negative =>
    have hrank : rank x = -(m : ℤ) := h
    rcases m.eq_zero_or_pos with rfl | hpos
    · rw [value_of_rank_eq_zero hrank, amount_zero, mul_zero]
    · rw [value_eq, if_pos (by omega), hrank, Int.natAbs_neg, Int.natAbs_natCast, factor_negative,
        neg_one_mul]

/-- Rounding leaves the sign alone, so that only the magnitudes differ. -/
theorem Nearest.abs_value_sub (h : Nearest q x) :
    |value x - q| = |(amount (magnitude x) - |q| : ℚ)| := by
  obtain ⟨m, -, hrank⟩ := h
  have hnatAbs := natAbs_rank x
  obtain rfl : magnitude x = m := by
    split_ifs at hrank <;> omega
  split_ifs at hrank with hneg
  · rw [value_of_rank_eq_apply (s := .negative) hrank, factor_negative, abs_of_neg hneg, ← abs_neg]
    congr 1
    ring
  · rw [value_of_rank_eq hrank, abs_of_nonneg (not_lt.mp hneg)]

/-- **What has few digits on a grid is not rounded.** -/
theorem Nearest.value_eq_mul_unit {i : ℤ} (h : Nearest (i * unit t) x) (hi : |i| < 2 ^ 24)
    (ht : t < 254) : x.isFinite = true ∧ value x = i * unit t := by
  rw [Int.abs_eq_natAbs] at hi
  obtain ⟨m, hm, hamount⟩ := exists_amount (n := i.natAbs) (by omega) t
  have hinfinite : infinite = 255 * 2 ^ 23 := rfl
  have hfinite : m < infinite := by omega
  have habs : |(i : ℚ) * unit t| = amount m := by
    rw [hamount, abs_mul, abs_of_pos (unit_pos t), Nat.cast_natAbs, Int.cast_abs]
  have hrounds := h.rounds
  rw [habs] at hrounds
  have hmagnitude := hrounds.eq_of_amount hfinite
  refine ⟨?_, ?_⟩
  · rwa [isFinite_iff, natAbs_rank, hmagnitude]
  · have hsub := h.abs_value_sub
    rw [hmagnitude, habs, sub_self, abs_zero] at hsub
    exact sub_eq_zero.mp (abs_eq_zero.mp hsub)

/-- The rational, which is not negative, is rounded to less than the bits: it is nearer to a lesser
number, or half-way to the number before and that is even. -/
def RoundsBelow (q : ℚ) (m : ℕ) : Prop :=
  q < (amount (m - 1) + amount m) / 2 ∨ q = (amount (m - 1) + amount m) / 2 ∧ m % 2 = 1

/-- **The rationals that are rounded below a number.** -/
theorem Rounds.lt_iff (h : Rounds q n) (hpos : 0 < m) (hm : m < infinite) :
    n < m ↔ RoundsBelow q m := by
  obtain ⟨l, rfl⟩ := Nat.exists_eq_add_one.mpr hpos
  have hstep := amount_succ l
  have hunit := unit_pos (l / 2 ^ 23 - 1)
  rw [RoundsBelow, Nat.add_sub_cancel]
  rcases lt_or_ge q (amount l) with hlow | hlow
  · have hle := h.mono (rounds_amount (by omega)) hlow.le
    exact iff_of_true (by omega) (.inl (by linarith))
  · rcases le_or_gt (amount (l + 1)) q with hhigh | hhigh
    · have hge := (rounds_amount hm).mono h hhigh
      refine iff_of_false (by omega) ?_
      rintro (hlt | ⟨heq, -⟩) <;> linarith
    · have hle := h.mono (rounds_amount hm) hhigh.le
      obtain ⟨t, k, hscaled, hk, rfl, -⟩ := h.exists_nearestInt (by omega)
      obtain ⟨j, hl, hlt, hle'⟩ := exists_digits l
      have hamount := amount_eq hle' hlt.le
      rw [← hl] at hamount
      -- between the two numbers the exponent is that of the lesser one
      have hscaled' : Scaled q (l / 2 ^ 23 - 1) := by
        refine ⟨?_, fun ht => ?_⟩
        · have hdigits : ((j + 1 : ℕ) : ℚ) ≤ 2 ^ 24 := by exact_mod_cast hlt
          have hnext := mul_le_mul_of_nonneg_right hdigits hunit.le
          push_cast at hnext
          linarith
        · have hdigits : (2 ^ 23 : ℚ) ≤ j := by exact_mod_cast hle' ht
          have hself := mul_le_mul_of_nonneg_right hdigits hunit.le
          linarith
      obtain rfl : t = l / 2 ^ 23 - 1 :=
        le_antisymm (hscaled.mono hscaled' le_rfl) (hscaled'.mono hscaled le_rfl)
      have hmid : (amount l + amount (l + 1)) / 2 = (j + 1 / 2) * unit (l / 2 ^ 23 - 1) := by
        rw [hstep, hamount]
        ring
      have hbits : (l / 2 ^ 23 - 1) * 2 ^ 23 + k < l + 1 ↔ k ≤ j := by omega
      have hparity : j % 2 = 0 ↔ (l + 1) % 2 = 1 := by omega
      rw [hbits, hmid, ← div_lt_iff₀ hunit, ← div_eq_iff hunit.ne', ← hparity]
      exact hk.le_iff

/-- The rationals that are rounded to a number of lesser magnitude than another one. -/
theorem Nearest.abs_value_lt_iff (h : Nearest q x) (hy : y.isFinite = true) (hzero : value y ≠ 0) :
    |value x| < |value y| ↔ RoundsBelow |q| (magnitude y) := by
  have hpos : 0 < magnitude y := by
    rw [← amount_strictMono.lt_iff_lt, amount_zero, ← abs_value]
    exact abs_pos.mpr hzero
  rw [isFinite_iff, natAbs_rank] at hy
  rw [abs_value, abs_value, amount_strictMono.lt_iff_lt]
  exact h.rounds.lt_iff hpos hy

/-- The step at a rational that is not too small is little next to the rational. -/
theorem Scaled.unit_le (h : Scaled q t) (hq : 1 / 2 ^ 126 ≤ q) : unit t ≤ q / 2 ^ 23 := by
  rcases eq_or_ne t 0 with rfl | ht
  · have hleast : unit 0 = 1 / 2 ^ 126 / 2 ^ 23 := by norm_num [unit]
    rw [hleast]
    exact div_le_div_of_nonneg_right hq (by positivity)
  · rw [le_div_iff₀ (by positivity), mul_comm]
    exact h.le ht

/-- **Rounding moves a rational by half a step at most.** -/
theorem Nearest.abs_value_sub_le (h : Nearest q x) (hx : x.isFinite = true)
    (hq : 1 / 2 ^ 126 ≤ |q|) : |value x - q| ≤ |q| / 2 ^ 24 := by
  have hfinite : magnitude x < infinite := by rwa [isFinite_iff, natAbs_rank] at hx
  obtain ⟨t, k, hscaled, hk, -, hamount⟩ := h.rounds.exists_nearestInt hfinite
  have hunit := unit_pos t
  have hhalf : |(k : ℚ) - |q| / unit t| ≤ 1 / 2 :=
    abs_le.mpr ⟨by linarith [hk.upper], by linarith [hk.lower]⟩
  calc |value x - q| = |(k - |q| / unit t) * unit t| := by
        rw [h.abs_value_sub, hamount, sub_mul, div_mul_cancel₀ _ hunit.ne']
    _ = |(k : ℚ) - |q| / unit t| * unit t := by rw [abs_mul, abs_of_pos hunit]
    _ ≤ 1 / 2 * unit t := mul_le_mul_of_nonneg_right hhalf hunit.le
    _ ≤ |q| / 2 ^ 24 := by linarith [hscaled.unit_le hq]

/-- Rounding moves a rational by little, also where it cannot be told by the rational itself. -/
theorem Nearest.abs_value_sub_le_add (h : Nearest q x) (hx : x.isFinite = true) :
    |value x - q| ≤ |q| / 2 ^ 24 + 1 / 2 ^ 125 := by
  rcases le_or_gt (1 / 2 ^ 126) |q| with hlarge | hsmall
  · have hle := h.abs_value_sub_le hx hlarge
    linarith
  · have hamount : amount (2 ^ 23) = 1 / 2 ^ 126 := by norm_num [amount, unit]
    have hle := h.rounds.mono (rounds_amount (m := 2 ^ 23) (by decide)) (hamount ▸ hsmall.le)
    have hvalue := amount_strictMono.monotone hle
    rw [← abs_value, hamount] at hvalue
    have hsub := abs_sub (value x) q
    have hnonneg := abs_nonneg q
    linarith

/-- Of a multiple of the least number rounding takes or adds no more than of greater rationals: if
it is small, it is a number. -/
theorem Nearest.abs_value_sub_le_of_mul_unit {i : ℤ} (h : Nearest (i * unit 0) x)
    (hx : x.isFinite = true) : |value x - i * unit 0| ≤ |i * unit 0| / 2 ^ 24 := by
  rcases le_or_gt (1 / 2 ^ 126) |(i * unit 0 : ℚ)| with hlarge | hsmall
  · exact h.abs_value_sub_le hx hlarge
  · have hunit : 1 / 2 ^ 126 = 2 ^ 23 * unit 0 := by norm_num [unit]
    rw [hunit, abs_mul, abs_of_pos (unit_pos 0), mul_lt_mul_iff_of_pos_right (unit_pos 0)] at hsmall
    have hlt : |i| < 2 ^ 23 := by exact_mod_cast hsmall
    rw [(h.value_eq_mul_unit (by omega) (by decide)).2, sub_self, abs_zero]
    positivity

/-- A multiple of a number is one of the least number as well, so the bound holds though it is
small. -/
theorem abs_value_mul_intCast_sub_le {i : ℤ} (h : Nearest (value y * i) x)
    (hx : x.isFinite = true) : |value x - value y * i| ≤ |value y * i| / 2 ^ 24 := by
  obtain ⟨j, hj⟩ := exists_mul_unit (x := y) (Nat.zero_le _)
  rw [hj, mul_right_comm, ← Int.cast_mul] at h ⊢
  exact h.abs_value_sub_le_of_mul_unit hx

/-- So is a difference of numbers. -/
theorem abs_value_sub_sub_le (hx : x.isFinite = true) (hy : y.isFinite = true)
    (hsub : (x - y).isFinite = true) :
    |value (x - y) - (value x - value y)| ≤ |value x - value y| / 2 ^ 24 := by
  have h := nearest_sub hx hy
  obtain ⟨i, hi⟩ := exists_mul_unit (x := x) (Nat.zero_le _)
  obtain ⟨j, hj⟩ := exists_mul_unit (x := y) (Nat.zero_le _)
  rw [hi, hj, ← sub_mul, ← Int.cast_sub] at h ⊢
  exact h.abs_value_sub_le_of_mul_unit hsub

/-- **A difference is not rounded to zero.** -/
theorem value_sub_eq_zero_iff (hx : x.isFinite = true) (hy : y.isFinite = true) :
    value (x - y) = 0 ↔ value x = value y := by
  constructor
  · intro hzero
    have hmagnitude : magnitude (x - y) = 0 := by
      rw [← amount_strictMono.injective.eq_iff, ← abs_value, hzero, abs_zero, amount_zero]
    have hfinite : (x - y).isFinite = true := by
      rw [isFinite_iff, natAbs_rank, hmagnitude]
      decide
    have herror := abs_value_sub_sub_le hx hy hfinite
    rw [hzero, zero_sub, abs_neg] at herror
    have hnonneg := abs_nonneg (value x - value y)
    exact sub_eq_zero.mp (abs_eq_zero.mp (by linarith))
  · intro heq
    have hsub := nearest_sub hx hy
    rw [heq, sub_self] at hsub
    exact value_of_rank_eq_zero hsub.rank_eq_zero

end Heightfield.Number
