import Heightfield.Proofs.Number.Order

/-!
# Rounding to nearest

A rational is rounded by rounding its significand to an integer, at the exponent that it has itself;
half-way between two integers the even one is taken. A carry out of the significand raises the
exponent, and a result beyond all numbers is infinite. Exponents are counted from the least one, so
that exponent and significand add up to the bits of the result.

* `Number.Rounds` says which bits a rational that is not negative is rounded to, and
  `Number.Rounds.mono` that this keeps the order.
* `Number.value` is the rational that a number stands for.
* `Number.Nearest` says that a number is what a rational is rounded to, and `Number.nearest_value`
  that numbers are not rounded any further.
-/

namespace Heightfield.Number

variable {q r : ℚ} {k l m n t : ℕ}

/-! ## Integers -/

/-- The integer is nearest to the rational, and even if there are two. -/
structure NearestInt (q : ℚ) (k : ℕ) : Prop where
  lower : (k : ℚ) - 1 / 2 ≤ q
  upper : q ≤ k + 1 / 2
  even : q = k - 1 / 2 ∨ q = k + 1 / 2 → k % 2 = 0

/-- Less than half-way there is one nearest integer. -/
theorem NearestInt.of_lt (hlower : (k : ℚ) - 1 / 2 < q) (hupper : q < k + 1 / 2) :
    NearestInt q k := by
  refine ⟨hlower.le, hupper.le, ?_⟩
  rintro (rfl | rfl)
  · exact absurd hlower (lt_irrefl _)
  · exact absurd hupper (lt_irrefl _)

theorem NearestInt.self (k : ℕ) : NearestInt k k :=
  .of_lt (by linarith) (by linarith)

/-- Half-way the even integer is taken. -/
theorem NearestInt.half (k : ℕ) : NearestInt (k + 1 / 2) (k + k % 2) := by
  obtain hk | hk := Nat.mod_two_eq_zero_or_one k <;> rw [hk]
  · exact ⟨by push_cast; linarith, by push_cast; linarith, fun _ => by omega⟩
  · exact ⟨by push_cast; linarith, by push_cast; linarith, fun _ => by omega⟩

theorem NearestInt.mono (h : NearestInt q k) (h' : NearestInt r l) (hle : q ≤ r) : k ≤ l := by
  by_contra hlt
  have hstep : (l : ℚ) + 1 ≤ k := by exact_mod_cast not_le.mp hlt
  have hlower := h.lower
  have hupper := h'.upper
  -- both are half-way between the two integers, which cannot both be even
  have hk := h.even (.inl (by linarith))
  have hl := h'.even (.inr (by linarith))
  have heq : k = l + 1 := by
    have : (k : ℚ) = (l + 1 : ℕ) := by push_cast; linarith
    exact_mod_cast this
  omega

/-! ## Exponents -/

/-- The weight of the last digit at an exponent. -/
def unit (t : ℕ) : ℚ := 2 ^ ((t : ℤ) - 149)

theorem unit_pos (t : ℕ) : 0 < unit t := zpow_pos two_pos _

/-- One more digit before the last one doubles the weight. -/
theorem unit_succ (t : ℕ) : unit (t + 1) = 2 * unit t := by
  rw [unit, unit, mul_comm, ← zpow_add_one₀ two_ne_zero]
  congr 1
  push_cast
  ring

theorem unit_add (t k : ℕ) : unit (t + k) = unit t * 2 ^ k := by
  rw [unit, unit, ← zpow_natCast, ← zpow_add₀ two_ne_zero]
  congr 1
  push_cast
  ring

theorem unit_eq_one : unit 149 = 1 := by norm_num [unit]

theorem unit_mono : Monotone unit :=
  monotone_nat_of_le_succ fun t => by linarith [unit_succ t, unit_pos t]

/-- The exponent is that of the rational: the significand has 24 digits, or fewer at the least
exponent. -/
structure Scaled (q : ℚ) (t : ℕ) : Prop where
  lt : q < 2 ^ 24 * unit t
  le : t ≠ 0 → 2 ^ 23 * unit t ≤ q

/-- Of two rationals the greater one does not have the lesser exponent. -/
theorem Scaled.mono {u : ℕ} (h : Scaled q t) (h' : Scaled r u) (hle : q ≤ r) : t ≤ u := by
  by_contra hlt
  have hlow := h.le (by omega)
  have hhigh := h'.lt
  have hunit := unit_mono (not_le.mp hlt)
  rw [Nat.succ_eq_add_one, unit_succ] at hunit
  linarith

/-! ## Bits -/

/-- The rational, which is not negative, is rounded to these bits. -/
def Rounds (q : ℚ) (m : ℕ) : Prop :=
  ∃ t k, Scaled q t ∧ NearestInt (q / unit t) k ∧ m = min (t * 2 ^ 23 + k) infinite

/-- The significand of a rational has 24 digits. -/
theorem NearestInt.bounds (h : NearestInt (q / unit t) k) (hscaled : Scaled q t) :
    k ≤ 2 ^ 24 ∧ (t ≠ 0 → 2 ^ 23 ≤ k) := by
  have hunit := unit_pos t
  refine ⟨h.mono (.self (2 ^ 24)) ?_, fun ht => (NearestInt.self (2 ^ 23)).mono h ?_⟩
  · rw [div_le_iff₀ hunit]
    exact_mod_cast hscaled.lt.le
  · rw [le_div_iff₀ hunit]
    exact_mod_cast hscaled.le ht

/-- **Rounding keeps the order.** -/
theorem Rounds.mono (h : Rounds q m) (h' : Rounds r n) (hle : q ≤ r) : m ≤ n := by
  obtain ⟨t, k, hscaled, hk, rfl⟩ := h
  obtain ⟨u, l, hscaled', hl, rfl⟩ := h'
  have hbounds := hk.bounds hscaled
  have hbounds' := hl.bounds hscaled'
  refine min_le_min_right _ ?_
  rcases (hscaled.mono hscaled' hle).eq_or_lt with rfl | hlt
  · have := hk.mono hl (div_le_div_of_nonneg_right hle (unit_pos t).le)
    omega
  · have := hbounds'.2 (by omega)
    have hstep : (t + 1) * 2 ^ 23 ≤ u * 2 ^ 23 := Nat.mul_le_mul_right _ hlt
    omega

theorem Rounds.le (h : Rounds q m) : m ≤ infinite := by
  obtain ⟨t, k, -, -, rfl⟩ := h
  exact min_le_right _ _

/-- The rational that bits stand for. -/
def amount (m : ℕ) : ℚ :=
  let t := m / 2 ^ 23 - 1
  (m - t * 2 ^ 23 : ℕ) * unit t

/-- A number is not rounded any further. -/
theorem rounds_amount (h : m < infinite) : Rounds (amount m) m := by
  have hunit := unit_pos (m / 2 ^ 23 - 1)
  refine ⟨m / 2 ^ 23 - 1, m - (m / 2 ^ 23 - 1) * 2 ^ 23, ⟨?_, fun ht => ?_⟩, ?_, ?_⟩
  · refine mul_lt_mul_of_pos_right ?_ hunit
    exact_mod_cast (by omega : m - (m / 2 ^ 23 - 1) * 2 ^ 23 < 2 ^ 24)
  · refine mul_le_mul_of_nonneg_right ?_ hunit.le
    exact_mod_cast (by omega : 2 ^ 23 ≤ m - (m / 2 ^ 23 - 1) * 2 ^ 23)
  · rw [amount, mul_div_cancel_right₀ _ hunit.ne']
    exact .self _
  · omega

@[simp] theorem amount_zero : amount 0 = 0 := by simp [amount]

theorem rounds_zero : Rounds 0 0 := by
  simpa using rounds_amount (m := 0) (by decide)

theorem amount_nonneg (m : ℕ) : 0 ≤ amount m :=
  mul_nonneg (Nat.cast_nonneg _) (unit_pos _).le

theorem amount_pos (h : 0 < m) : 0 < amount m := by
  refine mul_pos ?_ (unit_pos _)
  exact_mod_cast (by omega : 0 < m - (m / 2 ^ 23 - 1) * 2 ^ 23)

/-- Bits with a lesser exponent, or the same, stand for less than the next power of two. -/
theorem amount_lt (h : m / 2 ^ 23 - 1 ≤ t) : amount m < 2 ^ 24 * unit t := by
  have hdigits : ((m - (m / 2 ^ 23 - 1) * 2 ^ 23 : ℕ) : ℚ) < 2 ^ 24 := by
    exact_mod_cast (by omega : m - (m / 2 ^ 23 - 1) * 2 ^ 23 < 2 ^ 24)
  calc amount m < 2 ^ 24 * unit (m / 2 ^ 23 - 1) := mul_lt_mul_of_pos_right hdigits (unit_pos _)
    _ ≤ 2 ^ 24 * unit t := mul_le_mul_of_nonneg_left (unit_mono h) (by positivity)

/-- Bits of a significand and an exponent stand for their product. -/
theorem Encodes.amount_eq {e : ℤ} (h : Encodes m k e) : amount m = k * 2 ^ e := by
  obtain ⟨heq, hpos, hlt, hle, hsubnormal⟩ := h
  have ht : ((m / 2 ^ 23 - 1 : ℕ) : ℤ) = e + 149 := by
    by_cases hk : k < 2 ^ 23
    · have := hsubnormal hk
      omega
    · omega
  have hk : m - (m / 2 ^ 23 - 1) * 2 ^ 23 = k := by omega
  simp only [amount, unit, hk, ht]
  congr 2
  ring

/-! ## Numbers -/

variable {x y : Float32}

/-- The rational that a finite number stands for. -/
def value (x : Float32) : ℚ := (rank x).sign * amount (rank x).natAbs

/-- The number is what the rational is rounded to; both zeros count as the zero. -/
def Nearest (q : ℚ) (x : Float32) : Prop :=
  ∃ m : ℕ, Rounds |q| m ∧ rank x = if q < 0 then -(m : ℤ) else m

/-- The magnitude is what the rational is rounded to without its sign. -/
theorem Nearest.rounds (h : Nearest q x) : Rounds |q| (magnitude x) := by
  obtain ⟨m, hm, hrank⟩ := h
  have hnatAbs := natAbs_rank x
  obtain rfl : magnitude x = m := by
    split_ifs at hrank <;> omega
  exact hm

/-- A rational is not rounded to a NaN. -/
theorem Nearest.isNaN (h : Nearest q x) : x.isNaN = false := by
  obtain ⟨m, hm, hrank⟩ := h
  have := hm.le
  rw [isNaN_eq_false_iff, hrank]
  split <;> omega

/-- **Rounding keeps the order** of rationals. -/
theorem Nearest.mono (h : Nearest q x) (h' : Nearest r y) (hle : q ≤ r) : x ≤ y := by
  refine Number.le_iff.mpr ⟨h.isNaN, h'.isNaN, ?_⟩
  obtain ⟨m, hm, hrank⟩ := h
  obtain ⟨n, hn, hrank'⟩ := h'
  rw [hrank, hrank']
  split_ifs with hq hr hr
  · -- of two negative rationals the lesser has the greater magnitude
    have : n ≤ m := hn.mono hm (by rw [abs_of_neg hq, abs_of_neg hr]; linarith)
    omega
  · omega
  · linarith
  · have : m ≤ n := hm.mono hn (by rw [abs_of_nonneg (by linarith), abs_of_nonneg] <;> linarith)
    omega

/-- A rational is rounded to one number, up to the sign of a zero. -/
theorem Nearest.rank_eq (h : Nearest q x) (h' : Nearest q y) : rank x = rank y :=
  le_antisymm (Number.le_iff.mp (h.mono h' le_rfl)).2.2 (Number.le_iff.mp (h'.mono h le_rfl)).2.2

theorem Nearest.congr (h : Nearest q x) (hrank : rank y = rank x) : Nearest q y := by
  obtain ⟨m, hm, hx⟩ := h
  exact ⟨m, hm, hrank.trans hx⟩

/-- What is between finite numbers is finite. -/
theorem isFinite_of_le {lo hi : Float32} (hlo : lo.isFinite = true) (hhi : hi.isFinite = true)
    (hle : lo ≤ x) (hge : x ≤ hi) : x.isFinite = true := by
  have hlow := (Number.le_iff.mp hle).2.2
  have hhigh := (Number.le_iff.mp hge).2.2
  rw [isFinite_iff] at *
  omega

/-- A rational that is not large is rounded to a finite number. -/
theorem Nearest.isFinite (h : Nearest q x) (hq : |q| ≤ 2 ^ 127) : x.isFinite = true := by
  have hamount : amount 0x7f000000 = 2 ^ 127 := by norm_num [amount, unit]
  have hle := h.rounds.mono (rounds_amount (m := 0x7f000000) (by decide)) (hamount ▸ hq)
  rw [isFinite_iff, natAbs_rank, infinite]
  omega

/-- A value has the sign of its number. -/
theorem value_eq (x : Float32) :
    value x = if rank x < 0 then -amount (rank x).natAbs else amount (rank x).natAbs := by
  rcases lt_trichotomy (rank x) 0 with hneg | hzero | hpos
  · simp [value, Int.sign_eq_neg_one_of_neg hneg, hneg]
  · simp [value, hzero]
  · simp [value, Int.sign_eq_one_of_pos hpos, hpos.le]

/-- The value of bits without a sign. -/
theorem value_of_rank_eq (h : rank x = m) : value x = amount m := by
  simp [value_eq, h]

theorem value_of_rank_eq_zero (h : rank x = 0) : value x = 0 :=
  (value_of_rank_eq h).trans amount_zero

@[simp] theorem value_zero : value 0 = 0 := value_of_rank_eq_zero (by decide)

/-- A finite number is what its value is rounded to. -/
theorem nearest_value (h : x.isFinite = true) : Nearest (value x) x := by
  rw [isFinite_iff] at h
  refine ⟨(rank x).natAbs, ?_, ?_⟩
  · have habs : |value x| = amount (rank x).natAbs := by
      rw [value_eq, apply_ite abs, abs_neg, ite_self, abs_of_nonneg (amount_nonneg _)]
    exact habs ▸ rounds_amount h
  · have hneg : value x < 0 ↔ rank x < 0 := by
      rw [value_eq]
      split_ifs with hrank
      · simpa [hrank] using amount_pos (by omega : 0 < (rank x).natAbs)
      · simpa [hrank] using amount_nonneg (rank x).natAbs
    simp only [hneg]
    split <;> omega

/-- Finite numbers are ordered as their values are. -/
theorem value_le_value_iff (hx : x.isFinite = true) (hy : y.isFinite = true) :
    value x ≤ value y ↔ x ≤ y := by
  refine ⟨(nearest_value hx).mono (nearest_value hy), fun hle => ?_⟩
  by_contra hlt
  have hge := (nearest_value hy).mono (nearest_value hx) (not_le.mp hlt).le
  have hrank : rank x = rank y :=
    le_antisymm (Number.le_iff.mp hle).2.2 (Number.le_iff.mp hge).2.2
  exact hlt (by rw [value, value, hrank])

/-- Between two rationals that are numbers, a rational is rounded to a number between them. -/
theorem Nearest.mem {lo hi : Float32} (h : Nearest q x) (hlo : lo.isFinite = true)
    (hhi : hi.isFinite = true) (hle : value lo ≤ q) (hge : q ≤ value hi) :
    x.isFinite = true ∧ value lo ≤ value x ∧ value x ≤ value hi := by
  have hlox := (nearest_value hlo).mono h hle
  have hxhi := h.mono (nearest_value hhi) hge
  have hx : x.isFinite = true := isFinite_of_le hlo hhi hlox hxhi
  exact ⟨hx, (value_le_value_iff hlo hx).mpr hlox, (value_le_value_iff hx hhi).mpr hxhi⟩

end Heightfield.Number
