import Heightfield.Proofs.Number.Overflow

/-!
# Sums of squares and roots

Squares are not negative, and neither are their sums, which may be infinite but no NaN. The root of
such a number is finite just if the number is: it has about half of its exponent.

* `Number.zero_le_add` is about sums, `Number.zero_le_mul_self` about squares.
* `Number.exists_sqrtCore` encloses the root that is rounded.
* `Number.isFinite_sqrt_iff` and `Number.zero_le_sqrt` are the results.
-/

namespace Heightfield.Number

open Float.Model Float.Model.UnpackedFloat

variable {x y : Float32} {m k : ℕ} {e : ℤ}

/-! ## Numbers that are not negative -/

theorem zero_le_iff : 0 ≤ x ↔ x.isNaN = false ∧ 0 ≤ rank x := by
  have hzero : (0 : Float32).isNaN = false ∧ rank 0 = 0 := by decide
  rw [Number.le_iff, hzero.2]
  exact ⟨fun h => ⟨h.2.1, h.2.2⟩, fun h => ⟨hzero.1, h.1, h.2⟩⟩

theorem zero_le_of_rank_eq_infinite (h : rank x = infinite) : 0 ≤ x := by
  rw [zero_le_iff, isNaN_eq_false_iff, h]
  decide

/-- The infinity is the only number above all finite ones. -/
theorem rank_eq_infinite (h : 0 ≤ x) (hx : ¬ x.isFinite = true) : rank x = infinite := by
  obtain ⟨hnan, hnonneg⟩ := zero_le_iff.mp h
  rw [isNaN_eq_false_iff] at hnan
  rw [isFinite_iff] at hx
  omega

theorem zero_le_value (h : 0 ≤ x) : 0 ≤ value x := by
  rw [value_eq, if_neg (not_lt.mpr (zero_le_iff.mp h).2)]
  exact amount_nonneg _

/-- A rational that is not negative is not rounded to a negative number. -/
theorem Nearest.zero_le {q : ℚ} (h : Nearest q x) (hq : 0 ≤ q) : 0 ≤ x :=
  (nearest_zero (x := 0) (by decide)).mono h hq

theorem zero_le_mul_self (hx : x.isFinite = true) : 0 ≤ x * x :=
  (nearest_mul hx hx).zero_le (mul_self_nonneg _)

/-- What is added to an infinity does not matter. -/
theorem rank_infinite_add (hx : rank x = infinite) (hy : 0 ≤ y) : rank (x + y) = infinite := by
  rw [add_eq_packed, unpack_of_rank_eq_infinite hx]
  by_cases hfinite : y.isFinite = true
  · have hdenotes := denotes_unpack hfinite
    generalize y.toModel.unpack = u at hdenotes ⊢
    generalize value y = q at hdenotes
    cases hdenotes <;> exact rank_packed_infinity .positive
  · rw [unpack_of_rank_eq_infinite (rank_eq_infinite hy hfinite)]
    exact rank_packed_infinity .positive

theorem zero_le_add (hx : 0 ≤ x) (hy : 0 ≤ y) : 0 ≤ x + y := by
  by_cases hfinite : x.isFinite = true
  · by_cases hfinite' : y.isFinite = true
    · have hsum := add_nonneg (zero_le_value hx) (zero_le_value hy)
      exact (nearest_add hfinite hfinite').zero_le hsum
    · have hrank := rank_add_of_infinite hfinite (rank_eq_infinite hy hfinite')
      exact zero_le_of_rank_eq_infinite hrank
  · exact zero_le_of_rank_eq_infinite (rank_infinite_add (rank_eq_infinite hx hfinite) hy)

/-- The reciprocal of the infinity is zero. -/
theorem rank_one_div_of_infinite (hx : rank x = infinite) : rank (1 / x) = 0 := by
  have hdiv : 1 / x =
      packed (UnpackedFloat.div .binary32 (1 : Float32).toModel.unpack x.toModel.unpack) := rfl
  rw [hdiv, unpack_of_rank_eq_infinite hx]
  decide

/-! ## Roots -/

/-- What is behind the integer part of a root is none, less than a half or more than a half. -/
theorem exists_represents (c : ℕ) {a : Accuracy} (ha : a ≠ .inexact .eq) :
    ∃ p : ℚ, Represents (.ofMantissaAndAccuracy c a) p := by
  match a with
  | .exact => exact ⟨c, represents_exact c⟩
  | .inexact .lt =>
    refine ⟨c + 1 / 4, lt_add_of_pos_right _ (by norm_num), ?_⟩
    exact add_lt_add_right (by norm_num) _
  | .inexact .eq => exact absurd rfl ha
  | .inexact .gt =>
    refine ⟨c + 3 / 4, ?_, ?_⟩ <;> exact add_lt_add_right (by norm_num) _

/-- A root is rounded from behind its integer part, at an exponent that gives that digits enough. -/
theorem exists_sqrtCore (hk : 0 < k) (e : ℤ) :
    ∃ c g a, sqrtCore .binary32 k e = (c, g, a) ∧ g ≤ lead c g - 149 ∧ 2 * g ≤ e ∧
      ((c : ℚ) * 2 ^ g) ^ 2 ≤ k * 2 ^ e ∧ ∃ p, Represents (.ofMantissaAndAccuracy c a) p := by
  have hmin : Format.binary32.minExponent = -149 := by decide
  have hbits : (Format.binary32.mantissaBits : ℤ) = 24 := by decide
  let g := min (e / 2) (Format.binary32.targetExponent ((totalExponent k e + 1) / 2))
  have hg : 2 * g ≤ e := by
    have hle : g ≤ e / 2 := min_le_left _ _
    omega
  obtain ⟨n, hn⟩ := Int.eq_ofNat_of_zero_le (sub_nonneg.mpr hg)
  have htoNat : (e - 2 * g).toNat = n := by omega
  obtain ⟨a, hcore, ha⟩ :
      ∃ a, sqrtCore .binary32 k e = ((k <<< n).sqrt, g, a) ∧ a ≠ .inexact .eq := by
    rw [← htoNat]
    refine ⟨_, rfl, ?_⟩
    split_ifs <;> nofun
  refine ⟨_, _, _, hcore, le_lead ?_, hg, ?_, exists_represents _ ha⟩
  · by_cases hsmall : g ≤ -149
    · exact .inr hsmall
    · left
      have htotal : 2 * g ≤ k.log2 + e - 46 := by
        simp only [g, Format.targetExponent, hmin, hbits, totalExponent] at hsmall ⊢
        omega
      rw [Nat.le_sqrt, Nat.shiftLeft_eq]
      calc 2 ^ 23 * 2 ^ 23 = 2 ^ 46 := by norm_num
        _ ≤ 2 ^ (k.log2 + n) := Nat.pow_le_pow_right two_pos (by omega)
        _ = 2 ^ k.log2 * 2 ^ n := pow_add _ _ _
        _ ≤ k * 2 ^ n := Nat.mul_le_mul_right _ (Nat.log2_self_le hk.ne')
  · have hsquare : ((k <<< n).sqrt : ℚ) ^ 2 ≤ k * 2 ^ n := by
      have hle := Nat.sqrt_le' (k <<< n)
      rw [Nat.shiftLeft_eq] at hle ⊢
      exact_mod_cast hle
    have hexp : e = n + 2 * g := by omega
    calc (((k <<< n).sqrt : ℚ) * 2 ^ g) ^ 2 = ((k <<< n).sqrt : ℚ) ^ 2 * 2 ^ (2 * g) := by
          rw [mul_pow, two_mul, zpow_add₀ two_ne_zero, sq (2 ^ g)]
      _ ≤ (k : ℚ) * 2 ^ n * 2 ^ (2 * g) :=
        mul_le_mul_of_nonneg_right hsquare (zpow_pos two_pos _).le
      _ = (k : ℚ) * 2 ^ e := by rw [hexp, zpow_add₀ two_ne_zero, zpow_natCast, mul_assoc]

theorem sqrt_eq_packed (x : Float32) :
    x.sqrt = packed (UnpackedFloat.sqrt .binary32 x.toModel.unpack) := rfl

/-- The root of a number that is not negative is not negative, and finite if the number is. -/
theorem Denotes.sqrt {u : UnpackedFloat} {q : ℚ} (h : Denotes u q) (hq : 0 ≤ q) :
    ∃ p, 0 ≤ p ∧ p ≤ 2 ^ 127 ∧ Nearest p (packed (UnpackedFloat.sqrt .binary32 u)) := by
  cases h with
  | zero s => exact ⟨0, le_rfl, by positivity, nearest_zero (rank_packed_zero s)⟩
  | @finite s m k e hpos henc hm =>
    cases s with
    | negative =>
      have : (0 : ℚ) < k * 2 ^ e := by positivity
      rw [factor_negative] at hq
      linarith
    | positive =>
      obtain ⟨c, g, a, hcore, hlead, hg, hroot, p, hp⟩ := exists_sqrtCore hpos e
      obtain ⟨m', hm', hrank⟩ := rank_roundWithAccuracy .positive hp hlead
      have hbounds := hp.bounds
      rw [mantissa_ofMantissaAndAccuracy] at hbounds
      have hexp : (0 : ℚ) < 2 ^ g := zpow_pos two_pos g
      have hnonneg : 0 ≤ p * 2 ^ g := mul_nonneg ((Nat.cast_nonneg c).trans hbounds.1) hexp.le
      refine ⟨p * 2 ^ g, hnonneg, ?_, ?_⟩
      · have hsquare : (c * 2 ^ g : ℚ) ^ 2 ≤ (2 ^ 64) ^ 2 := by
          have hlt := (rounds_amount hm).lt_infinite_iff.mp hm
          rw [henc.amount_eq] at hlt
          linarith
        have hc := (pow_le_pow_iff_left₀ (by positivity) (by positivity) two_ne_zero).mp hsquare
        have hinfinite : infinite = 255 * 2 ^ 23 := rfl
        have he := henc.eq
        have hsmall : (2 : ℚ) ^ g ≤ 2 ^ (53 : ℤ) := zpow_le_zpow_right₀ one_le_two (by omega)
        have hp := mul_le_mul_of_nonneg_right hbounds.2.le hexp.le
        norm_num at hsmall
        linarith
      · have hnearest := hm'.nearest hnonneg hrank
        rw [factor_positive, one_mul] at hnearest
        simp only [UnpackedFloat.sqrt, hcore]
        exact hnearest

/-- Only finite numbers have finite roots. -/
theorem isFinite_of_isFinite_sqrt (h : x.sqrt.isFinite = true) : x.isFinite = true := by
  rw [sqrt_eq_packed] at h
  rw [isFinite_eq]
  contrapose! h
  generalize x.toModel.unpack = u at h ⊢
  have hsqrt : (UnpackedFloat.sqrt .binary32 u).isFinite = false := by
    cases u with
    | notANumber => rfl
    | infinity s => cases s <;> rfl
    | zero | finite => exact absurd rfl h
  simp [isFinite_packed hsqrt]

/-- **The root of a number that is not negative is finite just if the number is.** -/
theorem isFinite_sqrt_iff (h : 0 ≤ x) : x.sqrt.isFinite = true ↔ x.isFinite = true := by
  refine ⟨isFinite_of_isFinite_sqrt, fun hfinite => ?_⟩
  obtain ⟨p, hnonneg, hle, hp⟩ := (denotes_unpack hfinite).sqrt (zero_le_value h)
  exact hp.isFinite (by rwa [abs_of_nonneg hnonneg])

theorem zero_le_sqrt (h : 0 ≤ x) : 0 ≤ x.sqrt := by
  rw [sqrt_eq_packed]
  by_cases hfinite : x.isFinite = true
  · obtain ⟨p, hnonneg, hle, hp⟩ := (denotes_unpack hfinite).sqrt (zero_le_value h)
    exact hp.zero_le hnonneg
  · rw [unpack_of_rank_eq_infinite (rank_eq_infinite h hfinite)]
    decide

end Heightfield.Number
