import Heightfield.Proofs.Number.Significand

/-!
# Correctly rounded arithmetic

The result of an operation on finite numbers is what the exact result is rounded to. The sign of a
zero does not matter to that. An overflow makes a result infinite, from where it does not come back:
a positive factor leaves it infinite, and the factor zero makes it a NaN.

* `Number.Denotes` relates the parts of a finite number to the rational that they stand for.
* `Number.nearest_add`, `Number.nearest_sub`, `Number.nearest_mul` and `Number.nearest_div` are
  about finite numbers, `Number.nearest_ofNat` about natural ones.
* `Number.rank_mul_of_infinite` and `Number.isNaN_mul_of_infinite` are about infinite ones.
-/

namespace Heightfield.Number

open Float.Model Float.Model.UnpackedFloat

variable {q r : ℚ} {k m : ℕ} {e : ℤ} {s : Sign}

/-! ## Signs -/

/-- A sign as a factor. -/
def factor (s : Sign) : ℚ := (s.apply 1 : ℤ)

@[simp] theorem factor_negative : factor .negative = -1 := by simp [factor, Sign.apply]

@[simp] theorem factor_positive : factor .positive = 1 := by simp [factor, Sign.apply]

@[simp] theorem factor_mul (s s' : Sign) : factor (s * s') = factor s * factor s' := by
  have happly : (s * s').apply 1 = s.apply 1 * s'.apply 1 := by cases s <;> cases s' <;> rfl
  rw [factor, happly, Int.cast_mul]
  rfl

@[simp] theorem factor_div (s s' : Sign) : factor (s / s') = factor s / factor s' :=
  (factor_mul s s').trans (by cases s' <;> simp [div_neg])

@[simp] theorem factor_neg (s : Sign) : factor (-s) = -factor s := by
  have happly : (-s).apply 1 = -s.apply 1 := by cases s <;> rfl
  rw [factor, happly, Int.cast_neg]
  rfl

theorem cast_apply (s : Sign) (n : ℤ) : ((s.apply n : ℤ) : ℚ) = factor s * n := by
  cases s <;> simp [Sign.apply]

variable {x y : Float32}

/-- The zero is rounded to the zeros. -/
theorem nearest_zero (h : rank x = 0) : Nearest 0 x :=
  ⟨0, by simpa using rounds_zero, by simpa using h⟩

theorem Nearest.rank_eq_zero (h : Nearest 0 x) : rank x = 0 :=
  h.rank_eq (nearest_zero (x := 0) (by decide))

/-- A rational with a sign is rounded without it. -/
theorem Rounds.nearest (h : Rounds q m) (hq : 0 ≤ q) (hrank : rank x = s.apply m) :
    Nearest (factor s * q) x := by
  rcases hq.eq_or_lt with rfl | hpos
  · have hm := h.mono rounds_zero le_rfl
    obtain rfl : m = 0 := by omega
    rw [mul_zero]
    exact nearest_zero (by cases s <;> exact hrank)
  · refine ⟨m, ?_, ?_⟩
    · cases s <;> simpa [abs_of_pos hpos] using h
    · cases s <;> simp [hrank, Sign.apply, hpos, hpos.le]

/-- What a sum of significands is normalised to is rounded correctly. -/
theorem nearest_normalize (a e : ℤ) (s : Sign) :
    Nearest (a * 2 ^ e) (packed (UnpackedFloat.normalize .binary32 a e s)) := by
  have hpow : (0 : ℚ) < 2 ^ e := zpow_pos two_pos _
  unfold UnpackedFloat.normalize
  rcases lt_trichotomy a 0 with hneg | rfl | hpos
  · rw [compare_lt_iff_lt.mpr hneg]
    obtain ⟨m, hm, hrank⟩ := rank_round .negative (k := (-a).toNat) (by omega) e
    have hvalue : (a : ℚ) = factor .negative * (-a).toNat := by
      have : ((-a).toNat : ℤ) = -a := by omega
      rw [← Int.cast_natCast, this]
      simp
    rw [hvalue, mul_assoc]
    exact hm.nearest (by positivity) hrank
  · rw [compare_eq_iff_eq.mpr rfl, Int.cast_zero, zero_mul]
    exact nearest_zero (rank_packed_zero s)
  · rw [compare_gt_iff_gt.mpr hpos]
    obtain ⟨m, hm, hrank⟩ := rank_round .positive (k := a.toNat) (by omega) e
    have hvalue : (a : ℚ) = factor .positive * a.toNat := by
      have : (a.toNat : ℤ) = a := by omega
      rw [← Int.cast_natCast, this]
      simp
    rw [hvalue, mul_assoc]
    exact hm.nearest (by positivity) hrank

/-! ## Operations -/

/-- The unpacked number is finite, in the form that numbers are taken apart into, and stands for the
rational. -/
inductive Denotes : UnpackedFloat → ℚ → Prop where
  | zero (s : Sign) : Denotes (.zero s) 0
  | finite {s : Sign} {m k : ℕ} {e : ℤ} {hpos : 0 < k} (henc : Encodes m k e) (hm : m < infinite) :
      Denotes (.finite s k e hpos) (factor s * (k * 2 ^ e))

variable {u v : UnpackedFloat}

/-- A value is that of the magnitude, with the sign. -/
theorem value_eq_factor (x : Float32) : value x = factor (sign x) * amount (magnitude x) := by
  rw [value, natAbs_rank, rank]
  rcases (magnitude x).eq_zero_or_pos with hzero | hpos
  · rw [hzero, amount_zero, mul_zero, mul_zero]
  · have hsign : (magnitude x : ℤ).sign = 1 := Int.sign_eq_one_of_pos (by omega)
    cases sign x <;> simp [Sign.apply, hsign]

/-- What a finite number is taken apart into stands for its value. -/
theorem denotes_unpack (h : x.isFinite = true) : Denotes x.toModel.unpack (value x) := by
  have hunpacks := unpacks x
  have hvalue := value_eq_factor x
  rw [isFinite_iff, natAbs_rank] at h
  generalize x.toModel.unpack = u at hunpacks ⊢
  cases hunpacks with
  | notANumber h' => omega
  | infinity h' => omega
  | zero h' =>
    rw [hvalue, h', amount_zero, mul_zero]
    exact .zero _
  | finite _ hm =>
    rw [hvalue, hm.amount_eq]
    exact .finite hm h

namespace Denotes

/-- A number that is put together again is not rounded any further. -/
theorem nearest (h : Denotes u q) : Nearest q (packed u) := by
  cases h with
  | zero s => exact nearest_zero (rank_packed_zero s)
  | finite henc hm =>
    have hrounds := rounds_amount hm
    rw [henc.amount_eq] at hrounds
    refine hrounds.nearest (by positivity) ?_
    rw [rank_packed_finite henc, min_eq_left hm.le]

theorem neg (h : Denotes u q) : Denotes u.neg (-q) := by
  cases h with
  | zero s =>
    rw [neg_zero]
    exact .zero _
  | finite henc hm =>
    rw [← neg_mul, ← factor_neg]
    exact .finite henc hm

theorem add (h : Denotes u q) (h' : Denotes v r) :
    Nearest (q + r) (packed (UnpackedFloat.add .binary32 u v)) := by
  cases h with
  | zero s =>
    rw [zero_add]
    cases h' with
    | zero s' =>
      obtain ⟨t, ht⟩ : ∃ t, UnpackedFloat.add .binary32 (.zero s) (.zero s') = .zero t := by
        cases s <;> cases s' <;> exact ⟨_, rfl⟩
      rw [ht]
      exact nearest_zero (rank_packed_zero t)
    | finite henc hm =>
      simp only [UnpackedFloat.add]
      exact (Denotes.finite henc hm).nearest
  | @finite s _ k e _ henc hm =>
    cases h' with
    | zero s' =>
      simp only [add_zero, UnpackedFloat.add]
      exact (Denotes.finite henc hm).nearest
    | @finite s' _ l f _ henc' hm' =>
      obtain ⟨n, hn, hexp, hvalue⟩ := decreaseExponent_eq k e (min e f)
      obtain ⟨n', hn', hexp', hvalue'⟩ := decreaseExponent_eq l f (min e f)
      have hsum : factor s * (k * 2 ^ e) + factor s' * (l * 2 ^ f) =
          (s.apply (k <<< n : ℕ) + s'.apply (l <<< n' : ℕ) : ℤ) * 2 ^ min e f := by
        rw [hexp, (by omega : min e (min e f) = min e f)] at hvalue
        rw [hexp', (by omega : min f (min e f) = min e f)] at hvalue'
        rw [← hvalue, ← hvalue', Int.cast_add, cast_apply, cast_apply, Int.cast_natCast,
          Int.cast_natCast]
        ring
      rw [hsum]
      simp only [UnpackedFloat.add, hn, hn']
      exact nearest_normalize _ _ _

theorem mul (h : Denotes u q) (h' : Denotes v r) :
    Nearest (q * r) (packed (UnpackedFloat.mul .binary32 u v)) := by
  cases h with
  | zero s =>
    rw [zero_mul]
    cases h' <;> exact nearest_zero (rank_packed_zero _)
  | @finite s _ k e _ henc =>
    cases h' with
    | zero s' =>
      rw [mul_zero]
      exact nearest_zero (rank_packed_zero _)
    | @finite s' _ l f _ henc' =>
      have he : e + f ≤ lead (k * l) (e + f) - 149 := by
        -- a product of two significands of few digits has a small exponent
        refine le_lead ?_
        rcases le_or_gt (2 ^ 23) k with hk | hk
        · exact .inl (hk.trans (Nat.le_mul_of_pos_right k henc'.pos))
        · rcases le_or_gt (2 ^ 23) l with hl | hl
          · exact .inl (hl.trans (Nat.le_mul_of_pos_left l henc.pos))
          · have := henc.subnormal hk
            have := henc'.subnormal hl
            omega
      obtain ⟨m, hm, hrank⟩ := rank_roundWithAccuracy (s * s') (represents_exact (k * l)) he
      have hproduct : factor s * (k * 2 ^ e) * (factor s' * (l * 2 ^ f)) =
          factor (s * s') * ((k * l : ℕ) * 2 ^ (e + f)) := by
        rw [factor_mul, zpow_add₀ two_ne_zero, Nat.cast_mul]
        ring
      rw [hproduct]
      exact hm.nearest (by positivity) hrank

theorem div (h : Denotes u q) (h' : Denotes v r) (hr : r ≠ 0) :
    Nearest (q / r) (packed (UnpackedFloat.div .binary32 u v)) := by
  cases h' with
  | zero s' => exact absurd rfl hr
  | @finite s' _ l f _ henc' =>
    cases h with
    | zero s =>
      rw [zero_div]
      exact nearest_zero (rank_packed_zero _)
    | @finite s _ k e _ henc =>
      obtain ⟨c, g, a, hcore, he, p, hp, hvalue⟩ := exists_divCore e f henc.pos henc'.pos
      obtain ⟨m, hm, hrank⟩ := rank_roundWithAccuracy (s / s') hp he
      have hquotient : factor s * (k * 2 ^ e) / (factor s' * (l * 2 ^ f)) =
          factor (s / s') * (p * 2 ^ g) := by
        rw [hvalue, factor_div, mul_div_mul_comm]
      rw [hquotient]
      simp only [UnpackedFloat.div, hcore]
      exact hm.nearest (hvalue ▸ by positivity) hrank

end Denotes

/-- A difference is the sum with the opposite. -/
theorem sub_eq_add (u v : UnpackedFloat) :
    UnpackedFloat.sub .binary32 u v = UnpackedFloat.add .binary32 u v.neg := by
  have happly (s : Sign) (n : ℤ) : (-s).apply n = -s.apply n := by
    cases s
    · exact (neg_neg n).symm
    · rfl
  cases u <;> cases v
  case finite.finite =>
    simp only [UnpackedFloat.sub, UnpackedFloat.neg, UnpackedFloat.add, happly, sub_eq_add_neg]
  all_goals rfl

section

variable (hx : x.isFinite = true) (hy : y.isFinite = true)
include hx hy

/-- **Sums are rounded correctly.** -/
theorem nearest_add : Nearest (value x + value y) (x + y) :=
  (denotes_unpack hx).add (denotes_unpack hy)

/-- **Differences are rounded correctly.** -/
theorem nearest_sub : Nearest (value x - value y) (x - y) := by
  have hadd := (denotes_unpack hx).add (denotes_unpack hy).neg
  rwa [← sub_eq_add, ← sub_eq_add_neg] at hadd

/-- **Products are rounded correctly.** -/
theorem nearest_mul : Nearest (value x * value y) (x * y) :=
  (denotes_unpack hx).mul (denotes_unpack hy)

/-- **Quotients are rounded correctly.** -/
theorem nearest_div (hne : value y ≠ 0) : Nearest (value x / value y) (x / y) :=
  (denotes_unpack hx).div (denotes_unpack hy) hne

end

/-! ## Infinities -/

/-- A positive rank is the magnitude. -/
theorem unpacks_of_rank_pos (h : 0 < rank x) :
    ∃ m : ℕ, rank x = m ∧ Unpacks .positive m x.toModel.unpack := by
  have hunpacks := unpacks x
  have hrank : rank x = (sign x).apply (magnitude x) := rfl
  cases hs : sign x with
  | positive =>
    rw [hs] at hunpacks hrank
    exact ⟨magnitude x, hrank, hunpacks⟩
  | negative =>
    rw [hs] at hrank
    have : rank x = -(magnitude x : ℤ) := hrank
    omega

theorem unpack_of_rank_eq_infinite (h : rank x = infinite) :
    x.toModel.unpack = .infinity .positive := by
  obtain ⟨m, hm, hunpacks⟩ := unpacks_of_rank_pos (by rw [h]; decide)
  generalize x.toModel.unpack = u at hunpacks ⊢
  cases hunpacks with
  | infinity => rfl
  | notANumber h' => omega
  | zero h' =>
    have : 0 < infinite := by decide
    omega
  | finite h' _ => omega

theorem exists_unpack_of_rank_eq_zero (h : rank x = 0) : ∃ s, x.toModel.unpack = .zero s := by
  have hunpacks := unpacks x
  have hmagnitude := natAbs_rank x
  generalize x.toModel.unpack = u at hunpacks ⊢
  cases hunpacks with
  | zero => exact ⟨_, rfl⟩
  | finite _ henc =>
    have := henc.magnitude_pos
    omega
  | notANumber h' => omega
  | infinity h' =>
    have : 0 < infinite := by decide
    omega

theorem unpack_of_isNaN (h : x.isNaN = true) : x.toModel.unpack = .notANumber := by
  have h : x.toModel.unpack.isNaN = true := h
  generalize x.toModel.unpack = u at h ⊢
  cases u <;> first | rfl | cases h

theorem isNaN_packed : (packed .notANumber).isNaN = true := by decide

theorem mul_eq_packed (x y : Float32) :
    x * y = packed (UnpackedFloat.mul .binary32 x.toModel.unpack y.toModel.unpack) := rfl

theorem add_eq_packed (x y : Float32) :
    x + y = packed (UnpackedFloat.add .binary32 x.toModel.unpack y.toModel.unpack) := rfl

/-- An infinite number stays infinite when it is multiplied by a positive one. -/
theorem rank_mul_of_infinite (hx : rank x = infinite) (hy : y.isFinite = true)
    (hpos : 0 < rank y) : rank (x * y) = infinite := by
  obtain ⟨m, hm, hunpacks⟩ := unpacks_of_rank_pos hpos
  rw [isFinite_iff] at hy
  rw [mul_eq_packed, unpack_of_rank_eq_infinite hx]
  generalize y.toModel.unpack = u at hunpacks ⊢
  cases hunpacks with
  | finite => exact rank_packed_infinity .positive
  | notANumber | infinity | zero => omega

/-- An infinite number times a zero is no number. -/
theorem isNaN_mul_of_infinite (hx : rank x = infinite) (hy : rank y = 0) :
    (x * y).isNaN = true := by
  obtain ⟨s, hs⟩ := exists_unpack_of_rank_eq_zero hy
  rw [mul_eq_packed, unpack_of_rank_eq_infinite hx, hs]
  exact isNaN_packed

theorem isNaN_add (x : Float32) (hy : y.isNaN = true) : (x + y).isNaN = true := by
  rw [add_eq_packed, unpack_of_isNaN hy]
  cases x.toModel.unpack <;> exact isNaN_packed

/-- A finite number does not matter next to an infinite one. -/
theorem rank_add_of_infinite (hx : x.isFinite = true) (hy : rank y = infinite) :
    rank (x + y) = infinite := by
  have hdenotes := denotes_unpack hx
  rw [add_eq_packed, unpack_of_rank_eq_infinite hy]
  generalize x.toModel.unpack = u at hdenotes ⊢
  generalize value x = q at hdenotes
  cases hdenotes <;> exact rank_packed_infinity .positive

/-! ## Natural numbers -/

/-- A small natural number is converted in one step, and then multiplied by one. -/
theorem ofNat_of_lt {n : ℕ} (h : n < 2 ^ 23) :
    Float32.ofNat n = packed (UnpackedFloat.normalize .binary32 n 0 .positive) *
      Float32.ofBits 0x3f800000 := by
  have hn : n.toUInt64.toNat = n := by
    rw [Nat.toUInt64, UInt64.toNat_ofNat']
    omega
  have hconvert : n.toUInt64.toFloat32 =
      packed (UnpackedFloat.normalize .binary32 n 0 .positive) := by
    conv_rhs => rw [← hn]
    rfl
  rw [← hconvert]
  change Float32.ofScientific n false 0 = _
  rw [Float32.ofScientific, dif_pos ⟨h, by decide⟩]
  rfl

/-- A large natural number is rounded as it is. -/
theorem ofNat_of_le {n : ℕ} (h : 2 ^ 23 ≤ n) :
    Float32.ofNat n = packed (roundWithAccuracy .binary32 .positive (n <<< 24) (-24) .exact) := by
  have hne : n ≠ 0 := by omega
  have hlarge : ¬ (0 : ℤ) > 2 ^ Format.binary32.exponentBits := by decide
  have hsmall : ¬ (0 : ℤ) < -(2 ^ Format.binary32.exponentBits + n.log2) := by
    change ¬ (0 : ℤ) < -(2 ^ 8 + n.log2)
    omega
  have hzero : Int.ofNat 0 = 0 := rfl
  have hone : 10 ^ (0 : ℤ).toNat = 1 := rfl
  have hsign : Sign.positive * Sign.positive = Sign.positive := rfl
  change Float32.ofScientific n false 0 = _
  rw [Float32.ofScientific, dif_neg (by omega)]
  simp only [Bool.false_eq_true, if_false, Float32.Model.ofScientific, UnpackedFloat.ofScientific,
    dif_neg hne, hzero, if_neg hlarge, if_neg hsmall, if_pos le_rfl, UnpackedFloat.mul, hone,
    mul_one, add_zero, hsign]
  rfl

theorem value_one : value (Float32.ofBits 0x3f800000) = 1 := by
  rw [value_of_rank_eq (m := 0x3f800000) (by decide)]
  norm_num [amount, unit]

/-- **Natural numbers are rounded correctly.** -/
theorem nearest_ofNat (n : ℕ) : Nearest n (Float32.ofNat n) := by
  rcases lt_or_ge n (2 ^ 23) with hlt | hle
  · have hn := nearest_normalize n 0 .positive
    rw [Int.cast_natCast, zpow_zero, mul_one] at hn
    have hsmall : |(n : ℚ)| ≤ 2 ^ 127 := by
      rw [Nat.abs_cast]
      exact_mod_cast hlt.le.trans (Nat.pow_le_pow_right two_pos (by decide))
    have hfinite := hn.isFinite hsmall
    have hmul := nearest_mul hfinite (by decide : (Float32.ofBits 0x3f800000).isFinite)
    rw [value_one, mul_one] at hmul
    rw [ofNat_of_lt hlt]
    exact hn.congr (hmul.rank_eq (nearest_value hfinite))
  · have hlarge : 2 ^ 23 ≤ n <<< 24 := by
      rw [Nat.shiftLeft_eq]
      omega
    obtain ⟨m, hm, hrank⟩ := rank_roundWithAccuracy .positive (represents_exact (n <<< 24))
      (le_lead (e := -24) (.inl hlarge))
    have hvalue : ((n <<< 24 : ℕ) : ℚ) * 2 ^ (-24 : ℤ) = n := by
      rw [Nat.shiftLeft_eq, Nat.cast_mul, mul_assoc]
      norm_num
    rw [hvalue] at hm
    rw [ofNat_of_le hle]
    simpa using hm.nearest (Nat.cast_nonneg n) hrank

variable {m n : ℕ}

theorem isFinite_ofNat (hn : n ≤ 2 ^ 64) : (Float32.ofNat n).isFinite = true := by
  refine (nearest_ofNat n).isFinite ?_
  rw [Nat.abs_cast]
  exact_mod_cast hn.trans (by decide)

/-- Natural numbers keep their order when they are rounded. -/
theorem value_ofNat_le (hmn : m ≤ n) (hn : n ≤ 2 ^ 64) :
    value (Float32.ofNat m) ≤ value (Float32.ofNat n) :=
  (value_le_value_iff (isFinite_ofNat (hmn.trans hn)) (isFinite_ofNat hn)).mpr
    ((nearest_ofNat m).mono (nearest_ofNat n) (by exact_mod_cast hmn))

@[simp] theorem value_ofNat_zero : value (Float32.ofNat 0) = 0 :=
  value_of_rank_eq_zero (by decide)

theorem zero_le_value_ofNat (hn : n ≤ 2 ^ 64) : 0 ≤ value (Float32.ofNat n) :=
  value_ofNat_zero.symm.trans_le (value_ofNat_le n.zero_le hn)

theorem one_le_value_ofNat (hpos : 0 < n) (hn : n ≤ 2 ^ 64) : 1 ≤ value (Float32.ofNat n) := by
  have hone : value (Float32.ofNat 1) = 1 := by
    rw [value_of_rank_eq (m := 0x3f800000) (by decide)]
    norm_num [amount, unit]
  exact hone.symm.trans_le (value_ofNat_le hpos hn)

theorem value_ofNat_le_word (hn : n ≤ 2 ^ 64) : value (Float32.ofNat n) ≤ 2 ^ 64 := by
  have hword : value (Float32.ofNat (2 ^ 64)) = 2 ^ 64 := by
    rw [value_of_rank_eq (m := 0x5f800000) (by decide +kernel)]
    norm_num [amount, unit]
  exact (value_ofNat_le hn le_rfl).trans_eq hword

end Heightfield.Number
