import Heightfield.Proofs.Number.Nearest

/-!
# Rounding of significands

A result is computed as a significand, with two digits that say what is behind it, and an exponent.
It is shifted to the exponent that it is stored with, rounded there to an integer, and shifted once
more if that carries.

* `Number.Represents` relates a significand with two further digits to a rational.
* `Number.packed` is the number that is stored, and `Number.rank_packed_finite` says which bits that
  has.
* `Number.rank_roundWithAccuracy` and `Number.rank_round` say that what is stored is what the
  rational is rounded to, and `Number.exists_divCore` that a quotient has digits enough for that.
-/

namespace Heightfield.Number

open Float.Model Float.Model.UnpackedFloat

variable {q : ℚ} {k m t : ℕ} {e : ℤ} {s : Sign} {em : ExtendedMantissa}

/-! ## Digits behind a significand -/

/-- A significand and what its two further digits say about the rest stand for a rational. -/
def Represents (em : ExtendedMantissa) (q : ℚ) : Prop :=
  match em.roundBit, em.stickyBit with
  | false, false => q = em.mantissa
  | false, true => (em.mantissa : ℚ) < q ∧ q < em.mantissa + 1 / 2
  | true, false => q = em.mantissa + 1 / 2
  | true, true => (em.mantissa : ℚ) + 1 / 2 < q ∧ q < em.mantissa + 1

theorem Represents.bounds (h : Represents em q) : (em.mantissa : ℚ) ≤ q ∧ q < em.mantissa + 1 := by
  obtain ⟨k, round, sticky⟩ := em
  cases round <;> cases sticky <;> simp only [Represents] at h <;> constructor <;> linarith

/-- Rounding the significand gives the nearest integer. -/
theorem Represents.nearestInt (h : Represents em q) : NearestInt q em.roundedMantissa := by
  obtain ⟨k, round, sticky⟩ := em
  cases round <;> cases sticky <;> simp only [Represents] at h
  · exact h ▸ .self k
  · exact NearestInt.of_lt (k := k) (by linarith [h.1]) h.2
  · exact h ▸ .half k
  · refine NearestInt.of_lt (k := k + 1) ?_ ?_ <;> push_cast <;> linarith [h.1, h.2]

/-- The last digit of the significand joins the digits behind it. -/
theorem Represents.shiftRightOne (h : Represents em q) : Represents em.shiftRightOne (q / 2) := by
  obtain ⟨k, round, sticky⟩ := em
  have hdigit : (k : ℚ) = 2 * (k / 2 : ℕ) + (k % 2 : ℕ) := by
    exact_mod_cast (Nat.div_add_mod k 2).symm
  obtain hk | hk := Nat.mod_two_eq_zero_or_one k <;> rw [hk] at hdigit <;>
    cases round <;> cases sticky <;>
    simp [Represents, ExtendedMantissa.shiftRightOne, hk] at h ⊢ <;> push_cast at hdigit <;>
    first | linarith | constructor <;> linarith

theorem Represents.shiftRight (h : Represents em q) (n : ℕ) :
    Represents (em >>> n) (q / 2 ^ n) := by
  change Represents (n.repeat ExtendedMantissa.shiftRightOne em) _
  induction n with
  | zero => rwa [pow_zero, div_one]
  | succ n ih =>
    rw [pow_succ, ← div_div]
    exact ih.shiftRightOne

theorem mantissa_ofMantissaAndAccuracy (k : ℕ) (a : Accuracy) :
    (ExtendedMantissa.ofMantissaAndAccuracy k a).mantissa = k := by
  unfold ExtendedMantissa.ofMantissaAndAccuracy
  split <;> rfl

theorem represents_exact (k : ℕ) : Represents (.ofMantissaAndAccuracy k .exact) k := rfl

/-- The remainder of a division says what is behind the quotient. -/
theorem represents_fraction (k : ℕ) {num den : ℕ} (h : num < den) :
    Represents (.ofMantissaAndAccuracy k (accuracyOfFraction num den)) (k + num / den) := by
  have hden : (0 : ℚ) < den := by exact_mod_cast h.pos
  have hone : (num : ℚ) / den < 1 := by
    rw [div_lt_one hden]
    exact_mod_cast h
  unfold accuracyOfFraction
  split
  next hzero => simp [Represents, ExtendedMantissa.ofMantissaAndAccuracy, hzero]
  next hne =>
    have hnum : (0 : ℚ) < num := by exact_mod_cast Nat.pos_of_ne_zero hne
    have hpos := div_pos hnum hden
    rcases lt_trichotomy (2 * num) den with hlt | heq | hgt
    · rw [compare_lt_iff_lt.mpr hlt]
      have hhalf : (num : ℚ) / den < 1 / 2 := by
        rw [div_lt_iff₀ hden]
        have : (2 * num : ℚ) < den := by exact_mod_cast hlt
        linarith
      exact ⟨lt_add_of_pos_right _ hpos, by change (k : ℚ) + _ < k + 1 / 2; linarith⟩
    · rw [compare_eq_iff_eq.mpr heq]
      have hhalf : (num : ℚ) / den = 1 / 2 := by
        rw [div_eq_iff hden.ne']
        have : (2 * num : ℚ) = den := by exact_mod_cast heq
        linarith
      simp [Represents, ExtendedMantissa.ofMantissaAndAccuracy, hhalf]
    · rw [compare_gt_iff_gt.mpr hgt]
      have hhalf : 1 / 2 < (num : ℚ) / den := by
        rw [lt_div_iff₀ hden]
        have : (den : ℚ) < 2 * num := by exact_mod_cast hgt
        linarith
      refine ⟨?_, ?_⟩
      · change (k : ℚ) + 1 / 2 < k + _
        linarith
      · change (k : ℚ) + _ < k + 1
        linarith

/-! ## Putting numbers together -/

/-- The number that an unpacked one is stored as. -/
abbrev packed (u : UnpackedFloat) : Float32 := ⟨Float32.Model.pack u⟩

theorem toNat_packComponents (s : Sign) (a : BitVec 8) (b : BitVec 23) :
    (packComponents .binary32 s a b).toNat =
      (s.toBitVec.toNat * 2 ^ 8 + a.toNat) * 2 ^ 23 + b.toNat := by
  have happend {n : ℕ} (x : BitVec n) {l : ℕ} (y : BitVec l) :
      (x ++ y).toNat = x.toNat * 2 ^ l + y.toNat := by
    rw [BitVec.toNat_append, ← Nat.shiftLeft_add_eq_or_of_lt y.isLt, Nat.shiftLeft_eq]
  rw [packComponents, happend, happend]

/-- The bits of a stored number are its sign and its magnitude. -/
theorem rank_of_pack {u : UnpackedFloat} {a : BitVec 8} {b : BitVec 23}
    (h : UnpackedFloat.pack .binary32 u = packComponents .binary32 s a b) :
    rank (packed u) = s.apply (a.toNat * 2 ^ 23 + b.toNat : ℕ) := by
  have hbits : (packed u).toBits.toNat = (packComponents .binary32 s a b).toNat :=
    congrArg BitVec.toNat h
  have ha := a.isLt
  have hb := b.isLt
  rw [rank_eq, hbits, toNat_packComponents]
  cases s with
  | positive =>
    have hsign : Sign.positive.toBitVec.toNat = 0 := rfl
    rw [hsign, if_pos (by omega)]
    simp only [Sign.apply]
    omega
  | negative =>
    have hsign : Sign.negative.toBitVec.toNat = 1 := rfl
    rw [hsign, if_neg (by omega)]
    simp only [Sign.apply]
    omega

theorem rank_packed_zero (s : Sign) : rank (packed (.zero s)) = 0 := by
  have hpack : UnpackedFloat.pack .binary32 (.zero s) =
      packComponents .binary32 s (0#8) (0#23) := rfl
  have hbits : (0#8).toNat * 2 ^ 23 + (0#23).toNat = 0 := by decide
  rw [rank_of_pack hpack, hbits]
  cases s <;> rfl

theorem rank_packed_infinity (s : Sign) : rank (packed (.infinity s)) = s.apply infinite := by
  have hpack : UnpackedFloat.pack .binary32 (.infinity s) =
      packComponents .binary32 s (-1#8) (0#23) := rfl
  have hbits : (-1#8).toNat * 2 ^ 23 + (0#23).toNat = infinite := by decide
  rw [rank_of_pack hpack, hbits]

/-- A number that is put together is stored as the bits that it encodes, unless they are too
many. -/
theorem rank_packed_finite (h : Encodes m k e) (hpos : 0 < k) :
    rank (packed (.finite s k e hpos)) = s.apply (min m infinite : ℕ) := by
  obtain ⟨heq, -, hlt, hle, hsubnormal⟩ := h
  have hpack : UnpackedFloat.pack .binary32 (.finite s k e hpos) =
      if 2 ^ 8 ≤ (e + 150).toNat + 1 then packComponents .binary32 s (-1#8) (0#23)
      else if k.log2 + 1 = 24 then
        packComponents .binary32 s (BitVec.ofNat 8 (e + 150).toNat) (BitVec.ofNat 23 k)
      else packComponents .binary32 s (0#8) (BitVec.ofNat 23 k) := by
    have hbias : e + 127 + 23 = e + 150 := by omega
    rw [← hbias]
    rfl
  have hlog : k.log2 + 1 = 24 ↔ 2 ^ 23 ≤ k := by
    rw [← Nat.le_log2 hpos.ne']
    have := (Nat.log2_lt hpos.ne').mpr hlt
    omega
  have hinfinite : infinite = 0x7f800000 := rfl
  split_ifs at hpack with hlarge hnormal
  · have hbits : (-1#8).toNat * 2 ^ 23 + (0#23).toNat = infinite := by decide
    have hmin : min m infinite = infinite := by omega
    rw [rank_of_pack hpack, hbits, hmin]
  · rw [hlog] at hnormal
    have hmin : min m infinite = (e + 150).toNat % 2 ^ 8 * 2 ^ 23 + k % 2 ^ 23 := by omega
    rw [rank_of_pack hpack, BitVec.toNat_ofNat, BitVec.toNat_ofNat, hmin]
  · rw [hlog] at hnormal
    have hmin : min m infinite = (0#8).toNat * 2 ^ 23 + k % 2 ^ 23 := by
      have := hsubnormal (not_le.mp hnormal)
      rw [BitVec.toNat_ofNat]
      omega
    rw [rank_of_pack hpack, BitVec.toNat_ofNat k 23, hmin]

/-! ## Rounding -/

/-- The exponent of a significand that is scaled, counted from the least one. -/
def lead (k : ℕ) (e : ℤ) : ℕ := (k.log2 + 126 + e).toNat

theorem targetExponent_eq (k : ℕ) (e : ℤ) :
    Format.binary32.targetExponent (totalExponent k e) = lead k e - 149 := by
  have hmin : Format.binary32.minExponent = -149 := by decide
  have hbits : (Format.binary32.mantissaBits : ℤ) = 24 := by decide
  simp only [Format.targetExponent, totalExponent, hmin, hbits, lead]
  omega

/-- A significand with many digits or a small exponent is not too coarse to be rounded. -/
theorem le_lead (h : 2 ^ 23 ≤ k ∨ e ≤ -149) : e ≤ lead k e - 149 := by
  rw [lead]
  rcases h with hk | he
  · have := (Nat.le_log2 (by omega : k ≠ 0)).mpr hk
    omega
  · omega

/-- What a significand stands for has its exponent. -/
theorem scaled_lead (hle : (k : ℚ) ≤ q) (hlt : q < k + 1) (he : e ≤ lead k e - 149) :
    Scaled (q * 2 ^ e) (lead k e) := by
  have hpow : (0 : ℚ) < 2 ^ e := zpow_pos two_pos _
  have hunit (n : ℕ) : 2 ^ n * unit (lead k e) = (2 : ℚ) ^ (n + (lead k e - 149 : ℤ)) := by
    rw [unit, ← zpow_natCast, zpow_add₀ two_ne_zero]
  rw [lead] at he
  refine ⟨?_, fun hne => ?_⟩
  · have hk : (k : ℚ) + 1 ≤ 2 ^ (k.log2 + 1) := by exact_mod_cast Nat.lt_log2_self
    calc q * 2 ^ e < 2 ^ (k.log2 + 1) * 2 ^ e := mul_lt_mul_of_pos_right (by linarith) hpow
      _ = 2 ^ ((k.log2 + 1 : ℕ) + e) := by rw [zpow_add₀ two_ne_zero, zpow_natCast]
      _ ≤ 2 ^ ((24 : ℕ) + (lead k e - 149 : ℤ)) :=
        zpow_le_zpow_right₀ one_le_two (by rw [lead]; omega)
      _ = 2 ^ 24 * unit (lead k e) := (hunit 24).symm
  · rw [lead] at hne
    have hpos : k ≠ 0 := by
      rintro rfl
      rw [Nat.log2_zero] at he hne
      omega
    have hk : (2 : ℚ) ^ k.log2 ≤ k := by exact_mod_cast Nat.log2_self_le hpos
    calc 2 ^ 23 * unit (lead k e) = 2 ^ ((23 : ℕ) + (lead k e - 149 : ℤ)) := hunit 23
      _ = 2 ^ (k.log2 + e) := by rw [lead]; congr 1; omega
      _ = 2 ^ k.log2 * 2 ^ e := by rw [zpow_add₀ two_ne_zero, zpow_natCast]
      _ ≤ q * 2 ^ e := mul_le_mul_of_nonneg_right (hk.trans hle) hpow.le

/-- A significand that has been shifted to its exponent stands for what it stood for. -/
theorem represents_shift {a : Accuracy} (h : Represents (.ofMantissaAndAccuracy k a) q)
    (he : e ≤ lead k e - 149) :
    ∃ em, shiftToTargetExponent .binary32 k e a = (em, (lead k e - 149 : ℤ)) ∧
      Represents em (q * 2 ^ e / unit (lead k e)) := by
  obtain ⟨n, hn⟩ := Int.eq_ofNat_of_zero_le (sub_nonneg.mpr he)
  refine ⟨ExtendedMantissa.ofMantissaAndAccuracy k a >>> n, ?_, ?_⟩
  · have htoNat : (lead k e - 149 - e : ℤ).toNat = n := by omega
    have hexp : e + n = lead k e - 149 := by omega
    simp only [shiftToTargetExponent, targetExponent_eq, shiftToExponent, htoNat, hexp]
  · have hexp : (lead k e - 149 : ℤ) = n + e := by omega
    have hscale : q * 2 ^ e / unit (lead k e) = q / 2 ^ n := by
      rw [unit, hexp, zpow_add₀ two_ne_zero, zpow_natCast]
      exact mul_div_mul_right q _ (zpow_ne_zero e two_ne_zero)
    rw [hscale]
    exact h.shiftRight n

/-- A carry out of the significand moves on to the exponent. -/
theorem exists_carry (hk : k ≤ 2 ^ 24) (ht : t ≠ 0 → 2 ^ 23 ≤ k) :
    ∃ l f, shiftToTargetExponent .binary32 k ((t : ℤ) - 149) .exact = (⟨l, false, false⟩, f) ∧
      (l = 0 → t * 2 ^ 23 + k = 0) ∧ (0 < l → Encodes (t * 2 ^ 23 + k) l f) := by
  rcases hk.eq_or_lt with rfl | hlt
  · have hlead : lead (2 ^ 24) (t - 149) = t + 1 := by
      rw [lead, Nat.log2_two_pow]
      omega
    have htoNat : ((t + 1 : ℕ) - 149 - (t - 149) : ℤ).toNat = 1 := by omega
    refine ⟨2 ^ 23, t + 1 - 149, ?_, by omega, fun _ => ⟨?_, ?_, ?_, ?_, ?_⟩⟩
    · simp only [shiftToTargetExponent, targetExponent_eq, hlead, shiftToExponent, htoNat,
        Prod.mk.injEq]
      exact ⟨rfl, by omega⟩
    all_goals omega
  · have hlead : lead k (t - 149) ≤ t := by
      have hlog : k.log2 ≤ 23 := by
        rcases Nat.eq_zero_or_pos k with rfl | hpos
        · simp
        · exact Nat.le_of_lt_succ ((Nat.log2_lt hpos.ne').mpr hlt)
      rw [lead]
      omega
    have htoNat : (lead k (t - 149) - 149 - (t - 149) : ℤ).toNat = 0 := by omega
    refine ⟨k, t - 149, ?_, by omega, fun _ => ⟨?_, ?_, ?_, ?_, ?_⟩⟩
    · simp only [shiftToTargetExponent, targetExponent_eq, shiftToExponent, htoNat, Prod.mk.injEq]
      exact ⟨rfl, by omega⟩
    all_goals omega

/-- **A significand with an accuracy is rounded correctly.** -/
theorem rank_roundWithAccuracy {a : Accuracy} (s : Sign)
    (h : Represents (.ofMantissaAndAccuracy k a) q) (he : e ≤ lead k e - 149) :
    ∃ m, Rounds (q * 2 ^ e) m ∧
      rank (packed (roundWithAccuracy .binary32 s k e a)) = s.apply m := by
  obtain ⟨em, hshift, hem⟩ := represents_shift h he
  have hbounds := h.bounds
  rw [mantissa_ofMantissaAndAccuracy] at hbounds
  have hscaled := scaled_lead hbounds.1 hbounds.2 he
  obtain ⟨hbound, hnormal⟩ := hem.nearestInt.bounds hscaled
  obtain ⟨l, f, hcarry, hzero, hencodes⟩ := exists_carry hbound hnormal
  refine ⟨_, ⟨_, _, hscaled, hem.nearestInt, rfl⟩, ?_⟩
  simp only [roundWithAccuracy, hshift, hcarry]
  split
  next hl =>
    rw [rank_packed_zero, hzero hl]
    cases s <;> rfl
  next hl => exact rank_packed_finite (hencodes (Nat.pos_of_ne_zero hl)) _

/-- The exponent of a significand that is shifted to the left goes down. -/
theorem lead_shiftLeft (hk : 0 < k) (n : ℕ) : lead (k <<< n) (e - n) = lead k e := by
  have hlog : (k <<< n).log2 = k.log2 + n := by
    obtain ⟨hle, hlt⟩ := (Nat.log2_eq_iff hk.ne').mp rfl
    rw [Nat.shiftLeft_eq, Nat.log2_eq_iff (by positivity), pow_add, Nat.add_right_comm, pow_add]
    exact ⟨Nat.mul_le_mul_right _ hle, Nat.mul_lt_mul_of_pos_right hlt (by positivity)⟩
  rw [lead, lead, hlog]
  congr 1
  push_cast
  ring

/-- A significand that is shifted to the left stands for what it stood for. -/
theorem decreaseExponent_eq (k : ℕ) (e f : ℤ) :
    ∃ n : ℕ, decreaseExponent k e f = (k <<< n, e - n) ∧ e - n = min e f ∧
      ((k <<< n : ℕ) : ℚ) * 2 ^ (e - n) = k * 2 ^ e := by
  refine ⟨(e - f).toNat, rfl, by omega, ?_⟩
  rw [Nat.shiftLeft_eq, Nat.cast_mul, Nat.cast_pow, Nat.cast_ofNat, mul_assoc, ← zpow_natCast,
    ← zpow_add₀ two_ne_zero]
  congr 2
  ring

/-- A significand is rounded correctly, at whatever exponent it is given. -/
theorem rank_round (s : Sign) (hk : 0 < k) (e : ℤ) :
    ∃ m, Rounds (k * 2 ^ e) m ∧
      rank (packed (UnpackedFloat.round .binary32 s k e)) = s.apply m := by
  obtain ⟨n, hn, hexp, hvalue⟩ := decreaseExponent_eq k e (lead k e - 149)
  simp only [UnpackedFloat.round, targetExponent_eq, hn]
  rw [← hvalue]
  exact rank_roundWithAccuracy s (represents_exact _) (by rw [lead_shiftLeft hk]; omega)

/-- A quotient has digits enough to be rounded, and its remainder says what is behind them. -/
theorem exists_divCore {l : ℕ} (e f : ℤ) (hk : 0 < k) (hl : 0 < l) :
    ∃ c g a, divCore .binary32 k e l f = (c, g, a) ∧ g ≤ lead c g - 149 ∧
      ∃ p, Represents (.ofMantissaAndAccuracy c a) p ∧ p * 2 ^ g = k * 2 ^ e / (l * 2 ^ f) := by
  have hmin : Format.binary32.minExponent = -149 := by decide
  have hbits : (Format.binary32.mantissaBits : ℤ) = 24 := by decide
  let g := min (e - f) (Format.binary32.targetExponent (totalExponent k e - totalExponent l f))
  obtain ⟨n, hn⟩ := Int.eq_ofNat_of_zero_le (by omega : 0 ≤ e - f - g)
  have hg : g = e - f - n := by omega
  have hcore : divCore .binary32 k e l f =
      (k * 2 ^ n / l, g, accuracyOfFraction (k * 2 ^ n % l) l) := by
    have htoNat : (e - f - g).toNat = n := by omega
    rw [← Nat.shiftLeft_eq, ← htoNat]
    rfl
  refine ⟨_, _, _, hcore, le_lead ?_, _, represents_fraction _ (Nat.mod_lt _ hl), ?_⟩
  · by_cases hsmall : g ≤ -149
    · exact .inr hsmall
    · left
      have htotal : g ≤ k.log2 - l.log2 + (e - f) - 24 := by
        simp only [g, Format.targetExponent, hmin, hbits, totalExponent] at hsmall ⊢
        omega
      have hshift : l.log2 + 24 ≤ k.log2 + n := by omega
      rw [Nat.le_div_iff_mul_le hl]
      calc 2 ^ 23 * l ≤ 2 ^ 23 * 2 ^ (l.log2 + 1) :=
          Nat.mul_le_mul_left _ Nat.lt_log2_self.le
        _ = 2 ^ (l.log2 + 24) := by rw [← pow_add]; congr 1; omega
        _ ≤ 2 ^ (k.log2 + n) := Nat.pow_le_pow_right two_pos hshift
        _ = 2 ^ k.log2 * 2 ^ n := pow_add _ _ _
        _ ≤ k * 2 ^ n := Nat.mul_le_mul_right _ (Nat.log2_self_le hk.ne')
  · have hlq : (l : ℚ) ≠ 0 := by exact_mod_cast hl.ne'
    have hdiv : ((k * 2 ^ n / l : ℕ) : ℚ) + ((k * 2 ^ n % l : ℕ) : ℚ) / l = k * 2 ^ n / l := by
      rw [← mul_div_cancel_left₀ ((k * 2 ^ n / l : ℕ) : ℚ) hlq, ← add_div]
      congr 1
      exact_mod_cast Nat.div_add_mod (k * 2 ^ n) l
    rw [hdiv, hg, zpow_sub₀ two_ne_zero, zpow_sub₀ two_ne_zero, zpow_natCast]
    field_simp

end Heightfield.Number
