import Heightfield.Proofs.Shader.Literal
import Mathlib

/-!
# The order of numbers

Exponents stand above significands in the bit pattern of a number, so numbers that are not NaN are
compared as the integers that their sign and their remaining bits make. Every question about the
order of numbers becomes one about integers.

* `Number.rank` is this integer: 0 for both zeros.
* `Number.Unpacks` relates the remaining bits of a number to the significand and exponent that it is
  taken apart into.
* `Number.le_iff` and `Number.lt_iff` are the comparisons in terms of ranks. The key by which colour
  stops are sorted, `Number.orderKey`, is the rank with the negative numbers moved down by one.
-/

namespace Heightfield.Number

open Float.Model

/-- The bits of a number without its sign. -/
def magnitude (x : Float32) : Nat := x.toBits.toNat % 2 ^ 31

/-- The sign bit of a number. -/
def sign (x : Float32) : UnpackedFloat.Sign :=
  if x.toBits.toNat < 2 ^ 31 then .positive else .negative

/-- The integer that stands for a number in comparisons. -/
def rank (x : Float32) : Int := (sign x).apply (magnitude x)

/-- The magnitude of an infinity: those above it are NaN. -/
abbrev infinite : Nat := 0x7f800000

variable {x y z : Float32}

/-! ## The parts of a number -/

/-- The bits `m` of a number that is finite and not zero are those of the significand `k` without
its leading 1, below those of the exponent `e`. A significand without the leading 1 has the least
exponent. -/
structure Encodes (m k : Nat) (e : Int) : Prop where
  eq : (m : Int) = (e + 149) * 2 ^ 23 + k
  pos : 0 < k
  lt : k < 2 ^ 24
  le : -149 ≤ e
  subnormal : k < 2 ^ 23 → e = -149

/-- What a number with the sign `s` and the remaining bits `m` is taken apart into. -/
inductive Unpacks (s : UnpackedFloat.Sign) (m : Nat) : UnpackedFloat → Prop where
  | notANumber (h : infinite < m) : Unpacks s m .notANumber
  | infinity (h : m = infinite) : Unpacks s m (.infinity s)
  | zero (h : m = 0) : Unpacks s m (.zero s)
  | finite {k : Nat} {e : Int} {hpos : 0 < k} (h : m < infinite) (hm : Encodes m k e) :
      Unpacks s m (.finite s k e hpos)

section Unpack

/-- The leading 1 of a significand. -/
theorem toNat_implicit (m : BitVec 23) : (1#1 ++ m).toNat = 2 ^ 23 + m.toNat := by
  rw [BitVec.toNat_append, ← Nat.shiftLeft_add_eq_or_of_lt m.isLt]
  rfl

theorem toNat_unpackMantissa (b : BitVec 32) :
    (@UnpackedFloat.unpackMantissa .binary32 b).toNat = b.toNat % 2 ^ 23 := by
  simp [UnpackedFloat.unpackMantissa]

theorem toNat_unpackExponent (b : BitVec 32) :
    (@UnpackedFloat.unpackExponent .binary32 b).toNat = b.toNat / 2 ^ 23 % 2 ^ 8 := by
  simp [UnpackedFloat.unpackExponent, Nat.shiftRight_eq_div_pow]

theorem toNat_unpackSign (b : BitVec 32) :
    (@UnpackedFloat.unpackSign .binary32 b).toNat = b.toNat / 2 ^ 31 % 2 := by
  simp [UnpackedFloat.unpackSign, Nat.shiftRight_eq_div_pow]

theorem ofBitVec_unpackSign (x : Float32) :
    UnpackedFloat.Sign.ofBitVec (@UnpackedFloat.unpackSign .binary32 x.toModel.toBits.toBitVec) =
      sign x := by
  have hlt : x.toBits.toNat < 2 ^ 32 := x.toBits.toNat_lt
  refine if_congr ?_ rfl rfl
  rw [← BitVec.toNat_inj, toNat_unpackSign]
  change x.toBits.toNat / 2 ^ 31 % 2 = 0 ↔ x.toBits.toNat < 2 ^ 31
  omega

/-- Every number is taken apart into what its bits stand for. -/
theorem unpacks (x : Float32) : Unpacks (sign x) (magnitude x) x.toModel.unpack := by
  set b := x.toModel.toBits.toBitVec with hb
  have hmagnitude : magnitude x = b.toNat % 2 ^ 31 := rfl
  have hinfinite : infinite = 0x7f800000 := rfl
  have hbias : (Format.binary32.exponentBias + Format.binary32.mantissaBitsWithoutImplicit : Int)
      = 150 := by decide
  have hmantissa := toNat_unpackMantissa b
  have hexponent := toNat_unpackExponent b
  have hlast : @UnpackedFloat.unpackExponent .binary32 b = -1#8 ↔
      b.toNat / 2 ^ 23 % 2 ^ 8 = 255 := by
    rw [← BitVec.toNat_inj, hexponent]
    rfl
  have hfirst : @UnpackedFloat.unpackExponent .binary32 b = 0#8 ↔
      b.toNat / 2 ^ 23 % 2 ^ 8 = 0 := by
    rw [← BitVec.toNat_inj, hexponent]
    rfl
  have hwhole : @UnpackedFloat.unpackMantissa .binary32 b = 0#23 ↔
      b.toNat % 2 ^ 23 = 0 := by
    rw [← BitVec.toNat_inj, hmantissa]
    rfl
  delta Float32.Model.unpack UnpackedFloat.unpack
  dsimp only
  rw [ofBitVec_unpackSign, hbias, ← hb]
  -- the last exponent is that of infinities and NaN, the first one that of zeros and subnormals
  split
  next he =>
    have he := hlast.mp he
    split
    next hm =>
      have hm := hwhole.mp hm
      exact .infinity (by omega)
    next hm =>
      have hm := mt hwhole.mpr hm
      exact .notANumber (by omega)
  next he =>
    have he := mt hlast.mpr he
    split
    next he' =>
      have he' := hfirst.mp he'
      split
      next hm =>
        have hm := hwhole.mp hm
        exact .zero (by omega)
      next hm =>
        have hm := mt hwhole.mpr hm
        refine .finite (by omega) ⟨?_, ?_, ?_, ?_, ?_⟩ <;> omega
    next he' =>
      have he' := mt hfirst.mpr he'
      have himplicit := toNat_implicit (@UnpackedFloat.unpackMantissa .binary32 b)
      refine .finite (by omega) ⟨?_, ?_, ?_, ?_, ?_⟩ <;> omega

end Unpack

/-! ## Comparisons -/

section Compare

variable {s t : UnpackedFloat.Sign} {m n k l : Nat} {e f : Int} {u v : UnpackedFloat}

theorem Encodes.magnitude_pos (h : Encodes m k e) : 0 < m := by
  obtain ⟨heq, hpos, -, hle, -⟩ := h
  omega

/-- Exponents are compared first, then significands. -/
theorem Encodes.compare_eq (h : Encodes m k e) (h' : Encodes n l f) :
    (compare e f).then (compare k l) = compare (m : Int) n := by
  obtain ⟨heq, hpos, hlt, hle, hnormal⟩ := h
  obtain ⟨heq', hpos', hlt', hle', hnormal'⟩ := h'
  rcases lt_trichotomy e f with he | rfl | he
  · rw [compare_lt_iff_lt.mpr he, compare_lt_iff_lt.mpr (by omega : (m : Int) < n)]
    rfl
  · rw [compare_eq_iff_eq.mpr rfl]
    rcases lt_trichotomy k l with hk | rfl | hk
    · rw [compare_lt_iff_lt.mpr hk, compare_lt_iff_lt.mpr (by omega : (m : Int) < n)]
      rfl
    · rw [compare_eq_iff_eq.mpr rfl, compare_eq_iff_eq.mpr (by omega : (m : Int) = n)]
      rfl
    · rw [compare_gt_iff_gt.mpr hk, compare_gt_iff_gt.mpr (by omega : (m : Int) > n)]
      rfl
  · rw [compare_gt_iff_gt.mpr he, compare_gt_iff_gt.mpr (by omega : (m : Int) > n)]
    rfl

/-- Negative numbers are compared the other way round. -/
theorem compare_neg_neg (a b : Int) : compare (-a) (-b) = (compare a b).swap := by
  rcases lt_trichotomy a b with h | rfl | h
  · rw [compare_lt_iff_lt.mpr h, compare_gt_iff_gt.mpr (by omega : -a > -b)]
    rfl
  · rw [compare_eq_iff_eq.mpr rfl, compare_eq_iff_eq.mpr rfl]
    rfl
  · rw [compare_gt_iff_gt.mpr h, compare_lt_iff_lt.mpr (by omega : -a < -b)]
    rfl

/-- Numbers that are not NaN are compared by their signs and magnitudes. -/
theorem Unpacks.compare_eq (h : Unpacks s m u) (h' : Unpacks t n v) (hm : m ≤ infinite)
    (hn : n ≤ infinite) : u.compare v = some (compare (s.apply m) (t.apply n)) := by
  have hlt (a b : Int) : some Ordering.lt = some (compare a b) ↔ a < b := by
    rw [Option.some.injEq, eq_comm, compare_lt_iff_lt]
  have hgt (a b : Int) : some Ordering.gt = some (compare a b) ↔ b < a := by
    rw [Option.some.injEq, eq_comm, compare_gt_iff_gt]
  cases h with
  | notANumber h => omega
  | infinity h =>
    cases h' with
    | notANumber h' => omega
    | infinity h' =>
      subst h h'
      cases s <;> cases t <;> decide
    | zero h' =>
      subst h h'
      cases s <;> cases t <;> decide
    | finite h' hn =>
      cases s <;> cases t <;>
        simp only [UnpackedFloat.compare, UnpackedFloat.Sign.apply, hlt, hgt] <;> omega
  | zero h =>
    cases h' with
    | notANumber h' => omega
    | infinity h' =>
      subst h h'
      cases s <;> cases t <;> decide
    | zero h' =>
      subst h h'
      cases s <;> cases t <;> decide
    | finite h' hn =>
      have hpos := hn.magnitude_pos
      cases s <;> cases t <;>
        simp only [UnpackedFloat.compare, UnpackedFloat.Sign.apply, hlt, hgt] <;> omega
  | finite h hm =>
    have hpos := hm.magnitude_pos
    cases h' with
    | notANumber h' => omega
    | infinity | zero  =>
      cases s <;> cases t <;>
        simp only [UnpackedFloat.compare, UnpackedFloat.Sign.apply, hlt, hgt] <;> omega
    | finite h' hn =>
      have hpos' := hn.magnitude_pos
      cases s <;> cases t
      · simp only [UnpackedFloat.compare, UnpackedFloat.Sign.apply, hm.compare_eq hn,
          compare_neg_neg]
      · exact (hlt _ _).mpr (by simp only [UnpackedFloat.Sign.apply]; omega)
      · exact (hgt _ _).mpr (by simp only [UnpackedFloat.Sign.apply]; omega)
      · simp only [UnpackedFloat.compare, UnpackedFloat.Sign.apply, hm.compare_eq hn]

theorem Unpacks.isNaN_eq_false (h : Unpacks s m u) : u.isNaN = false ↔ m ≤ infinite := by
  cases h <;> simp only [UnpackedFloat.isNaN] <;> grind

theorem Unpacks.isFinite_eq_true (h : Unpacks s m u) : u.isFinite = true ↔ m < infinite := by
  cases h <;> simp only [UnpackedFloat.isFinite] <;> grind

/-- A NaN is not compared with anything. -/
theorem compare_of_isNaN (h : ¬ (u.isNaN = false ∧ v.isNaN = false)) : u.compare v = none := by
  cases u <;> cases v <;> first | rfl | exact absurd ⟨rfl, rfl⟩ h

end Compare

/-- The magnitude is what a rank leaves of the sign. -/
theorem natAbs_rank (x : Float32) : (rank x).natAbs = magnitude x := by
  unfold rank
  cases sign x <;> simp only [UnpackedFloat.Sign.apply] <;> omega

theorem isNaN_eq_false_iff : x.isNaN = false ↔ (rank x).natAbs ≤ infinite := by
  rw [natAbs_rank]
  exact (unpacks x).isNaN_eq_false

theorem isFinite_iff : x.isFinite = true ↔ (rank x).natAbs < infinite := by
  rw [natAbs_rank]
  exact (unpacks x).isFinite_eq_true

/-- Numbers that are not NaN are compared by their ranks. -/
theorem compare_unpack (hx : x.isNaN = false) (hy : y.isNaN = false) :
    x.toModel.unpack.compare y.toModel.unpack = some (compare (rank x) (rank y)) := by
  rw [isNaN_eq_false_iff, natAbs_rank] at hx hy
  exact (unpacks x).compare_eq (unpacks y) hx hy

/-- **The order is that of the ranks**, and a NaN is not comparable to anything. -/
protected theorem le_iff : x ≤ y ↔ x.isNaN = false ∧ y.isNaN = false ∧ rank x ≤ rank y := by
  have hle : x ≤ y ↔ (x.toModel.unpack.compare y.toModel.unpack).any (·.isLE) = true :=
    decide_eq_true_iff
  by_cases hnan : x.isNaN = false ∧ y.isNaN = false
  · rw [hle, compare_unpack hnan.1 hnan.2, Option.any_some, Ordering.isLE_iff_ne_gt]
    exact compare_le_iff_le.trans ⟨fun h => ⟨hnan.1, hnan.2, h⟩, fun h => h.2.2⟩
  · rw [hle, compare_of_isNaN hnan]
    exact iff_of_false nofun fun h => hnan ⟨h.1, h.2.1⟩

/-- **The strict order is that of the ranks.** -/
protected theorem lt_iff : x < y ↔ x.isNaN = false ∧ y.isNaN = false ∧ rank x < rank y := by
  have hlt : x < y ↔ (x.toModel.unpack.compare y.toModel.unpack == some .lt) = true :=
    decide_eq_true_iff
  by_cases hnan : x.isNaN = false ∧ y.isNaN = false
  · rw [hlt, compare_unpack hnan.1 hnan.2, beq_iff_eq, Option.some.injEq, compare_lt_iff_lt]
    exact ⟨fun h => ⟨hnan.1, hnan.2, h⟩, fun h => h.2.2⟩
  · rw [hlt, compare_of_isNaN hnan]
    exact iff_of_false nofun fun h => hnan ⟨h.1, h.2.1⟩

/-- Numbers of one rank are equal, unless they are NaN. -/
protected theorem beq_iff :
    (x == y) = true ↔ x.isNaN = false ∧ y.isNaN = false ∧ rank x = rank y := by
  have hbeq : (x == y) = true ↔ (x.toModel.unpack.compare y.toModel.unpack == some .eq) = true :=
    Iff.rfl
  by_cases hnan : x.isNaN = false ∧ y.isNaN = false
  · rw [hbeq, compare_unpack hnan.1 hnan.2, beq_iff_eq, Option.some.injEq, compare_eq_iff_eq]
    exact ⟨fun h => ⟨hnan.1, hnan.2, h⟩, fun h => h.2.2⟩
  · rw [hbeq, compare_of_isNaN hnan]
    exact iff_of_false nofun fun h => hnan ⟨h.1, h.2.1⟩

protected theorem le_trans (h : x ≤ y) (h' : y ≤ z) : x ≤ z := by
  rw [Number.le_iff] at *
  exact ⟨h.1, h'.2.1, h.2.2.trans h'.2.2⟩

/-- Numbers that are not NaN are comparable. -/
protected theorem le_of_not_lt (hx : x.isNaN = false) (hy : y.isNaN = false) (h : ¬ x < y) :
    y ≤ x := by
  rw [Number.lt_iff] at h
  exact Number.le_iff.mpr ⟨hy, hx, not_lt.mp fun hlt => h ⟨hx, hy, hlt⟩⟩

/-! ## Keys, channels and bytes -/

/-- The rank of a number as arithmetic on its bit pattern. -/
theorem rank_eq (x : Float32) :
    rank x = if x.toBits.toNat < 2 ^ 31 then (x.toBits.toNat : Int)
      else 2 ^ 31 - x.toBits.toNat := by
  have hlt : x.toBits.toNat < 2 ^ 32 := x.toBits.toNat_lt
  unfold rank sign magnitude
  split
  · change ((x.toBits.toNat % 2 ^ 31 : Nat) : Int) = _
    omega
  · change -((x.toBits.toNat % 2 ^ 31 : Nat) : Int) = _
    omega

/-- Numbers with ordered keys are ordered. -/
theorem le_of_orderKey_le (hx : x.isNaN = false) (hy : y.isNaN = false)
    (h : orderKey x ≤ orderKey y) : x ≤ y := by
  refine Number.le_iff.mpr ⟨hx, hy, ?_⟩
  rw [rank_eq, rank_eq]
  unfold orderKey at h
  dsimp only at h
  split at h <;> split at h <;> split <;> split <;> omega

/-- A clamped number is in the unit range. -/
theorem clampUnit_mem (x : Float32) : 0 ≤ clampUnit x ∧ clampUnit x ≤ 1 := by
  have hzero : (0 : Float32) ≤ 0 ∧ (0 : Float32) ≤ 1 := by decide
  have hone : (0 : Float32) ≤ 1 ∧ (1 : Float32) ≤ 1 := by decide
  unfold clampUnit clamp
  split
  next => exact hzero
  next hx =>
    rw [Bool.not_eq_true] at hx
    dsimp only
    split <;> split
    next => exact hone
    next => exact hzero
    next => exact hone
    next h h' =>
      exact ⟨Number.le_of_not_lt hx (by decide) h, Number.le_of_not_lt (by decide) hx h'⟩

theorem isNaN_clampUnit (x : Float32) : (clampUnit x).isNaN = false :=
  (Number.le_iff.mp (clampUnit_mem x).1).2.1

/-- The ranks of the channel values, in the order of their bytes. -/
theorem isChain_rank_ofByte :
    List.IsChain (· ≤ ·) ((List.range 256).map fun n => rank (ofByte (UInt8.ofNat n))) := by
  decide +kernel

/-- Higher bytes have higher ranks. -/
theorem rank_ofByte_le {a b : UInt8} (h : a ≤ b) : rank (ofByte a) ≤ rank (ofByte b) := by
  have hsorted := List.isChain_iff_pairwise.mp isChain_rank_ofByte
  rw [List.pairwise_map, List.pairwise_iff_getElem] at hsorted
  rcases (UInt8.le_iff_toNat_le.mp h).eq_or_lt with heq | hlt
  · rw [UInt8.toNat_inj.mp heq]
  · have hpair := hsorted a.toNat b.toNat (List.length_range ▸ a.toNat_lt)
      (List.length_range ▸ b.toNat_lt) hlt
    simp only [List.getElem_range, UInt8.ofNat_toNat] at hpair
    exact hpair

/-- Higher bytes stand for higher values. -/
theorem ofByte_le {a b : UInt8} (h : a ≤ b) : ofByte a ≤ ofByte b := by
  have hnan (c : UInt8) : (ofByte c).isNaN = false := by
    have hlow : rank (ofByte 0) ≤ rank (ofByte c) :=
      rank_ofByte_le (UInt8.le_iff_toNat_le.mpr c.toNat.zero_le)
    have hhigh : rank (ofByte c) ≤ rank (ofByte 255) :=
      rank_ofByte_le (UInt8.le_iff_toNat_le.mpr (Nat.le_of_lt_succ c.toNat_lt))
    have hzero : rank (ofByte 0) = 0 := by decide +kernel
    have hone : rank (ofByte 255) = 0x3f800000 := by decide +kernel
    rw [isNaN_eq_false_iff, infinite]
    omega
  exact Number.le_iff.mpr ⟨hnan a, hnan b, rank_ofByte_le h⟩

end Heightfield.Number
