import Heightfield.Proofs.Number.Positional
import Heightfield.Shader.Token

/-!
# Numbers in shader text

A shader text writes a number as the shortest decimal that rounds to it, so numbers that are finite
are written apart. The two zeros are the one exception: both are written `0.0`.

* `Regular` numbers are those that the text tells apart.
* `Shader.exists_decimal` says how they are written, and `Shader.eq_of_formatFloat_eq` that their
  texts differ.
-/

namespace Heightfield

namespace Number

/-- A number that has a text of its own: it is finite and not the negative zero. -/
structure Regular (x : Float32) : Prop where
  finite : x.isFinite = true
  /-- only the sign bit of the negative zero is set -/
  notNegativeZero : x.toBits ≠ 0x80000000

instance (x : Float32) : Decidable (Regular x) :=
  decidable_of_iff (x.isFinite = true ∧ x.toBits ≠ 0x80000000)
    ⟨fun h => ⟨h.1, h.2⟩, fun h => ⟨h.1, h.2⟩⟩

/-- The number that stands in for a missing setting is regular. -/
theorem regular_zero : Regular 0 := by decide

/-- So is the one that shader text uses of its own. -/
theorem regular_half : Regular 0.5 := by decide

/-! ## Bits -/

section Bits

open Float.Model

variable {x y : Float32}

theorem eq_of_toBits_eq (h : x.toBits = y.toBits) : x = y := by
  obtain ⟨⟨bits, hx⟩⟩ := x
  obtain ⟨⟨bits', hy⟩⟩ := y
  obtain rfl : bits = bits' := h
  rfl

theorem isNaN_of_isFinite (h : x.isFinite = true) : x.isNaN = false := by
  change x.toModel.unpack.isFinite = true at h
  change x.toModel.unpack.isNaN = false
  cases hu : x.toModel.unpack with
  | notANumber =>
    rw [hu] at h
    cases h
  | _ => rfl

theorem isInf_of_isFinite (h : x.isFinite = true) : x.isInf = false := by
  change x.toModel.unpack.isFinite = true at h
  change x.toModel.unpack.isInf = false
  cases hu : x.toModel.unpack with
  | infinity =>
    rw [hu] at h
    cases h
  | _ => rfl

/-- A number that equals zero is unpacked as a zero. -/
theorem exists_unpack_eq_zero (h : (x == 0) = true) : ∃ s, x.toModel.unpack = .zero s := by
  have hzero : (0 : Float32).toModel.unpack = .zero .positive := rfl
  change (x.toModel.unpack.compare (0 : Float32).toModel.unpack == some .eq) = true at h
  rw [hzero] at h
  cases hu : x.toModel.unpack with
  | infinity s =>
    rw [hu] at h
    cases s <;> cases h
  | notANumber =>
    rw [hu] at h
    cases h
  | zero s => exact ⟨s, rfl⟩
  | finite s =>
    rw [hu] at h
    cases s <;> cases h

/-- Only the sign bit of a number that equals zero can be set. -/
theorem toBits_mod_of_beq_zero (h : (x == 0) = true) : x.toBits.toNat % 2 ^ 31 = 0 := by
  obtain ⟨s, hs⟩ := exists_unpack_eq_zero h
  delta Float32.Model.unpack UnpackedFloat.unpack at hs
  dsimp only at hs
  -- first the exponent of an infinity, then that of a zero, then all others
  rcases ite_eq_iff.mp hs with ⟨-, hs⟩ | ⟨-, hs⟩
  · rcases ite_eq_iff.mp hs with ⟨-, hs⟩ | ⟨-, hs⟩ <;> cases hs
  · rcases ite_eq_iff.mp hs with ⟨he, hs⟩ | ⟨-, hs⟩
    · rcases dite_eq_iff.mp hs with ⟨hm, -⟩ | ⟨hm, hs⟩
      · have hexponent := congrArg BitVec.toNat he
        have hmantissa := congrArg BitVec.toNat hm
        simp [UnpackedFloat.unpackExponent, UnpackedFloat.unpackMantissa,
          Nat.shiftRight_eq_div_pow] at hexponent hmantissa
        change x.toModel.toBits.toNat % 2 ^ 31 = 0
        omega
      · cases hs
    · cases hs

/-- The bits of a regular number are 0 if they are up to the sign. -/
theorem Regular.toBits_of_mod (h : Regular x) (hzero : x.toBits.toNat % 2 ^ 31 = 0) :
    x.toBits.toNat = 0 := by
  have hlt : x.toBits.toNat < 2 ^ 32 := x.toBits.toNat_lt
  have hne : x.toBits.toNat ≠ 2 ^ 31 := fun heq =>
    h.notNegativeZero (UInt32.toNat_inj.mp heq)
  omega

end Bits
end Number

namespace Shader

open Number

variable {x y : Float32}

/-- The sign of a number as it is written. -/
def signText (x : Float32) : List Char :=
  if 2 ^ 31 ≤ x.toBits.toNat then ['-'] else []

/-- A regular number is written as its sign and a decimal that rounds to its magnitude. -/
theorem exists_decimal (h : Regular x) :
    ∃ d, (Binary.ofBits (x.toBits.toNat % 2 ^ 31)).Holds d ∧
      (formatFloat x).toList = signText x ++ Layout.withPoint.writeDecimal d := by
  by_cases hzero : x.toBits.toNat % 2 ^ 31 = 0
  · have hbits := h.toBits_of_mod hzero
    obtain rfl : x = 0 := eq_of_toBits_eq (UInt32.toNat_inj.mp hbits)
    exact ⟨⟨0, 0⟩, by decide, by decide⟩
  · have hne : (x == 0) = false := by
      rw [Bool.eq_false_iff]
      exact fun h => hzero (toBits_mod_of_beq_zero h)
    have hpos := Binary.significand_ofBits_pos (Nat.mod_lt _ (by decide)) hzero
    refine ⟨(Binary.ofBits (x.toBits.toNat % 2 ^ 31)).shortest .up, Binary.holds_shortest .up hpos,
      ?_⟩
    rw [Binary.ofBits_mod] at hpos ⊢
    have htext : formatFloat x = Layout.withPoint.writeFloat32 x := by
      simp [formatFloat, h.finite, hne]
    have hsignificand : (Binary.ofFloat32 x).significand ≠ 0 := by
      rw [Binary.ofFloat32_eq]
      exact hpos.ne'
    rw [htext, Layout.writeFloat32, Layout.write, isNaN_of_isFinite h.finite,
      isInf_of_isFinite h.finite, signText]
    simp only [Bool.false_eq_true, if_false, hsignificand, String.toList_ofList, Nat.pow_eq,
      decide_eq_true_eq]
    rw [Binary.ofFloat32_eq]
    split <;> rfl

/-- A regular number is written as a sign, digits, a point and more digits. -/
theorem exists_pointed (h : Regular x) :
    ∃ t : Layout.Pointed, (formatFloat x).toList = signText x ++ t.text := by
  obtain ⟨d, -, htext⟩ := exists_decimal h
  obtain ⟨t, ht, -⟩ := Layout.writeDecimal_withPoint d
  exact ⟨t, by rw [htext, ht]⟩

/-- A regular number is written with digits, a point and perhaps a minus sign. -/
theorem forall_mem_formatFloat (h : Regular x) :
    ∀ c ∈ (formatFloat x).toList, c.isDigit = true ∨ c = '.' ∨ c = '-' := by
  intro c hc
  obtain ⟨t, ht⟩ := exists_pointed h
  rw [ht, Layout.Pointed.text, List.mem_append, List.mem_append, List.mem_cons] at hc
  rcases hc with hc | hc | rfl | hc
  · unfold signText at hc
    split at hc
    · exact .inr (.inr (List.mem_singleton.mp hc))
    · cases hc
  · exact .inl (t.digits c (List.mem_append_left _ hc))
  · exact .inr (.inl rfl)
  · exact .inl (t.digits c (List.mem_append_right _ hc))

/-- The sign is told from the digits behind it. -/
theorem signText_inj {t t' : Layout.Pointed} (h : signText x ++ t.text = signText y ++ t'.text) :
    (2 ^ 31 ≤ x.toBits.toNat ↔ 2 ^ 31 ≤ y.toBits.toNat) ∧ t.text = t'.text := by
  have hminus (t t' : Layout.Pointed) : '-' :: t.text ≠ t'.text := by
    intro heq
    obtain ⟨c, rest, hwhole⟩ := List.exists_cons_of_ne_nil t'.whole_ne_nil
    rw [Layout.Pointed.text, Layout.Pointed.text, hwhole] at heq
    obtain rfl := (List.cons.inj heq).1
    exact absurd (t'.digits '-' (by simp [hwhole])) (by decide)
  unfold signText at h
  split at h <;> split at h
  next hx hy => exact ⟨iff_of_true hx hy, List.cons.inj h |>.2⟩
  next => exact absurd h (hminus t t')
  next => exact absurd h.symm (hminus t' t)
  next hx hy => exact ⟨iff_of_false hx hy, h⟩

/-- Regular numbers with one text are equal. -/
theorem eq_of_formatFloat_eq (hx : Regular x) (hy : Regular y)
    (h : formatFloat x = formatFloat y) : x = y := by
  obtain ⟨d, hd, hxtext⟩ := exists_decimal hx
  obtain ⟨d', hd', hytext⟩ := exists_decimal hy
  obtain ⟨t, ht, -⟩ := Layout.writeDecimal_withPoint d
  obtain ⟨t', ht', -⟩ := Layout.writeDecimal_withPoint d'
  have htexts : signText x ++ t.text = signText y ++ t'.text := by
    rw [← ht, ← ht', ← hxtext, ← hytext, h]
  obtain ⟨hsign, htext⟩ := signText_inj htexts
  rw [← ht, ← ht'] at htext
  -- texts say what the values are, and a value rounds to one magnitude
  have hmod := Binary.eq_of_holds (Nat.mod_lt _ (by decide)) (Nat.mod_lt _ (by decide))
    (hd.of_value_eq (Layout.value_eq_of_writeDecimal_eq htext)) hd'
  have hxlt : x.toBits.toNat < 2 ^ 32 := x.toBits.toNat_lt
  have hylt : y.toBits.toNat < 2 ^ 32 := y.toBits.toNat_lt
  exact eq_of_toBits_eq (UInt32.toNat_inj.mp (by omega))

end Shader
end Heightfield
