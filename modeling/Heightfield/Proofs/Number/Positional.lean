import Heightfield.Number.Layout
import Heightfield.Number.Reading
import Heightfield.Proofs.Number.Interval
import Mathlib.Data.List.TakeWhile

/-!
# Numbers with a point read back

In the layout with a point every number is some digits, a point and more digits. The digits in a row
and the number of them behind the point are all there is to its value, so reading the text gives the
value back.

* `Layout.positional_withPoint` is the shape of the text.
* `Layout.decimalOf?_writeDecimal` says that the text is read back.
-/

namespace Heightfield.Number

/-! ## Digits -/

theorem ofDigits_eq (cs : List Char) : ofDigits cs = Nat.ofDigitChars 10 cs 0 := rfl

@[simp] theorem ofDigits_toDigits (n : Nat) : ofDigits (Nat.toDigits 10 n) = n :=
  Nat.ofDigitChars_ten_toDigits

/-- Zeros behind digits multiply by a power of ten. -/
theorem ofDigits_append_zeros (cs : List Char) (k : Nat) :
    ofDigits (cs ++ List.replicate k '0') = 10 ^ k * ofDigits cs := by
  rw [ofDigits_eq, Nat.ofDigitChars_append, Nat.ofDigitChars_replicate_zero, ofDigits_eq]

/-- Zeros before digits make no difference. -/
theorem ofDigits_zeros_append (cs : List Char) (k : Nat) :
    ofDigits (List.replicate k '0' ++ cs) = ofDigits cs := by
  rw [ofDigits_eq, Nat.ofDigitChars_append, Nat.ofDigitChars_replicate_zero, Nat.mul_zero,
    ofDigits_eq]

theorem isDigit_toDigits {n : Nat} {c : Char} (h : c ∈ Nat.toDigits 10 n) : c.isDigit = true :=
  Nat.isDigit_of_mem_toDigits (by decide) (by decide) h

theorem isDigit_zeros {k : Nat} {c : Char} (h : c ∈ List.replicate k '0') : c.isDigit = true := by
  rw [List.eq_of_mem_replicate h]
  rfl

namespace Layout

/-! ## The shape of the text -/

/-- Digits before and behind a point. -/
structure Pointed where
  whole : List Char
  places : List Char
  /-- a digit stands before the point -/
  whole_ne_nil : whole ≠ []
  digits : ∀ c ∈ whole ++ places, c.isDigit = true

namespace Pointed

/-- The characters of the text. -/
def text (t : Pointed) : List Char := t.whole ++ '.' :: t.places

/-- The decimal that is read off the text. -/
def decimal (t : Pointed) : Decimal := ⟨ofDigits (t.whole ++ t.places), -t.places.length⟩

theorem takeWhile_whole (t : Pointed) :
    t.text.takeWhile Char.isDigit = t.whole ∧ t.text.dropWhile Char.isDigit = '.' :: t.places := by
  have hwhole : ∀ c ∈ t.whole, c.isDigit = true := fun c hc =>
    t.digits c (List.mem_append_left _ hc)
  rw [text, List.takeWhile_append_of_pos hwhole, List.dropWhile_append_of_pos hwhole]
  simp

theorem decimalOf?_text (t : Pointed) : decimalOf? t.text = some t.decimal := by
  have hplaces : ∀ c ∈ t.places, c.isDigit = true := fun c hc =>
    t.digits c (List.mem_append_right _ hc)
  obtain ⟨hwhole, hrest⟩ := t.takeWhile_whole
  have hsome : t.whole.isEmpty = false := by simp [t.whole_ne_nil]
  simp only [decimalOf?, hwhole, hrest, List.takeWhile_eq_self_iff.mpr hplaces,
    List.dropWhile_eq_nil_iff.mpr hplaces, hsome, Bool.false_and, Bool.false_eq_true, if_false,
    exponentOf?, Option.map_some, zero_sub, decimal]

end Pointed

/-- The text of digits in the layout with a point, with the value that the digits have. -/
theorem positional_withPoint (n : Nat) (e : Int) :
    ∃ t : Pointed, withPoint.positional (Nat.toDigits 10 n) e = t.text ∧
      t.decimal.value = (Decimal.mk n e).value := by
  have hnil : Nat.toDigits 10 n ≠ [] := Nat.toDigits_ne_nil
  by_cases he : 0 ≤ e
  · refine ⟨⟨Nat.toDigits 10 n ++ List.replicate e.toNat '0', ['0'], by simp [hnil], ?_⟩, ?_, ?_⟩
    · intro c hc
      simp only [List.mem_append, List.mem_singleton] at hc
      rcases hc with (hc | hc) | rfl
      · exact isDigit_toDigits hc
      · exact isDigit_zeros hc
      · rfl
    · simp [positional, he, withPoint, Pointed.text]
    · have hdigits : ofDigits (Nat.toDigits 10 n ++ List.replicate e.toNat '0' ++ ['0']) =
          10 ^ (e.toNat + 1) * n := by
        have hzeros := ofDigits_append_zeros (Nat.toDigits 10 n) (e.toNat + 1)
        rwa [List.replicate_succ', ← List.append_assoc, ofDigits_toDigits] at hzeros
      have hpow : (10 : ℚ) ^ e.toNat = 10 ^ e := by
        conv_rhs => rw [← Int.toNat_of_nonneg he, zpow_natCast]
      simp only [Pointed.decimal, Decimal.value, hdigits]
      push_cast
      rw [← hpow]
      simp
      ring
  · have hplaces : ((-e).toNat : Int) = -e := Int.toNat_of_nonneg (by omega)
    by_cases hlt : (-e).toNat < (Nat.toDigits 10 n).length
    · -- the point stands among the digits
      let k := (Nat.toDigits 10 n).length - (-e).toNat
      refine ⟨⟨(Nat.toDigits 10 n).take k, (Nat.toDigits 10 n).drop k, ?_, ?_⟩, ?_, ?_⟩
      · simp only [ne_eq, List.take_eq_nil_iff, not_or]
        exact ⟨by omega, hnil⟩
      · rw [List.take_append_drop]
        exact fun c => isDigit_toDigits
      · simp only [positional, he, if_false, hlt, if_true, Pointed.text, k]
      · have hlength : (((Nat.toDigits 10 n).drop k).length : Int) = -e := by
          rw [List.length_drop]
          omega
        simp only [Pointed.decimal, List.take_append_drop, ofDigits_toDigits, hlength, neg_neg]
    · -- the point stands before all digits, with zeros behind it
      let k := (-e).toNat - (Nat.toDigits 10 n).length
      refine ⟨⟨['0'], List.replicate k '0' ++ Nat.toDigits 10 n, by simp, ?_⟩, ?_, ?_⟩
      · intro c hc
        simp only [List.mem_append, List.mem_singleton] at hc
        rcases hc with rfl | hc | hc
        · rfl
        · exact isDigit_zeros hc
        · exact isDigit_toDigits hc
      · simp only [positional, he, if_false, hlt, Pointed.text, List.singleton_append, k]
      · have hlength : ((List.replicate k '0' ++ Nat.toDigits 10 n).length : Int) = -e := by
          rw [List.length_append, List.length_replicate]
          omega
        have hdigits : ofDigits (['0'] ++ (List.replicate k '0' ++ Nat.toDigits 10 n)) = n := by
          rw [show ['0'] = List.replicate 1 '0' from rfl, ofDigits_zeros_append,
            ofDigits_zeros_append, ofDigits_toDigits]
        simp only [Pointed.decimal, hdigits, hlength, neg_neg]

/-- With a point every decimal is written positionally. -/
theorem writeDecimal_withPoint (d : Decimal) :
    ∃ t : Pointed, withPoint.writeDecimal d = t.text ∧ t.decimal.value = d.value := by
  obtain ⟨t, htext, hvalue⟩ := positional_withPoint d.digits d.exponent
  exact ⟨t, htext, hvalue⟩

/-- The text of a decimal is read back as a decimal of the same value. -/
theorem decimalOf?_writeDecimal (d : Decimal) :
    ∃ d', decimalOf? (withPoint.writeDecimal d) = some d' ∧ d'.value = d.value := by
  obtain ⟨t, htext, hvalue⟩ := writeDecimal_withPoint d
  exact ⟨t.decimal, by rw [htext, t.decimalOf?_text], hvalue⟩

/-- Decimals with one text have one value. -/
theorem value_eq_of_writeDecimal_eq {d d' : Decimal}
    (h : withPoint.writeDecimal d = withPoint.writeDecimal d') : d.value = d'.value := by
  obtain ⟨e, he, hvalue⟩ := decimalOf?_writeDecimal d
  obtain ⟨e', he', hvalue'⟩ := decimalOf?_writeDecimal d'
  rw [h, he'] at he
  obtain rfl := Option.some.inj he
  rw [← hvalue, hvalue']

end Layout
end Heightfield.Number
