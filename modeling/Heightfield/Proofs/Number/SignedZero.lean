import Heightfield.Proofs.Shader.Literal

/-!
# The sign of zero

Zero has two encodings, and arithmetic hands the sign of a zero on without looking at it. Two
numbers are alike if they are equal or both zero: alike operands give alike results, compare alike
with everything, and are stored as the same byte. The one exception is a divisor, since a quotient
by zero is infinite with the sign of the zero.

* `Number.Alike` is the relation.
* `Number.Unsigned` is the same relation on numbers that are taken apart into sign, significand and
  exponent, where the operations are defined case by case.
-/

namespace Heightfield.Number

open Float.Model

/-- Equal, or both zero. -/
def Alike (x y : Float32) : Prop :=
  x = y ∨ (x == 0) = true ∧ (y == 0) = true

instance (x y : Float32) : Decidable (Alike x y) := inferInstanceAs (Decidable (_ ∨ _))

variable {x x' y y' z : Float32}

@[refl] theorem Alike.refl (x : Float32) : Alike x x := .inl rfl

@[symm] theorem Alike.symm (h : Alike x y) : Alike y x := by
  rcases h with heq | ⟨hx, hy⟩
  · exact .inl heq.symm
  · exact .inr ⟨hy, hx⟩

@[trans] theorem Alike.trans (h : Alike x y) (h' : Alike y z) : Alike x z := by
  rcases h with rfl | ⟨hx, hy⟩
  · exact h'
  · rcases h' with rfl | ⟨-, hz⟩
    · exact .inr ⟨hx, hy⟩
    · exact .inr ⟨hx, hz⟩

/-- There are two zeros. -/
theorem eq_zero_or_of_beq_zero (h : (x == 0) = true) : x = 0 ∨ x = -0 := by
  have hlt : x.toBits.toNat < 2 ^ 32 := x.toBits.toNat_lt
  have hmod := toBits_mod_of_beq_zero h
  obtain hbits | hbits : x.toBits.toNat = 0 ∨ x.toBits.toNat = 2 ^ 31 := by omega
  · exact .inl (eq_of_toBits_eq (UInt32.toNat_inj.mp hbits))
  · exact .inr (eq_of_toBits_eq (UInt32.toNat_inj.mp hbits))

/-- Alike numbers are equal, or they are the two zeros. -/
theorem Alike.cases (h : Alike x y) : x = y ∨ x = 0 ∧ y = -0 ∨ x = -0 ∧ y = 0 := by
  rcases h with heq | ⟨hx, hy⟩
  · exact .inl heq
  · rcases eq_zero_or_of_beq_zero hx with rfl | rfl <;>
      rcases eq_zero_or_of_beq_zero hy with rfl | rfl <;> simp

/-- What is the same for the two zeros is the same for all numbers that are alike. -/
theorem Alike.congr {α : Type} (h : Alike x y) (f : Float32 → α) (hf : f 0 = f (-0)) :
    f x = f y := by
  rcases h.cases with rfl | ⟨rfl, rfl⟩ | ⟨rfl, rfl⟩
  · rfl
  · exact hf
  · exact hf.symm

/-- A function of one number respects the relation if it does so at zero. -/
theorem Alike.map (h : Alike x y) (f : Float32 → Float32) (hf : Alike (f 0) (f (-0))) :
    Alike (f x) (f y) := by
  rcases h.cases with rfl | ⟨rfl, rfl⟩ | ⟨rfl, rfl⟩
  · exact .refl _
  · exact hf
  · exact hf.symm

/-! ## Numbers taken apart -/

/-- Equal, or both zero. -/
inductive Unsigned : UnpackedFloat → UnpackedFloat → Prop where
  | refl (u : UnpackedFloat) : Unsigned u u
  | zero (s s' : UnpackedFloat.Sign) : Unsigned (.zero s) (.zero s')

namespace Unsigned

theorem of_alike (h : Alike x y) : Unsigned x.toModel.unpack y.toModel.unpack := by
  rcases h with rfl | ⟨hx, hy⟩
  · exact .refl _
  · obtain ⟨s, hs⟩ := exists_unpack_eq_zero hx
    obtain ⟨s', hs'⟩ := exists_unpack_eq_zero hy
    rw [hs, hs']
    exact .zero s s'

/-- Put together again, the numbers are alike. -/
theorem pack {u v : UnpackedFloat} (h : Unsigned u v) :
    Alike ⟨Float32.Model.pack u⟩ ⟨Float32.Model.pack v⟩ := by
  cases h with
  | refl => exact .refl _
  | zero s s' => cases s <;> cases s' <;> exact .inr ⟨rfl, rfl⟩

/-- Whichever zero is chosen, it is a zero. -/
theorem ite_zero (c c' : Prop) [Decidable c] [Decidable c'] {s₁ s₂ s₁' s₂' : UnpackedFloat.Sign} :
    Unsigned (if c then .zero s₁ else .zero s₂) (if c' then .zero s₁' else .zero s₂') := by
  split <;> split <;> exact .zero _ _

/-- An operation respects the relation if it does so with a zero on either side. -/
theorem congr₂ (op : UnpackedFloat → UnpackedFloat → UnpackedFloat)
    (hleft : ∀ s s' w, Unsigned (op (.zero s) w) (op (.zero s') w))
    (hright : ∀ w s s', Unsigned (op w (.zero s)) (op w (.zero s')))
    (hx : Alike x x') (hy : Alike y y') :
    Alike ⟨Float32.Model.pack (op x.toModel.unpack y.toModel.unpack)⟩
      ⟨Float32.Model.pack (op x'.toModel.unpack y'.toModel.unpack)⟩ := by
  have hop {u u' v v' : UnpackedFloat} (h : Unsigned u u') (h' : Unsigned v v') :
      Alike ⟨Float32.Model.pack (op u v)⟩ ⟨Float32.Model.pack (op u' v')⟩ := by
    refine Alike.trans (y := ⟨Float32.Model.pack (op u' v)⟩) (pack ?_) (pack ?_)
    · cases h with
      | refl => exact .refl _
      | zero s s' => exact hleft s s' v
    · cases h' with
      | refl => exact .refl _
      | zero s s' => exact hright u' s s'
  exact hop (of_alike hx) (of_alike hy)

/-- Zeros compare alike with everything. -/
theorem compare_eq {u u' v v' : UnpackedFloat} (h : Unsigned u u') (h' : Unsigned v v') :
    u.compare v = u'.compare v' := by
  have hzero (s s' : UnpackedFloat.Sign) (w : UnpackedFloat) :
      (UnpackedFloat.zero s).compare w = (UnpackedFloat.zero s').compare w ∧
        w.compare (.zero s) = w.compare (.zero s') := by
    cases w with
    | finite t | infinity t => cases t <;> exact ⟨rfl, rfl⟩
    | zero | notANumber => exact ⟨rfl, rfl⟩
  calc u.compare v
      = u'.compare v := by
        cases h with
        | refl => rfl
        | zero s s' => exact (hzero s s' v).1
    _ = u'.compare v' := by
        cases h' with
        | refl => rfl
        | zero s s' => exact (hzero s s' u').2

end Unsigned

namespace Alike

/-! ## Arithmetic -/

@[gcongr] theorem add (hx : Alike x x') (hy : Alike y y') : Alike (x + y) (x' + y') := by
  refine Unsigned.congr₂ (UnpackedFloat.add .binary32) (fun s s' w => ?_) (fun w s s' => ?_) hx hy
  all_goals
    cases w with
    | zero t => exact .ite_zero _ _
    | _ => exact .refl _

@[gcongr] theorem sub (hx : Alike x x') (hy : Alike y y') : Alike (x - y) (x' - y') := by
  refine Unsigned.congr₂ (UnpackedFloat.sub .binary32) (fun s s' w => ?_) (fun w s s' => ?_) hx hy
  all_goals
    cases w with
    | zero t => exact .ite_zero _ _
    | _ => exact .refl _

@[gcongr] theorem mul (hx : Alike x x') (hy : Alike y y') : Alike (x * y) (x' * y') := by
  refine Unsigned.congr₂ (UnpackedFloat.mul .binary32) (fun s s' w => ?_) (fun w s s' => ?_) hx hy
  all_goals
    cases w with
    | zero | finite => exact .zero _ _
    | _ => exact .refl _

/-- Quotients by one divisor. -/
theorem div (h : Alike x x') (y : Float32) : Alike (x / y) (x' / y) := by
  have hquotient {u u' : UnpackedFloat} (h : Unsigned u u') (w : UnpackedFloat) :
      Unsigned (UnpackedFloat.div .binary32 u w) (UnpackedFloat.div .binary32 u' w) := by
    cases h with
    | refl => exact .refl _
    | zero s s' =>
      cases w with
      | finite | infinity => exact .zero _ _
      | zero | notANumber => exact .refl _
  exact (hquotient (Unsigned.of_alike h) _).pack

@[gcongr] theorem neg (h : Alike x y) : Alike (-x) (-y) :=
  h.map (-·) (by decide)

@[gcongr] theorem abs (h : Alike x y) : Alike x.abs y.abs :=
  h.map Float32.abs (by decide)

@[gcongr] theorem sqrt (h : Alike x y) : Alike x.sqrt y.sqrt :=
  h.map Float32.sqrt (by decide)

@[gcongr] theorem floor (h : Alike x y) : Alike (Number.floor x) (Number.floor y) :=
  h.map Number.floor (by decide)

@[gcongr] theorem ceil (h : Alike x y) : Alike (Number.ceil x) (Number.ceil y) :=
  h.map Number.ceil (by decide)

@[gcongr] theorem sin (h : Alike x y) : Alike (Number.sin x) (Number.sin y) :=
  h.map Number.sin (.inr (by decide))

@[gcongr] theorem cos (h : Alike x y) : Alike (Number.cos x) (Number.cos y) :=
  h.map Number.cos (.inl (by decide))

@[gcongr] theorem tan (h : Alike x y) : Alike (Number.tan x) (Number.tan y) :=
  h.map Number.tan (.inr (by decide))

/-- Powers of one base. -/
theorem pow (x : Float32) (h : Alike y y') : Alike (Number.pow x y) (Number.pow x y') :=
  h.map (Number.pow x) (.refl _)

/-! ## Comparisons -/

theorem lt_iff (hx : Alike x x') (hy : Alike y y') : x < y ↔ x' < y' := by
  have hlt (x y : Float32) :
      x < y ↔ (x.toModel.unpack.compare y.toModel.unpack == some .lt) = true :=
    decide_eq_true_iff
  rw [hlt, hlt, (Unsigned.of_alike hx).compare_eq (.of_alike hy)]

theorem le_iff (hx : Alike x x') (hy : Alike y y') : x ≤ y ↔ x' ≤ y' := by
  have hle (x y : Float32) :
      x ≤ y ↔ (x.toModel.unpack.compare y.toModel.unpack).any (·.isLE) = true :=
    decide_eq_true_iff
  rw [hle, hle, (Unsigned.of_alike hx).compare_eq (.of_alike hy)]

theorem isNaN_eq (h : Alike x y) : x.isNaN = y.isNaN :=
  h.congr Float32.isNaN (by decide)

theorem beq_zero_eq (h : Alike x y) : (x == 0) = (y == 0) :=
  h.congr (· == 0) (by decide)

/-- Numbers that are alike and not zero are equal. -/
theorem eq_of_ne_zero (h : Alike x y) (hx : ¬ (x == 0) = true) : x = y :=
  h.resolve_right fun hzero => hx hzero.1

/-- A choice by conditions that say the same. -/
theorem ite {c c' : Prop} [Decidable c] [Decidable c'] (hc : c ↔ c') (hx : Alike x x')
    (hy : Alike y y') : Alike (if c then x else y) (if c' then x' else y') := by
  by_cases h : c
  · rw [if_pos h, if_pos (hc.mp h)]
    exact hx
  · rw [if_neg h, if_neg (mt hc.mpr h)]
    exact hy

@[gcongr] theorem least (hx : Alike x x') (hy : Alike y y') :
    Alike (Number.least x y) (Number.least x' y') := by
  have hnan : x.isNaN = true ↔ x'.isNaN = true := by rw [hx.isNaN_eq]
  exact ite (lt_iff hy hx) hy (ite hnan hy hx)

@[gcongr] theorem greatest (hx : Alike x x') (hy : Alike y y') :
    Alike (Number.greatest x y) (Number.greatest x' y') := by
  have hnan : x.isNaN = true ↔ x'.isNaN = true := by rw [hx.isNaN_eq]
  exact ite (lt_iff hx hy) hy (ite hnan hy hx)

theorem clampUnit (h : Alike x y) : Alike (Number.clampUnit x) (Number.clampUnit y) :=
  h.map Number.clampUnit (by decide)

/-- Alike numbers are stored as the same byte. -/
theorem toByte_eq (h : Alike x y) : toByte x = toByte y :=
  h.congr toByte (by decide)

end Alike
end Heightfield.Number
