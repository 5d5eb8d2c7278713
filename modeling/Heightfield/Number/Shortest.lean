/-!
# The fewest digits that read back

A binary floating-point number stands for all reals that round to it. This module finds the
decimal number with the fewest digits among them, and of those the one next to the binary number.

* `Binary` is a positive number `significand · 2^exponent`, read off the bits of a float.
* `Binary.Holds` says that a decimal rounds to it; it is decided by exact comparison of naturals.
* `Binary.shortest` walks down the decimal grids and stops at the first one with such a decimal.
-/

namespace Heightfield.Number

/-- A positive binary number `significand · 2^exponent`. -/
structure Binary where
  /-- the integer significand -/
  significand : Nat
  /-- the power of two it is scaled by -/
  exponent : Int
  /-- the number is a power of two whose lower neighbour is half as far away as the upper one -/
  narrowBelow : Bool
  deriving DecidableEq, Repr

/-- A decimal number `digits · 10^exponent`. -/
structure Decimal where
  /-- the digits, read as one integer -/
  digits : Nat
  /-- the power of ten they are scaled by -/
  exponent : Int
  deriving DecidableEq, Repr

/-- What becomes of a number half-way between two decimals of the same length. -/
inductive Tie where
  /-- the larger decimal is taken -/
  | up
  /-- the decimal with the even last digit is taken -/
  | even
  deriving DecidableEq, Repr

/-- The magnitude of a single-precision number, from its bits. -/
def Binary.ofFloat32 (x : Float32) : Binary :=
  let b := x.toBits.toNat
  let e : Nat := b / Nat.pow 2 23 % Nat.pow 2 8
  let f : Nat := b % Nat.pow 2 23
  if e = 0 then ⟨f, -149, false⟩ else ⟨Nat.pow 2 23 + f, (e : Int) - 150, f = 0 && 1 < e⟩

/-- The magnitude of a double-precision number, from its bits. -/
def Binary.ofFloat (x : Float) : Binary :=
  let b := x.toBits.toNat
  let e : Nat := b / Nat.pow 2 52 % Nat.pow 2 11
  let f : Nat := b % Nat.pow 2 52
  if e = 0 then ⟨f, -1074, false⟩ else ⟨Nat.pow 2 52 + f, (e : Int) - 1075, f = 0 && 1 < e⟩

/-- The two sides of the comparison of `digits · 10^exponent` with `n · 2^p`, brought to
integers. -/
def Decimal.against (d : Decimal) (n : Nat) (p : Int) : Nat × Nat :=
  (d.digits * Nat.pow 10 d.exponent.toNat * Nat.pow 2 (-p).toNat,
    n * Nat.pow 2 p.toNat * Nat.pow 10 (-d.exponent).toNat)

namespace Binary

/-- `d` rounds to `b`: it lies between the midpoints to the two neighbours, and may be a midpoint
when the significand is even. The midpoints are multiples of a quarter of the last place. -/
def Holds (b : Binary) (d : Decimal) : Prop :=
  let lower := d.against (4 * b.significand - if b.narrowBelow then 1 else 2) (b.exponent - 2)
  let upper := d.against (4 * b.significand + 2) (b.exponent - 2)
  if b.significand % 2 = 0 then lower.2 ≤ lower.1 ∧ upper.1 ≤ upper.2
  else lower.2 < lower.1 ∧ upper.1 < upper.2

instance (b : Binary) (d : Decimal) : Decidable (b.Holds d) := by
  unfold Holds
  exact inferInstance

/-- The decimal with all digits of `b`. -/
def exact (b : Binary) : Decimal :=
  if 0 ≤ b.exponent then ⟨b.significand * Nat.pow 2 b.exponent.toNat, 0⟩
  else ⟨b.significand * Nat.pow 5 (-b.exponent).toNat, b.exponent⟩

/-- The neighbours of `b` on the grid of multiples of `10^e` that round to `b`, the nearer one when
both do. -/
def onGrid? (tie : Tie) (b : Binary) (e : Int) : Option Decimal :=
  let sides := (Decimal.mk 1 e).against b.significand b.exponent
  let d := sides.2 / sides.1
  let below : Decimal := ⟨d, e⟩
  let above : Decimal := ⟨d + 1, e⟩
  if b.Holds below then
    if b.Holds above then
      match compare (2 * (sides.2 % sides.1)) sides.1 with
      | .lt => some below
      | .gt => some above
      | .eq => if tie = .even && d % 2 = 0 then some below else some above
    else some below
  else if b.Holds above then some above
  else none

/-- The first hit on the grids `10^e`, `10^(e-1)`, … -/
def search (tie : Tie) (b : Binary) : Nat → Int → Decimal
  | 0, _ => b.exact
  | fuel + 1, e =>
    match b.onGrid? tie e with
    | some d => d
    | none => search tie b fuel (e - 1)

/-- The decimal with the fewest digits that rounds to `b`. The first grid is coarser than `b`, and
no float needs more than seventeen digits. -/
def shortest (tie : Tie) (b : Binary) : Decimal :=
  let top := ((b.significand.log2 : Int) + 1 + b.exponent) * 30103 / 100000 + 1
  b.search tie 24 top

/-- Only decimals that round to the number are found on a grid. -/
theorem holds_of_onGrid? {tie : Tie} {b : Binary} {e : Int} {d : Decimal}
    (h : b.onGrid? tie e = some d) : b.Holds d := by
  simp only [onGrid?] at h
  split at h
  next hb =>
    split at h
    next ha =>
      split at h
      · obtain rfl := Option.some.inj h; exact hb
      · obtain rfl := Option.some.inj h; exact ha
      · split at h
        · obtain rfl := Option.some.inj h; exact hb
        · obtain rfl := Option.some.inj h; exact ha
    next => obtain rfl := Option.some.inj h; exact hb
  next =>
    split at h
    next ha => obtain rfl := Option.some.inj h; exact ha
    next => cases h

end Binary
end Heightfield.Number
