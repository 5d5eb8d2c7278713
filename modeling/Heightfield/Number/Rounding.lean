/-!
# Rounding and ordering of single-precision numbers

Every number that reaches a texel is a `Float32`. This module holds the operations on them that
the arithmetic operators do not give:

* `truncate`, `floor`, `ceil` and `roundAway` work on the bit pattern, so they compute in the
  kernel as well as at run time;
* `least`, `greatest` and `clamp` say what becomes of a NaN;
* `toByte` stores a channel value as one byte.
-/

namespace Heightfield.Number

/-- The biased exponent: 0 for zeros and subnormals, 255 for infinities and NaN. -/
def biasedExponent (x : Float32) : UInt32 :=
  (x.toBits >>> 23) &&& 0xff

/-- The integer next to `x` on the side of zero, with the sign of `x`. From 2^23 on every number
is its own integer part; infinities and NaN stay as they are. -/
def truncate (x : Float32) : Float32 :=
  let e := biasedExponent x
  if e < 127 then
    Float32.ofBits (x.toBits &&& 0x80000000)
  else if e < 150 then
    let k := 150 - e
    Float32.ofBits ((x.toBits >>> k) <<< k)
  else
    x

/-- The greatest integer that is not above `x`. -/
def floor (x : Float32) : Float32 :=
  let t := truncate x
  if x < t then t - 1 else t

/-- The least integer that is not below `x`. -/
def ceil (x : Float32) : Float32 :=
  let t := truncate x
  if t < x then t + 1 else t

/-- The nearest integer; a half goes away from zero. -/
def roundAway (x : Float32) : Float32 :=
  let t := truncate x
  if (x - t).abs < 0.5 then t
  else if x < 0 then t - 1
  else if 0 < x then t + 1
  else t

/-- The smaller operand, or the other one when one is NaN. -/
def least (a b : Float32) : Float32 :=
  if b < a then b else if a.isNaN then b else a

/-- The larger operand, or the other one when one is NaN. -/
def greatest (a b : Float32) : Float32 :=
  if a < b then b else if a.isNaN then b else a

/-- `x` moved into the range from `lo` to `hi`; a NaN stays a NaN. -/
def clamp (x lo hi : Float32) : Float32 :=
  let y := if x < lo then lo else x
  if hi < y then hi else y

/-- `x` moved into the unit range, where a NaN counts as 0. -/
def clampUnit (x : Float32) : Float32 :=
  if x.isNaN then 0 else clamp x 0 1

/-- The byte that stores a channel: clamped to the unit range, scaled to 255 and rounded with
halves going up. A NaN is stored as 0. -/
def toByte (x : Float32) : UInt8 :=
  (roundAway (clampUnit x * 255)).toUInt8

/-- The channel value that a byte stands for. -/
def ofByte (b : UInt8) : Float32 :=
  b.toFloat32 / 255

/-! ## Circular functions and powers

The circular functions and the power are those of single precision. At zero they are written out,
since they are exact there: a sine and a tangent are the zero itself, a cosine and a power with that
exponent are 1, also if the base is a NaN. -/

/-- The sine of an angle in radians. -/
def sin (x : Float32) : Float32 := if x == 0 then x else x.sin

/-- The cosine of an angle in radians. -/
def cos (x : Float32) : Float32 := if x == 0 then 1 else x.cos

/-- The tangent of an angle in radians. -/
def tan (x : Float32) : Float32 := if x == 0 then x else x.tan

/-- `x` to the power `y`. -/
def pow (x y : Float32) : Float32 := if y == 0 then 1 else x.pow y

/-! ## The total order of bit patterns -/

/-- A key by which numbers sort as on the number line, with `-0` before `0`. -/
def orderKey (x : Float32) : Int :=
  let b := x.toBits.toNat
  if b < 0x80000000 then b else 0x7fffffff - (b : Int)

end Heightfield.Number
