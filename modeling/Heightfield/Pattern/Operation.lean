import Heightfield.Choice
import Heightfield.Pattern.Vec3

/-!
# Operators

The operators of the two arithmetic node types. Their results end up in a colour channel, so
division by zero and the undefined parts of roots and powers have the value 0.

* `ScalarOperation.apply` works on two numbers.
* `VectorOperation.apply` works on two vectors and a factor and has two outcomes: a vector and a
  number, of which one is natural and the other derived from it.
-/

namespace Heightfield

open Number

/-- The operators on numbers. -/
inductive ScalarOperation where
  | add | subtract | multiply | divide | power | sqrt | absolute | floor | ceil | round | fract
  | modulo | minimum | maximum | sign | sine | cosine | tangent
  deriving DecidableEq, Repr, Inhabited

instance : Choice ScalarOperation where
  label := "math operation"
  fallback := .add
  names := [
    ("ADD", .add), ("SUBTRACT", .subtract), ("SUB", .subtract), ("MULTIPLY", .multiply),
    ("MUL", .multiply), ("DIVIDE", .divide), ("DIV", .divide), ("POWER", .power), ("POW", .power),
    ("SQRT", .sqrt), ("ABSOLUTE", .absolute), ("ABS", .absolute), ("FLOOR", .floor),
    ("CEIL", .ceil), ("ROUND", .round), ("FRACT", .fract), ("FRACTION", .fract),
    ("MODULO", .modulo), ("MOD", .modulo), ("MINIMUM", .minimum), ("MIN", .minimum),
    ("MAXIMUM", .maximum), ("MAX", .maximum), ("SIGN", .sign), ("SINE", .sine), ("SIN", .sine),
    ("COSINE", .cosine), ("COS", .cosine), ("TANGENT", .tangent), ("TAN", .tangent)]

/-- The operators on vectors. -/
inductive VectorOperation where
  | add | subtract | multiply | divide | scale | crossProduct | dotProduct | length | distance
  | normalize | floor | ceil | fraction | absolute | minimum | maximum | sine | cosine | tangent
  deriving DecidableEq, Repr, Inhabited

instance : Choice VectorOperation where
  label := "vector math operation"
  fallback := .add
  names := [
    ("ADD", .add), ("SUBTRACT", .subtract), ("SUB", .subtract), ("MULTIPLY", .multiply),
    ("MUL", .multiply), ("DIVIDE", .divide), ("DIV", .divide), ("SCALE", .scale),
    ("CROSS_PRODUCT", .crossProduct), ("CROSS", .crossProduct), ("DOT_PRODUCT", .dotProduct),
    ("DOT", .dotProduct), ("LENGTH", .length), ("DISTANCE", .distance),
    ("NORMALIZE", .normalize), ("FLOOR", .floor), ("CEIL", .ceil), ("FRACTION", .fraction),
    ("FRACT", .fraction), ("ABSOLUTE", .absolute), ("ABS", .absolute), ("MINIMUM", .minimum),
    ("MIN", .minimum), ("MAXIMUM", .maximum), ("MAX", .maximum), ("SINE", .sine), ("SIN", .sine),
    ("COSINE", .cosine), ("COS", .cosine), ("TANGENT", .tangent), ("TAN", .tangent)]

/-! ## Guarded arithmetic -/

/-- The quotient, 0 for a zero divisor. -/
def safeDivide (a b : Float32) : Float32 :=
  if b == 0 then 0 else a / b

/-- The square root, 0 for a negative number. -/
def safeSqrt (a : Float32) : Float32 :=
  if a < 0 then 0 else a.sqrt

/-- The power, 0 for a base that is not positive. -/
def safePower (a b : Float32) : Float32 :=
  if a ≤ 0 then 0 else pow a b

/-- The floored remainder, with the sign of the divisor; 0 for a zero divisor. -/
def flooredModulo (a b : Float32) : Float32 :=
  if b == 0 then 0 else a - b * floor (a / b)

/-- The distance from the floor. -/
def fractionalPart (a : Float32) : Float32 :=
  a - floor a

/-- 1, -1 or 0 by the sign of the number. -/
def signOf (a : Float32) : Float32 :=
  if 0 < a then 1 else if a < 0 then -1 else 0

/-- The floor of the number raised by a half. -/
def roundUp (a : Float32) : Float32 :=
  floor (a + 0.5)

/-- The value of an operator; operators of one operand ignore the second. -/
def ScalarOperation.apply (op : ScalarOperation) (a b : Float32) : Float32 :=
  match op with
  | .add => a + b
  | .subtract => a - b
  | .multiply => a * b
  | .divide => safeDivide a b
  | .power => safePower a b
  | .sqrt => safeSqrt a
  | .absolute => a.abs
  | .floor => Number.floor a
  | .ceil => Number.ceil a
  | .round => roundUp a
  | .fract => fractionalPart a
  | .modulo => flooredModulo a b
  | .minimum => least a b
  | .maximum => greatest a b
  | .sign => signOf a
  | .sine => sin a
  | .cosine => cos a
  | .tangent => tan a

/-! ## Vector operators -/

/-- Lengths below this count as zero when a vector is normalised. -/
def normalizeEpsilon : Float32 := 1e-6

/-- The vector of length 1 in the same direction, zero for a vector that is too short. -/
def Vec3.normalize (v : Vec3) : Vec3 :=
  if v.length < normalizeEpsilon then Vec3.zero else v * (1 / v.length)

/-- The two outcomes of a vector operator. -/
structure VectorOutcome where
  vector : Vec3
  value : Float32
  deriving DecidableEq, Repr

/-- An operator whose natural outcome is a vector has the number `x`. -/
def VectorOutcome.ofVector (v : Vec3) : VectorOutcome := ⟨v, v.x⟩

/-- An operator whose natural outcome is a number has the vector of equal components. -/
def VectorOutcome.ofValue (a : Float32) : VectorOutcome := ⟨Vec3.splat a, a⟩

/-- The natural outcome of the operator is a number. -/
def VectorOperation.isScalar : VectorOperation → Bool
  | .dotProduct => true
  | .length => true
  | .distance => true
  | _ => false

/-- The outcomes of an operator; operators of one operand ignore the second, and only `scale` uses
the factor. -/
def VectorOperation.apply (op : VectorOperation) (a b : Vec3) (factor : Float32) : VectorOutcome :=
  match op with
  | .add => .ofVector (a + b)
  | .subtract => .ofVector (a - b)
  | .multiply => .ofVector (Vec3.zip (· * ·) a b)
  | .divide => .ofVector (Vec3.zip safeDivide a b)
  | .scale => .ofVector (a * factor)
  | .crossProduct => .ofVector (a.cross b)
  | .dotProduct => .ofValue (a.dot b)
  | .length => .ofValue a.length
  | .distance => .ofValue (a - b).length
  | .normalize => .ofVector a.normalize
  | .floor => .ofVector (a.map Number.floor)
  | .ceil => .ofVector (a.map Number.ceil)
  | .fraction => .ofVector (a.map fractionalPart)
  | .absolute => .ofVector (a.map Float32.abs)
  | .minimum => .ofVector (Vec3.zip least a b)
  | .maximum => .ofVector (Vec3.zip greatest a b)
  | .sine => .ofVector (a.map sin)
  | .cosine => .ofVector (a.map cos)
  | .tangent => .ofVector (a.map tan)

/-- The number of an operator is the first component of its vector. -/
theorem VectorOperation.value_eq_x (op : VectorOperation) (a b : Vec3) (factor : Float32) :
    (op.apply a b factor).value = (op.apply a b factor).vector.x := by
  cases op <;> rfl

/-- The vector of an operator with a natural number has equal components. -/
theorem VectorOperation.vector_of_isScalar {op : VectorOperation} (h : op.isScalar = true)
    (a b : Vec3) (factor : Float32) :
    (op.apply a b factor).vector = Vec3.splat (op.apply a b factor).value := by
  cases op <;> simp only [isScalar, Bool.false_eq_true] at h <;> rfl

end Heightfield
