import Heightfield.Program.Basic

/-!
# Evaluation

A program is evaluated at a sample, which is a time and a position. Statements fill registers, one
for each variable; the result is a number in the unit range, or nothing for the program of a graph
without an output.

* `Expr.eval` evaluates an expression over registers.
* `Program.run` fills the registers, `Program.refill` ones that have been used before.
* `Program.height?` is the result, and `Program.color` the colour that shows it.
-/

namespace Heightfield

/-- A value that passes through a socket. -/
inductive Signal where
  | scalar (a : Float32)
  | vector (v : Vec3)
  deriving DecidableEq, Repr

instance : Inhabited Signal := ⟨.scalar 0⟩

namespace Signal

/-- The value as a number: of a vector, the first component. -/
def toScalar : Signal → Float32
  | .scalar a => a
  | .vector v => v.x

/-- The value as a vector: of a number, the vector of equal components. -/
def toVector : Signal → Vec3
  | .scalar a => Vec3.splat a
  | .vector v => v

/-- The type of the value. -/
def type : Signal → SocketType
  | .scalar _ => .scalar
  | .vector _ => .vector

end Signal

/-- Where and when a program is evaluated. -/
structure Sample where
  /-- the elapsed time, already scaled by the speed of the time node -/
  time : Float32
  position : Vec3
  deriving DecidableEq, Repr, Inhabited

/-- The values of the variables. -/
abbrev Registers := Array Signal

/-- The value of a variable; one that has no register is 0. -/
def Registers.read (r : Registers) (index : Nat) : Signal :=
  r[index]?.getD (.scalar 0)

/-- Registers that have been used before, emptied and set to 0. -/
def Registers.reset (r : Registers) (count : Nat) : Registers :=
  (r.shrink 0).rightpad count (.scalar 0)

/-- The value of an expression. -/
def Expr.eval (r : Registers) (s : Sample) : Expr → Signal
  | .scalar a => .scalar a
  | .vector v => .vector v
  | .time => .scalar s.time
  | .position => .vector s.position
  | .var index => Registers.read r index
  | .broadcast e => .vector (e.eval r s).toVector
  | .component e axis => .scalar (axis.of (e.eval r s).toVector)
  | .combine x y z =>
    .vector ⟨(x.eval r s).toScalar, (y.eval r s).toScalar, (z.eval r s).toScalar⟩
  | .math operation a b => .scalar (operation.apply (a.eval r s).toScalar (b.eval r s).toScalar)
  | .vectorMath operation a b factor =>
    let outcome :=
      operation.apply (a.eval r s).toVector (b.eval r s).toVector (factor.eval r s).toScalar
    if operation.isScalar then .scalar outcome.value else .vector outcome.vector
  | .wave settings point phase =>
    .scalar (settings.texture (point.eval r s).toVector (phase.eval r s).toScalar)
  | .noise point factor =>
    .scalar (Simplex.texture (point.eval r s).toVector (factor.eval r s).toScalar)

namespace Program

/-- The colour of a program without an output: opaque magenta. -/
def errorColor : List Float32 := [1, 0, 1, 1]

/-- Executes one statement; a variable without a register is not stored. -/
def step (s : Sample) (r : Registers) (stmt : Stmt) : Registers :=
  r.setIfInBounds stmt.var (stmt.expr.eval r s)

/-- The registers after all statements. They start at 0. -/
def run (p : Program) (s : Sample) : Registers :=
  p.stmts.foldl (step s) (Array.replicate p.vars.length (.scalar 0))

/-- Fills registers that have been used before. -/
def refill (p : Program) (s : Sample) (r : Registers) : Registers :=
  p.stmts.foldl (step s) (r.reset p.vars.length)

/-- The result over registers that have been filled. -/
def resultOver? (p : Program) (s : Sample) (r : Registers) : Option Float32 :=
  match p.result with
  | .errorColor => none
  | .zero => some 0
  | .value e => some (Number.clampUnit (e.eval r s).toScalar)

/-- The height at a sample, in the unit range; nothing if the graph has no output. -/
def height? (p : Program) (s : Sample) : Option Float32 :=
  p.resultOver? s (p.run s)

/-- The colour that shows a height. -/
def shade : Option Float32 → List Float32
  | some a => [a, a, a, 1]
  | none => errorColor

/-- The colour at a sample: red, green, blue and opacity. -/
def color (p : Program) (s : Sample) : List Float32 :=
  shade (p.height? s)

end Program
end Heightfield
