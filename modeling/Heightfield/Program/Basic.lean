import Heightfield.Graph.Kind

/-!
# Programs

A pattern graph is lowered to a program: statements that each bind one variable, in an order in
which every variable is bound before it is read, and one result. A program says what is computed;
how it is spelled is a matter of the shader dialect.
-/

namespace Heightfield

/-- A component of a vector. -/
inductive Axis where
  | x | y | z
  deriving DecidableEq, Repr, Inhabited

/-- The letter of a component. -/
def Axis.letter : Axis → String
  | .x => "x"
  | .y => "y"
  | .z => "z"

/-- The component that a letter stands for. -/
def Axis.ofLetter? : String → Option Axis
  | "x" => some .x
  | "y" => some .y
  | "z" => some .z
  | _ => none

/-- The component of a vector. -/
def Axis.of (a : Axis) (v : Vec3) : Float32 :=
  match a with
  | .x => v.x
  | .y => v.y
  | .z => v.z

/-- An expression. -/
inductive Expr where
  /-- a fixed number -/
  | scalar (a : Float32)
  /-- a fixed vector -/
  | vector (v : Vec3)
  /-- the elapsed time, already scaled by the speed of the time node -/
  | time
  /-- the sampled position -/
  | position
  /-- a variable, by its index -/
  | var (index : Nat)
  /-- the vector with three components equal to a number -/
  | broadcast (e : Expr)
  /-- one component of a vector -/
  | component (e : Expr) (axis : Axis)
  /-- a vector from three numbers -/
  | combine (x y z : Expr)
  /-- an operator on numbers -/
  | math (operation : ScalarOperation) (a b : Expr)
  /-- an operator on vectors, with its natural outcome -/
  | vectorMath (operation : VectorOperation) (a b factor : Expr)
  /-- a wave texture -/
  | wave (settings : WaveSettings) (point phase : Expr)
  /-- a noise texture -/
  | noise (point factor : Expr)
  deriving DecidableEq, Repr, Inhabited

namespace Expr

/-- A value of one type where another is expected: numbers are broadcast, vectors give their first
component. -/
def coerce (e : Expr) : (source target : SocketType) → Expr
  | .scalar, .vector => .broadcast e
  | .vector, .scalar => .component e .x
  | _, _ => e

/-- The expression is a name, which takes a component selection without parentheses. -/
def isAtom : Expr → Bool
  | .var _ => true
  | .position => true
  | .time => true
  | _ => false

@[simp] theorem coerce_self (e : Expr) (t : SocketType) : e.coerce t t = e := by
  cases t <;> rfl

end Expr

/-- A variable. -/
structure Var where
  name : String
  type : SocketType
  deriving DecidableEq, Repr, Inhabited

/-- A statement binds the variable of an index to the value of an expression. -/
structure Stmt where
  var : Nat
  expr : Expr
  deriving DecidableEq, Repr, Inhabited

/-- What a program ends with. -/
inductive ProgramResult where
  /-- a number, which is clamped to the unit range and shown as grey -/
  | value (e : Expr)
  /-- there is an output node, but nothing usable feeds it -/
  | zero
  /-- there is no output node -/
  | errorColor
  deriving DecidableEq, Repr, Inhabited

/-- A lowered pattern graph. -/
structure Program where
  vars : List Var
  stmts : List Stmt
  result : ProgramResult
  /-- positions are world positions and not derived from the texel alone -/
  useWorldPos : Bool
  deriving DecidableEq, Repr, Inhabited

namespace Program

/-- A program without statements. -/
def constant (result : ProgramResult) (useWorldPos : Bool) : Program :=
  ⟨[], [], result, useWorldPos⟩

/-- The name of a variable. A program is to ask for its own variables only, as all lowered programs
do. One that asks for another cannot be written; here the empty name stands for that failure. -/
def varName (p : Program) (index : Nat) : String :=
  (p.vars[index]?.getD default).name

/-- The type of a variable, which is asked for like its name. -/
def varType (p : Program) (index : Nat) : SocketType :=
  (p.vars[index]?.getD default).type

/-- The index of the first variable of a name. -/
def varNamed? (p : Program) (name : String) : Option Nat :=
  p.vars.findIdx? (·.name = name)

end Program
end Heightfield
