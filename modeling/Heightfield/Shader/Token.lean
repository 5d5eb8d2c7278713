import Heightfield.Choice
import Heightfield.Number.Layout
import Heightfield.Program.Basic

/-!
# Shader tokens

An expression is spelled in two steps: `Expr.tokens` lists its tokens, which are the same for every
dialect, and `Token.spell` writes a token in a dialect. The dialects differ only in the spelling of
types, of the time and of the position.
-/

namespace Heightfield

/-- The shading languages. -/
inductive Dialect where
  | wgsl | glsl
  deriving DecidableEq, Repr, Inhabited

/-- The name of a dialect. -/
def Dialect.name : Dialect → String
  | .wgsl => "wgsl"
  | .glsl => "glsl"

/-- A name that is no dialect. -/
structure UnknownDialect where
  raw : String
  deriving DecidableEq, Repr

/-- The wording of the error; the name is given in lower case, without blanks around it. -/
def UnknownDialect.message (e : UnknownDialect) : String :=
  s!"unknown shader dialect '{e.raw}' (expected wgsl or glsl)"

/-- The dialect that a name stands for, in any case and with blanks around it. -/
def Dialect.parse (raw : String) : Except UnknownDialect Dialect :=
  match Text.lower (Text.trim raw) with
  | "wgsl" => .ok .wgsl
  | "glsl" => .ok .glsl
  | other => .error ⟨other⟩

namespace Shader

/-- A number as both dialects read it: always with a point. There is no way to write a number that
is not finite and no need to write a negative zero; both become `0.0`. -/
def formatFloat (x : Float32) : String :=
  if x.isFinite then
    if x == 0 then "0.0" else Number.Layout.withPoint.writeFloat32 x
  else "0.0"

/-- A piece of shader text that is spelled as a whole. -/
inductive Token where
  /-- the name of a variable, a function or a component -/
  | word (s : String)
  /-- an operator, a bracket or a separator, with the blanks around it -/
  | symbol (s : String)
  /-- a number -/
  | number (x : Float32)
  /-- a whole number -/
  | whole (n : Nat)
  /-- the type of numbers -/
  | scalarType
  /-- the type of vectors, which also makes a vector from its components -/
  | vectorType
  /-- the elapsed time -/
  | time
  /-- the sampled position -/
  | position
  deriving DecidableEq, Repr

/-- The spelling of a token. -/
def Token.spell (d : Dialect) : Token → String
  | .word s => s
  | .symbol s => s
  | .number x => formatFloat x
  | .whole n => toString n
  | .scalarType => match d with
    | .wgsl => "f32"
    | .glsl => "float"
  | .vectorType => match d with
    | .wgsl => "vec3<f32>"
    | .glsl => "vec3"
  | .time => match d with
    | .wgsl => "globals.time"
    | .glsl => "uTime"
  | .position => match d with
    | .wgsl => "sample_pos"
    | .glsl => "samplePos"

/-- The spelling of tokens in a row. -/
def spellAll (d : Dialect) (ts : List Token) : String :=
  String.join (ts.map (Token.spell d))

/-- The token of a type. -/
def typeToken : SocketType → Token
  | .scalar => .scalarType
  | .vector => .vectorType

/-! ## Phrases -/

/-- Tokens in parentheses. -/
def parens (ts : List Token) : List Token :=
  .symbol "(" :: ts ++ [.symbol ")"]

/-- Phrases with commas between them. -/
def commas : List (List Token) → List Token
  | [] => []
  | [ts] => ts
  | ts :: rest => ts ++ .symbol ", " :: commas rest

/-- A call of a function. -/
def call (name : String) (arguments : List (List Token)) : List Token :=
  .word name :: parens (commas arguments)

/-- A vector from phrases for its components, or from one for all of them. -/
def vectorOf (components : List (List Token)) : List Token :=
  .vectorType :: parens (commas components)

/-- Two operands with an operator between them, in parentheses. -/
def infixOf (operator : String) (a b : List Token) : List Token :=
  parens (a ++ .symbol operator :: b)

/-- A number as an operand: a negative one stands in parentheses, so that two minus signs never
meet. -/
def literal (x : Float32) : List Token :=
  if x.isFinite && x < 0 then parens [.number x] else [.number x]

/-- An operator on numbers. -/
def scalarPhrase (op : ScalarOperation) (a b : List Token) : List Token :=
  match op with
  | .add => infixOf " + " a b
  | .subtract => infixOf " - " a b
  | .multiply => infixOf " * " a b
  | .divide => call "safe_div" [a, b]
  | .power => call "safe_pow" [a, b]
  | .sqrt => call "safe_sqrt" [a]
  | .absolute => call "abs" [a]
  | .floor => call "floor" [a]
  | .ceil => call "ceil" [a]
  | .round => call "floor" [a ++ [.symbol " + ", .number 0.5]]
  | .fract => call "fract" [a]
  | .modulo => call "floored_mod" [a, b]
  | .minimum => call "min" [a, b]
  | .maximum => call "max" [a, b]
  | .sign => call "sign" [a]
  | .sine => call "sin" [a]
  | .cosine => call "cos" [a]
  | .tangent => call "tan" [a]

/-- An operator on vectors. -/
def vectorPhrase (op : VectorOperation) (a b factor : List Token) : List Token :=
  match op with
  | .add => infixOf " + " a b
  | .subtract => infixOf " - " a b
  | .multiply => infixOf " * " a b
  | .divide => call "safe_div3" [a, b]
  | .scale => infixOf " * " a factor
  | .crossProduct => call "cross" [a, b]
  | .dotProduct => call "dot" [a, b]
  | .length => call "length" [a]
  | .distance => call "distance" [a, b]
  | .normalize => call "safe_normalize" [a]
  | .floor => call "floor" [a]
  | .ceil => call "ceil" [a]
  | .fraction => call "fract" [a]
  | .absolute => call "abs" [a]
  | .minimum => call "min" [a, b]
  | .maximum => call "max" [a, b]
  | .sine => call "sin" [a]
  | .cosine => call "cos" [a]
  | .tangent => call "tan" [a]

/-- The number by which a shader knows a wave type. -/
def waveTypeCode : WaveType → Nat
  | .bands => 0
  | .rings => 1

/-- The number by which a shader knows a direction. -/
def directionCode : WaveDirection → Nat
  | .x => 0
  | .y => 1
  | .z => 2
  | .diagonal => 3

/-- The number by which a shader knows a profile. -/
def profileCode : WaveProfile → Nat
  | .sine => 0
  | .saw => 1

/-- A wave texture: the point, the phase and the settings. -/
def wavePhrase (w : WaveSettings) (point phase : List Token) : List Token :=
  call "wave_texture" [point, phase, literal w.waveScale, literal w.distortion,
    [.whole w.detail], literal w.detailScale, literal w.detailRoughness,
    [.whole (waveTypeCode w.waveType)], [.whole (directionCode w.direction)],
    [.whole (profileCode w.profile)]]

/-- A noise texture: the point is scaled, and the noise moved into the unit range. -/
def noisePhrase (point factor : List Token) : List Token :=
  parens ([.number 0.5, .symbol " * "] ++ call "snoise" [point ++ .symbol " * " :: factor] ++
    [.symbol " + ", .number 0.5])

end Shader

open Shader

/-- The tokens of an expression; `name` gives the names of variables. -/
def Expr.tokens (name : Nat → String) : Expr → List Token
  | .scalar a => literal a
  | .vector v => vectorOf [[.number v.x], [.number v.y], [.number v.z]]
  | .time => [.time]
  | .position => [.position]
  | .var index => [.word (name index)]
  | .broadcast e => vectorOf [e.tokens name]
  | .component e axis =>
    let inner := if e.isAtom then e.tokens name else parens (e.tokens name)
    inner ++ [.symbol ".", .word axis.letter]
  | .combine x y z => vectorOf [x.tokens name, y.tokens name, z.tokens name]
  | .math operation a b => scalarPhrase operation (a.tokens name) (b.tokens name)
  | .vectorMath operation a b factor =>
    vectorPhrase operation (a.tokens name) (b.tokens name) (factor.tokens name)
  | .wave settings point phase => wavePhrase settings (point.tokens name) (phase.tokens name)
  | .noise point factor => noisePhrase (point.tokens name) (factor.tokens name)

end Heightfield
