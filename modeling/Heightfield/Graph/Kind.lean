import Heightfield.Pattern.Wave

/-!
# Node kinds

What a node of a pattern graph computes. Every kind carries its own settings and has fixed tables
of input and output sockets, each with the type of value that passes through it.

* `NodeKind.outputs` and `NodeKind.inputs` are the socket tables.
* `NodeKind.outputType?` says what leaves a socket of any name.
-/

namespace Heightfield

/-- The type of value that passes through a socket. -/
inductive SocketType where
  | scalar | vector
  deriving DecidableEq, Repr, Inhabited

/-- The node types of the editor. -/
inductive NodeType where
  | time | value | vector | position | combineXyz | separateXyz | math | vectorMath | waveTexture
  | noiseTexture | parameter | output
  deriving DecidableEq, Repr, Inhabited

/-- The editor's name of a node type. -/
def NodeType.name : NodeType → String
  | .time => "TIME"
  | .value => "VALUE"
  | .vector => "VECTOR"
  | .position => "POSITION"
  | .combineXyz => "COMBINE_XYZ"
  | .separateXyz => "SEPARATE_XYZ"
  | .math => "MATH"
  | .vectorMath => "VECTOR_MATH"
  | .waveTexture => "WAVE_TEXTURE"
  | .noiseTexture => "NOISE_TEXTURE"
  | .parameter => "PARAMETER"
  | .output => "OUTPUT"

/-- All node types. -/
def NodeType.all : List NodeType :=
  [.time, .value, .vector, .position, .combineXyz, .separateXyz, .math, .vectorMath, .waveTexture,
    .noiseTexture, .parameter, .output]

/-- The node type that a name stands for, in any case and with blanks around it. -/
def NodeType.parse? (raw : String) : Option NodeType :=
  NodeType.all.find? fun t => t.name = Text.nameKey raw

/-- The settings of a parameter: a named number that can be set from outside. -/
structure ParameterSettings where
  name : String
  value : Float32
  min : Float32
  max : Float32
  default : Float32
  step : Float32
  deriving DecidableEq, Repr, Inhabited

/-- A value moved into the range of the parameter; it is left alone if the range is empty or one
of its ends is no number. -/
def ParameterSettings.clampValue (p : ParameterSettings) (x : Float32) : Float32 :=
  if p.min ≤ p.max then Number.clamp x p.min p.max else x

/-- What a node computes, with its settings. -/
inductive NodeKind where
  /-- the elapsed time; the speed scales how fast it passes -/
  | time (speed : Float32)
  /-- a fixed number -/
  | value (value : Float32)
  /-- a fixed vector -/
  | vector (v : Vec3)
  /-- the sampled position -/
  | position
  /-- a vector from three numbers; the settings stand in for unconnected ones -/
  | combineXyz (v : Vec3)
  /-- the three components of a vector -/
  | separateXyz
  /-- an operator on two numbers; the setting stands in for an unconnected second one -/
  | math (operation : ScalarOperation) (value : Float32)
  /-- an operator on two vectors; the setting stands in for an unconnected factor -/
  | vectorMath (operation : VectorOperation) (scale : Float32)
  /-- a wave texture -/
  | waveTexture (settings : WaveSettings)
  /-- a noise texture; the setting stands in for an unconnected scale -/
  | noiseTexture (scale : Float32)
  /-- a named number -/
  | parameter (settings : ParameterSettings)
  /-- the sink: its input is the height -/
  | output
  deriving DecidableEq, Repr, Inhabited

namespace NodeKind

/-- The editor's type of the node. -/
def type : NodeKind → NodeType
  | .time _ => .time
  | .value _ => .value
  | .vector _ => .vector
  | .position => .position
  | .combineXyz _ => .combineXyz
  | .separateXyz => .separateXyz
  | .math .. => .math
  | .vectorMath .. => .vectorMath
  | .waveTexture _ => .waveTexture
  | .noiseTexture _ => .noiseTexture
  | .parameter _ => .parameter
  | .output => .output

/-- The output sockets with the type that each produces; the first one is the primary output. -/
def outputs : NodeKind → List (String × SocketType)
  | .time _ => [("value", .scalar)]
  | .value _ => [("value", .scalar)]
  | .parameter _ => [("value", .scalar)]
  | .math .. => [("value", .scalar)]
  | .waveTexture _ => [("value", .scalar)]
  | .noiseTexture _ => [("value", .scalar)]
  | .vector _ => [("vector", .vector)]
  | .position => [("vector", .vector)]
  | .combineXyz _ => [("vector", .vector)]
  | .separateXyz => [("x", .scalar), ("y", .scalar), ("z", .scalar)]
  | .vectorMath .. => [("vector", .vector), ("value", .scalar)]
  | .output => []

/-- The type of what leaves a socket. A name that is not in the table stands for the primary
output, and the names `x`, `y` and `z` for a number. -/
def outputType? (k : NodeKind) (socket : String) : Option SocketType :=
  match k.outputs.lookup socket with
  | some t => some t
  | none =>
    if socket = "x" || socket = "y" || socket = "z" then some .scalar
    else k.outputs.head?.map (·.2)

/-- The input sockets with the type that each expects. -/
def inputs : NodeKind → List (String × SocketType)
  | .combineXyz _ => [("x", .scalar), ("y", .scalar), ("z", .scalar)]
  | .separateXyz => [("vector", .vector)]
  | .math .. => [("a", .scalar), ("b", .scalar)]
  | .vectorMath .. => [("a", .vector), ("b", .vector), ("scale", .scalar)]
  | .waveTexture _ => [("vector", .vector), ("phase", .scalar)]
  | .noiseTexture _ => [("vector", .vector), ("scale", .scalar)]
  | .output => [("value", .scalar)]
  | .time _ => []
  | .value _ => []
  | .vector _ => []
  | .position => []
  | .parameter _ => []

/-- The type that an input socket expects; a name that is not in the table is no input. -/
def inputType? (k : NodeKind) (socket : String) : Option SocketType :=
  k.inputs.lookup socket

end NodeKind
end Heightfield
