import Heightfield.Heightmap.Config
import Heightfield.Program.Lowering
import Heightfield.Shader.Glsl
import Heightfield.Shader.Token
import Heightfield.Shader.Wgsl

/-!
# Shader source

The source text of a program. A WGSL shader is a whole module with a vertex and a fragment stage, a
GLSL shader a fragment stage that is given its coordinates. Equal graphs have equal sources, so the
source serves as the key by which a shader is recognised.

* `Shader.body` is the part that depends on the program, line by line.
* `Program.source` is the whole text.
* `compile` lowers a graph and writes its source.
-/

namespace Heightfield

namespace Shader

/-- The declaration of a variable. -/
def statement (d : Dialect) (p : Program) (s : Stmt) : String :=
  let name := p.varName s.var
  let type := (typeToken (p.varType s.var)).spell d
  let value := spellAll d (s.expr.tokens p.varName)
  match d with
  | .wgsl => s!"  let {name}: {type} = {value};"
  | .glsl => s!"  {type} {name} = {value};"

/-- The line that writes a colour with four components. -/
def writeColor (d : Dialect) (components : String) : String :=
  match d with
  | .wgsl => s!"  return vec4<f32>({components});"
  | .glsl => s!"  gl_FragColor = vec4({components});"

/-- The lines that write a height as grey. -/
def writeHeight (d : Dialect) (value : String) : List String :=
  match d with
  | .wgsl =>
    [s!"  let finalValue = clamp({value}, 0.0, 1.0);",
      writeColor d "finalValue, finalValue, finalValue, 1.0"]
  | .glsl =>
    [s!"  float finalValue = clamp({value}, 0.0, 1.0);",
      writeColor d "vec3(finalValue), 1.0"]

/-- The lines that write the result. -/
def ending (d : Dialect) (p : Program) : List String :=
  match p.result with
  | .errorColor => [writeColor d "1.0, 0.0, 1.0, 1.0"]
  | .zero => writeHeight d "0.0"
  | .value e => writeHeight d (spellAll d (e.tokens p.varName))

/-- The line that computes the position. -/
def positionLine (d : Dialect) (useWorldPos : Bool) : String :=
  match d with
  | .wgsl =>
    let extent := if useWorldPos then "globals.world_size" else "GRID_WORLD_SIZE"
    s!"  let sample_pos = vec3<f32>((cell_uv - 0.5) * {extent}, 0.0);"
  | .glsl =>
    if useWorldPos then "  vec3 samplePos = vWorldPos;"
    else "  vec3 samplePos = vec3((vUv - 0.5) * GRID_WORLD_SIZE, 0.0);"

/-- The lines before the fragment stage. -/
def header (d : Dialect) (useWorldPos : Bool) : List String :=
  let size := formatFloat gridWorldSize
  match d with
  | .wgsl =>
    Wgsl.preludeLines ++ [""] ++ Wgsl.libraryLines ++
      ["", s!"const GRID_WORLD_SIZE: f32 = {size};", ""]
  | .glsl =>
    ["precision highp float;", "", "uniform float uTime;", "varying vec2 vUv;"] ++
      (if useWorldPos then ["varying vec3 vWorldPos;"] else []) ++
      ["", s!"const float GRID_WORLD_SIZE = {size};", ""] ++
      Glsl.preludeLines ++ [""] ++ Glsl.libraryLines ++ [""]

/-- The lines that open the fragment stage. -/
def opening (d : Dialect) (useWorldPos : Bool) : List String :=
  match d with
  | .wgsl =>
    ["@fragment",
      "fn fs_main(frag: VertexOutput) -> @location(0) vec4<f32> \x7b",
      "  let cell_uv = floor(frag.position.xy) / globals.resolution;",
      positionLine d useWorldPos]
  | .glsl => ["void main() \x7b", positionLine d useWorldPos]

/-- The lines of the fragment stage. -/
def body (d : Dialect) (p : Program) : List String :=
  opening d p.useWorldPos ++ p.stmts.map (statement d p) ++ ending d p ++ ["\x7d"]

/-- Lines as a text; each ends in a line feed. -/
def unlines (ls : List String) : String :=
  String.join (ls.map (· ++ "\n"))

end Shader

/-- The source of a program. -/
def Program.source (p : Program) (d : Dialect) : String :=
  Shader.unlines (Shader.header d p.useWorldPos ++ Shader.body d p)

/-- How a graph is compiled. -/
structure CompileOptions where
  useWorldPos : Bool := false
  dialect : Dialect := .wgsl
  deriving DecidableEq, Repr, Inhabited

/-- A source together with the program that it was written from. -/
structure CompiledShader where
  source : String
  program : Program
  dialect : Dialect
  deriving DecidableEq, Repr, Inhabited

/-- The shader of a graph. -/
def compile (g : Graph) (o : CompileOptions) : CompiledShader :=
  let p := lower g o.useWorldPos
  ⟨p.source o.dialect, p, o.dialect⟩

end Heightfield
