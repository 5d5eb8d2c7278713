import Heightfield.Heightmap.Config
import Heightfield.Log
import Heightfield.Program.Eval
import Heightfield.Shader.Source

/-!
# Heightmap generator

A generator holds an installed program and renders it into frames of bytes. The source of the
installed program is kept, so that a graph whose source has not changed costs nothing, and the
source that failed last is kept, so that it is not tried again.

The generators of this library evaluate their program in software. Where a backend settles on a
graphics adapter, the frames are drawn outside of it, and `Generator.create` says so by an error.

* `Generator.create` makes a generator with a program that is zero everywhere.
* `Generator.update` submits a graph or a compiled shader.
* `Generator.render` renders a frame.
-/

namespace Heightfield

/-- What became of a submitted shader. -/
inductive ShaderUpdate where
  /-- the source is the installed one -/
  | unchanged
  /-- the program was installed -/
  | installed
  /-- the source failed to build, now or before; the installed program stays -/
  | rejected
  deriving DecidableEq, Repr

/-- A heightmap generator. -/
structure Generator where
  config : HeightmapConfig
  /-- the installed program -/
  program : Program
  /-- its source -/
  installedSource : String
  /-- the source that failed last, unless a program has been installed since -/
  rejectedSource : Option String
  /-- how many programs have been installed -/
  relinks : Nat
  /-- how many builds have failed -/
  failures : Nat
  /-- the time that frames are rendered at -/
  time : Float32
  /-- the registers that the last texel was evaluated in -/
  registers : Registers
  /-- the last frame: red, green, blue and opacity of each texel, row by row -/
  pixels : Array UInt8
  deriving DecidableEq, Repr

namespace Generator

/-- Settles what renders the frames. Without a graphics adapter asking for one fails, and `auto`
means software. -/
def settleBackend (adapter : Adapter) : Backend → Except HeightmapError (Target × List Notice)
  | .software => .ok (.software, [])
  | .gpu =>
    match adapter with
    | .present => .ok (.graphics, [])
    | .absent => .error .noAdapter
  | .auto =>
    match adapter with
    | .present => .ok (.graphics, [])
    | .absent => .ok (.software, [.softwareFallback])

/-- The program that is installed in a new generator. -/
def placeholder (c : HeightmapConfig) : Program :=
  .constant .zero c.useWorldPos

/-- A generator that nothing has been submitted to. -/
def blank (c : HeightmapConfig) : Generator where
  config := c
  program := placeholder c
  installedSource := (placeholder c).source .wgsl
  rejectedSource := none
  relinks := 0
  failures := 0
  time := 0
  registers := #[]
  pixels := Array.replicate c.byteLength 0

/-- A generator for a target that is settled. -/
def start (target : Target) (c : HeightmapConfig) :
    Except HeightmapError (Generator × List Notice) := do
  c.validate
  match target with
  | .software => return (blank c, [.generatorReady c.resolution])
  | .graphics => throw .onAdapter

/-- A new generator, and what was logged on the way, be it made or not; the backend is settled
before the configuration is checked. -/
def create (c : HeightmapConfig) (adapter : Adapter := .absent) :
    List Notice × Except HeightmapError Generator :=
  match settleBackend adapter c.backend with
  | .error e => ([], .error e)
  | .ok (target, notices) =>
    match start target c with
    | .error e => (notices, .error e)
    | .ok (g, ready) => (notices ++ ready, .ok g)

/-- How the generator compiles graphs. -/
def options (g : Generator) : CompileOptions := ⟨g.config.useWorldPos, .wgsl⟩

/-- The shader that a submission stands for: the compiled one if it is in the right dialect, else
the graph's own. -/
def submission (g : Generator) (graph : Graph) :
    Option CompiledShader → CompiledShader × List Notice
  | none => (compile graph g.options, [])
  | some shader =>
    if shader.dialect = .wgsl then (shader, [])
    else (compile graph g.options, [.ignoredShader shader.dialect])

/-- The shader can be installed: its source is that of its program. The program has to refer to its
own variables only, or else it has no source to compare with. -/
def isBuildable (shader : CompiledShader) : Bool :=
  shader.program.source .wgsl = shader.source

/-- Submits one shader. -/
def submit (g : Generator) (shader : CompiledShader) : ShaderUpdate × Generator × List Notice :=
  if shader.source = g.installedSource then (.unchanged, g, [])
  else if g.rejectedSource = some shader.source then (.rejected, g, [])
  else if isBuildable shader then
    (.installed,
      { g with
        program := shader.program
        installedSource := shader.source
        rejectedSource := none
        relinks := g.relinks + 1 },
      [.installed shader.source])
  else
    (.rejected,
      { g with rejectedSource := some shader.source, failures := g.failures + 1 },
      [.rejected shader.source])

/-- Submits a graph, or a shader compiled beforehand in its place. -/
def update (g : Generator) (graph : Graph) (precompiled : Option CompiledShader) :
    ShaderUpdate × Generator × List Notice :=
  let (shader, ignored) := g.submission graph precompiled
  let (result, g, notices) := g.submit shader
  (result, g, ignored ++ notices)

/-- Sets the time that frames are rendered at. -/
def setTime (g : Generator) (time : Float32) : Generator :=
  { g with time }

/-- The columns and rows of a square grid, row by row. -/
def texels (n : Nat) : List (Nat × Nat) :=
  (List.range n).flatMap fun j => (List.range n).map fun i => (i, j)

/-- Stores channel values from an offset on; what would stand behind the buffer is left out. -/
def store (pixels : Array UInt8) (offset : Nat) : List Float32 → Array UInt8
  | [] => pixels
  | a :: rest => store (pixels.setIfInBounds offset (Number.toByte a)) (offset + 1) rest

/-- Where the bytes of the texel in column `i` and row `j` begin, counted in a word of 32 bits. -/
def texelOffset (resolution i j : Nat) : Nat :=
  (j * resolution + i) * 4 % UInt32.size

/-- Evaluates the texel in column `i` and row `j` and stores its colour. -/
def renderTexel (g : Generator) (i j : Nat) : Generator :=
  let s : Sample := ⟨g.time, g.config.position i j⟩
  let registers := g.program.refill s g.registers
  let color := Program.shade (g.program.resultOver? s registers)
  { g with registers, pixels := store g.pixels (texelOffset g.config.resolution i j) color }

/-- Renders a frame of the installed program, at the time that was set, over the last one. -/
def render (g : Generator) : Generator :=
  (texels g.config.resolution).foldl (fun g (i, j) => g.renderTexel i j) g

/-- The record of a generator's end. -/
def dispose (g : Generator) : List Notice :=
  [.disposing g.config.resolution]

end Generator
end Heightfield
