import Heightfield.Heightmap.Generator
import Heightfield.Preset.Override

/-!
# Frame pipeline

A pipeline ties a graph, a heightmap generator and a terrace mesh together. Each frame submits the
graph, sets the time, renders the heightmap and rebuilds the terrace.

* `Pipeline.create` and `Pipeline.ofPreset` make a pipeline.
* `Pipeline.frame` advances the time and renders; `Pipeline.renderCurrent` only renders.
* `Pipeline.requestResolution` replaces generator and mesh.

An operation that can fail gives the pipeline that it leaves behind in either case.
-/

namespace Heightfield

/-- Why a pipeline cannot be made or go on. -/
inductive PipelineError where
  /-- the generator has been disposed of and not replaced -/
  | noGenerator
  | heightmap (e : HeightmapError)
  | terrace (e : TerraceError)
  deriving DecidableEq, Repr

/-- The wording of the error. -/
def PipelineError.message : PipelineError → String
  | .noGenerator => "pipeline has no heightmap generator"
  | .heightmap e => e.message
  | .terrace e => e.message

/-- What a frame did. -/
structure FrameReport where
  shader : ShaderUpdate
  /-- the time that was rendered, scaled by the speed of the time node -/
  time : Float32
  instances : Nat
  deriving DecidableEq, Repr

/-- A pipeline. -/
structure Pipeline where
  graph : Graph
  heightmapConfig : HeightmapConfig
  terraceConfig : TerraceConfig
  ramp : ColorRamp
  faces : FaceMode
  /-- the generator, unless it has been disposed of -/
  generator : Option Generator
  mesh : TerraceMesh
  /-- the time that has passed, scaled by the speed of the time node -/
  elapsed : Float32
  /-- how many frames have been rendered -/
  frames : Nat
  generatorsCreated : Nat
  generatorsDisposed : Nat
  deriving DecidableEq, Repr

namespace Pipeline

/-- A new pipeline. The terrace takes the resolution of the heightmap. The heightmap configuration
is checked first, then the terrace, then the backend. -/
def create (graph : Graph) (heightmap : HeightmapConfig) (terrace : TerraceConfig)
    (ramp : ColorRamp) (faces : FaceMode) (adapter : Adapter := .absent) :
    Except PipelineError (Pipeline × List Notice) := do
  heightmap.validate.mapError .heightmap
  let terrace := { terrace with resolution := heightmap.resolution }
  let mesh ← (TerraceMesh.create terrace ramp faces).mapError .terrace
  let (target, fallback) ← (Generator.settleBackend adapter heightmap.backend).mapError .heightmap
  let (generator, ready) ← (Generator.start target heightmap).mapError .heightmap
  return ({
    graph, ramp, faces, mesh
    heightmapConfig := heightmap
    terraceConfig := terrace
    generator := some generator
    elapsed := 0
    frames := 0
    generatorsCreated := 1
    generatorsDisposed := 0 }, fallback ++ ready)

/-- The pipeline of a preset. -/
def ofPreset (p : Preset) (backend : Backend) (faces : FaceMode) (adapter : Adapter := .absent) :
    Except Report (Pipeline × List Notice) :=
  let heightmap := p.heightmapConfig backend
  let terrace := p.terraceConfig heightmap.resolution
  (create p.graph heightmap terrace p.colorRamp faces adapter).mapError
    fun e => [s!"failed to build pipeline for preset '{p.name}'", e.message]

/-- Replaces the graph; the next frame submits it. -/
def setGraph (p : Pipeline) (graph : Graph) : Pipeline :=
  { p with graph }

/-- The number of rows of the heightmap. -/
def resolution (p : Pipeline) : Nat := p.heightmapConfig.resolution

/-- Disposes of the generator, if there is one. -/
def disposeGenerator (p : Pipeline) : Pipeline × List Notice :=
  match p.generator with
  | none => (p, [])
  | some g =>
    ({ p with generator := none, generatorsDisposed := p.generatorsDisposed + 1 }, g.dispose)

/-- Replaces generator and mesh by ones of another resolution. The resolution is checked before the
old generator is disposed of; the new one is made after that, for the target of the old one. -/
def requestResolution (p : Pipeline) (resolution : Nat) :
    Except PipelineError Unit × Pipeline × List Notice :=
  if resolution = p.resolution && p.generator.isSome then (.ok (), p, [])
  else
    let heightmap := { p.heightmapConfig with resolution }
    let terrace := { p.terraceConfig with resolution }
    match heightmap.validate, terrace.capacity p.ramp p.faces with
    | .error e, _ => (.error (.heightmap e), p, [])
    | .ok _, .error e => (.error (.terrace e), p, [])
    | .ok _, .ok _ =>
      let (p, disposed) := p.disposeGenerator
      match Generator.start .software heightmap with
      | .error e => (.error (.heightmap e), p, disposed)
      | .ok (generator, ready) =>
        let p := { p with
          generator := some generator
          generatorsCreated := p.generatorsCreated + 1 }
        match TerraceMesh.create terrace p.ramp p.faces with
        | .error e => (.error (.terrace e), p, disposed ++ ready)
        | .ok mesh =>
          (.ok (), { p with mesh, heightmapConfig := heightmap, terraceConfig := terrace },
            disposed ++ ready ++ [.resolutionChanged resolution])

/-- Renders a frame at the time that has passed. -/
def renderCurrent (p : Pipeline) : Except PipelineError FrameReport × Pipeline × List Notice :=
  match p.generator with
  | none => (.error .noGenerator, p, [])
  | some generator =>
    let (shader, generator, notices) := generator.update p.graph none
    let generator := (generator.setTime p.elapsed).render
    let p := { p with generator := some generator }
    match p.mesh.update generator.pixels with
    | .error e => (.error (.terrace e), p, notices)
    | .ok mesh =>
      (.ok ⟨shader, p.elapsed, mesh.activeCount⟩, { p with mesh, frames := p.frames + 1 }, notices)

/-- Lets `dt` seconds pass, scaled by the speed of the time node; a step that is no finite number
is left out. -/
def advance (p : Pipeline) (dt : Float32) : Pipeline :=
  if dt.isFinite then { p with elapsed := p.elapsed + dt * p.graph.timeSpeed } else p

/-- Lets time pass and renders a frame. -/
def frame (p : Pipeline) (dt : Float32) :
    Except PipelineError FrameReport × Pipeline × List Notice :=
  (p.advance dt).renderCurrent

/-- The last frame. -/
def pixels (p : Pipeline) : Array UInt8 :=
  match p.generator with
  | none => #[]
  | some g => g.pixels

/-- The records of the pipeline's end. -/
def dispose (p : Pipeline) : List Notice := p.disposeGenerator.2

end Pipeline
end Heightfield
