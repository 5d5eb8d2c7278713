import Heightfield.CommandLine.Arguments
import Heightfield.Document.Outline
import Heightfield.Image.Format
import Heightfield.Image.Png
import Heightfield.Pipeline

/-!
# Execution of commands

A command is executed in two steps around the one file that it may write. `Command.plan` computes
everything from the text of the preset: what is printed and, possibly, what is to be written.
`Plan.finish` adds what is printed once the file has been written, or the report of why it has not.
-/

namespace Heightfield

open Document (Outline)

/-- The content of a file. -/
inductive Content where
  | text (s : String)
  /-- a grey image, row by row -/
  | image (width height : Nat) (gray : List UInt8)
  deriving DecidableEq, Repr

/-- The bytes of a file. -/
def Content.bytes : Content → List UInt8
  | .text s => s.toUTF8.toList
  | .image width height gray => Image.Png.encodeGray width height gray

/-- A file that is to be written, with what is printed once it is. -/
structure Writing where
  path : String
  content : Content
  stdout : String
  stderr : String
  /-- the command fails all the same, for this reason -/
  failure : Option String
  deriving DecidableEq, Repr

/-- What a command does. -/
structure Plan where
  stdout : String := ""
  stderr : String := ""
  /-- why it fails -/
  failure : Option Report := none
  writing : Option Writing := none
  deriving DecidableEq, Repr

/-- What a finished command has printed, and its exit status. -/
structure Outcome where
  status : Nat
  stdout : String
  stderr : String
  deriving DecidableEq, Repr

namespace Plan

/-- A plan that fails after some messages. -/
def fail (stderr : String) (report : Report) : Plan :=
  { stderr, failure := some report }

/-- The outcome of a failure. -/
def failed (stdout stderr : String) (report : Report) : Outcome :=
  ⟨1, stdout, stderr ++ report.display⟩

/-- The outcome, given whether the file could be written or why not. -/
def finish (p : Plan) (written : Except String Unit) : Outcome :=
  match p.failure with
  | some report => failed p.stdout p.stderr report
  | none =>
    match p.writing with
    | none => ⟨0, p.stdout, p.stderr⟩
    | some w =>
      let context := s!"failed to write {w.path}"
      match written with
      | .error cause => failed p.stdout p.stderr [context, cause]
      | .ok () =>
        match w.failure with
        | some cause => failed p.stdout p.stderr [context, cause]
        | none => ⟨0, p.stdout ++ w.stdout, p.stderr ++ w.stderr⟩

end Plan

/-- The format of a preset file: JSON for the extension `json` in any case, otherwise YAML. -/
def PresetFormat.ofPath (path : String) : PresetFormat :=
  if (FileName.extension? path).map Text.lower = some "json" then .json else .yaml

/-- Reads the preset of a file with the given text; the name of the file names a preset that has no
name. -/
def Preset.load (path : String) (contents : Except String String) : Except Report Preset :=
  match contents with
  | .error cause => .error [s!"failed to read preset {path}", cause]
  | .ok text =>
    let fallback := (FileName.stem? path).getD "preset"
    (Preset.parse text (PresetFormat.ofPath path) fallback).mapError fun e =>
      e.report.within s!"invalid preset {path}"

/-- Lines of text. -/
def linesOf (ls : List String) : String :=
  Shader.unlines ls

/-- The preset with overrides applied, and the warnings about its graph. -/
def Preset.loadWith (path : String) (contents : Except String String) (overrides : List Override) :
    Except Report (Preset × String) := do
  let p ← Preset.load path contents
  let (p, applied) := p.applyOverrides overrides
  applied.mapError fun e => [e.message]
  return (p, linesOf (p.graph.diagnostics.map fun d => s!"warning: {d.message}"))

namespace Command

/-- A number as it is printed. -/
def plainNumber (x : Float32) : String :=
  Number.Layout.plain.writeFloat32 x

/-- What `compile` does. -/
def planCompile (path : String) (dialect : Dialect) (worldPos : Bool) (overrides : List Override)
    (output : Option String) (contents : Except String String) : Plan :=
  match Preset.loadWith path contents overrides with
  | .error report => .fail "" report
  | .ok (p, warnings) =>
    let shader := Heightfield.compile p.graph ⟨worldPos || p.worldSize.isSome, dialect⟩
    match output with
    | none => { stdout := shader.source, stderr := warnings }
    | some out =>
      let summary := s!"{dialect.name} shader {Digest.short shader.source} -> {out}\n"
      { stderr := warnings
        writing := some ⟨out, .text shader.source, "", summary, none⟩ }

/-- What `check` does. -/
def planCheck (path : String) (contents : Except String String) : Plan :=
  match Preset.load path contents with
  | .error report => .fail "" report
  | .ok p =>
    let diagnostics := p.graph.diagnostics
    let head := s!"OK: {p.name} ({p.graph.nodes.length} nodes, " ++
      s!"{p.graph.connections.length} connections, {p.colorRamp.layerCount} ramp stops)"
    let parameters := p.graph.parameters.map fun (id, s) =>
      s!"Parameter {id}: {plainNumber s.value} in [{plainNumber s.min}, {plainNumber s.max}]"
    let findings :=
      if diagnostics.isEmpty then ["Diagnostics: none"]
      else s!"Diagnostics: {diagnostics.length}" :: diagnostics.map fun d => s!"  - {d.message}"
    { stdout := linesOf (head :: parameters ++ findings) }

/-- The pipeline of a frame command after its frame, with what has been said so far; or the report
of its failure, with the same. Commands run where there is no graphics adapter. -/
def framePipeline (o : FrameOptions) (faces : FaceMode) (contents : Except String String) :
    String × Except Report Pipeline :=
  match Preset.loadWith o.preset contents o.overrides with
  | .error report => ("", .error report)
  | .ok (p, warnings) =>
    let p := { p with
      resolution := o.resolution.or p.resolution
      worldSize :=
        p.worldSize.or (if o.worldPos then some (gridWorldSize, gridWorldSize) else none) }
    match Pipeline.ofPreset p o.backend faces .absent with
    | .error report => (warnings, .error report)
    | .ok (pipeline, _) =>
      let n := pipeline.resolution
      let said := warnings ++ s!"{p.name}: {n}x{n} on software\n"
      match pipeline.frame o.time with
      | (.error e, _) => (said, .error [e.message])
      | (.ok _, pipeline, _) => (said, .ok pipeline)

/-- The red channel of each texel. -/
def redChannel : List UInt8 → List UInt8
  | r :: _ :: _ :: _ :: rest => r :: redChannel rest
  | _ => []

/-- What `render` does. A format that is known and cannot be written leaves an empty file. -/
def planRender (o : FrameOptions) (output : String) (contents : Except String String) : Plan :=
  match framePipeline o .single contents with
  | (said, .error report) => .fail said report
  | (said, .ok pipeline) =>
    match Image.formatOf output with
    | .error e => .fail said [s!"failed to write {output}", e.message]
    | .ok format =>
      let n := pipeline.resolution
      let writing : Writing :=
        if format = "Png" then
          ⟨output, .image n n (redChannel pipeline.pixels.toList), s!"Wrote {output}\n", "", none⟩
        else
          ⟨output, .text "", "", "", some (Image.FormatError.unsupported format).message⟩
      { stderr := said, writing := some writing }

/-- The counts of a terrace. -/
def statistics (m : TerraceMesh) : Outline :=
  .record [
    ("resolution", .whole m.config.resolution),
    ("faces", .text m.faces.name),
    ("active_instances", .whole m.activeCount),
    ("capacity", .whole m.capacity),
    ("layers", .list ((m.ramp.stops.zip m.layerCounts.toList).mapIdx fun layer (stop, count) =>
      .record [
        ("layer", .whole layer),
        ("position", .number stop.position),
        ("color", .text stop.color.formatHex),
        ("instances", .whole count)]))]

/-- What `terrace` does. -/
def planTerrace (o : FrameOptions) (cube : Bool) (contents : Except String String) : Plan :=
  match framePipeline o (if cube then .cube else .single) contents with
  | (said, .error report) => .fail said report
  | (said, .ok pipeline) =>
    { stdout := (statistics pipeline.mesh).display, stderr := said }

/-- What `variations` does. -/
def planVariations (path parameter : String) (count : Nat) (contents : Except String String) :
    Plan :=
  match Preset.load path contents with
  | .error report => .fail "" report
  | .ok p =>
    match p.variations parameter count with
    | .error e => .fail "" [e.message]
    | .ok vs =>
      let options : CompileOptions := ⟨p.worldSize.isSome, .wgsl⟩
      let summaries := vs.map fun v => Outline.record [
        ("value", .number v.value),
        ("digest", .text (Digest.hex (Heightfield.compile v.graph options).source))]
      { stdout := (Outline.list summaries).display }

/-- What a command does, given the text of its preset or why it cannot be read. -/
def plan (c : Command) (contents : Except String String) : Plan :=
  match c with
  | .compile path dialect worldPos overrides output =>
    planCompile path dialect worldPos overrides output contents
  | .check path => planCheck path contents
  | .render o output => planRender o output contents
  | .terrace o cube => planTerrace o cube contents
  | .variations path parameter count => planVariations path parameter count contents

end Command

/-- The exit status of a command line that is not used as intended. -/
def usageStatus : Nat := 2

end Heightfield
