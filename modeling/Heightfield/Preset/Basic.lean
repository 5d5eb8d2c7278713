import Heightfield.Document.Json
import Heightfield.Document.Yaml
import Heightfield.Graph.Record
import Heightfield.Heightmap.Config
import Heightfield.Report
import Heightfield.Terrace.Mesh

/-!
# Presets

A preset is a graph together with the settings of its heightmap and terrace. It is stored as JSON or
YAML text.

* `Preset.schema` lists the fields of a preset record.
* `Preset.parse` reads a preset from text.
* `Preset.heightmapConfig` and `Preset.terraceConfig` fill in what the preset leaves open.
-/

namespace Heightfield

open Document (Form Fault Schema Position)

/-- The text forms of a preset. -/
inductive PresetFormat where
  | yaml | json
  deriving DecidableEq, Repr, Inhabited

/-- A stop of the colour ramp as it is stored. -/
structure ColorStopRecord where
  position : Float32 := 0
  color : String := ""
  deriving DecidableEq, Repr, Inhabited

/-- The fields of a stored colour stop. -/
def ColorStopRecord.schema : Schema ColorStopRecord where
  name := "struct ColorStopRecord"
  fields := [
    .needed "position" Document.Node.real fun v r => { r with position := v },
    .needed "color" Document.Node.text fun v r => { r with color := v }]
  blank := {}

/-- A preset as it is stored. -/
structure PresetRecord where
  name : Option String := none
  nodes : List NodeRecord := []
  connections : List Connection := []
  resolution : Option Nat := none
  layerHeight : Option Float32 := none
  cellSize : Option Float32 := none
  worldSize : Option (Float32 × Float32) := none
  colorRamp : List ColorStopRecord := []
  deriving Inhabited

/-- The fields of a stored preset. -/
def PresetRecord.schema : Schema PresetRecord where
  name := "struct PresetRecord"
  fields := [
    .optional "name" [] (Document.Node.optional Document.Node.text)
      fun v p => { p with name := v },
    .optional "nodes" [] (Document.Node.items NodeRecord.schema.decode)
      fun v p => { p with nodes := v },
    .optional "connections" [] (Document.Node.items Connection.schema.decode)
      fun v p => { p with connections := v },
    .optional "resolution" ["resolutionOverride"] (Document.Node.optional Document.Node.count)
      fun v p => { p with resolution := v },
    .optional "layerHeight" ["layer_height"] (Document.Node.optional Document.Node.real)
      fun v p => { p with layerHeight := v },
    .optional "cellSize" ["cell_size"] (Document.Node.optional Document.Node.real)
      fun v p => { p with cellSize := v },
    .optional "worldSize" ["world_size"] (Document.Node.optional Document.Node.pair)
      fun v p => { p with worldSize := v },
    .optional "colorRamp" ["color_ramp"] (Document.Node.items ColorStopRecord.schema.decode)
      fun v p => { p with colorRamp := v }]
  blank := {}

/-- A preset. -/
structure Preset where
  name : String
  graph : Graph
  resolution : Option Nat
  layerHeight : Option Float32
  cellSize : Option Float32
  worldSize : Option (Float32 × Float32)
  colorRamp : ColorRamp
  deriving DecidableEq, Repr, Inhabited

/-- Why a text is no preset. -/
inductive PresetError where
  /-- the text is not well-formed in its format -/
  | malformed (format : PresetFormat)
  /-- a part of the document has the wrong shape -/
  | shape (format : PresetFormat) (fault : Fault)
  /-- the resolution is out of range -/
  | resolution (n : Nat)
  /-- a colour cannot be read -/
  | color (e : ColorError)
  /-- the colour stops do not make a ramp -/
  | ramp (e : RampError)

namespace PresetError

/-- A position as messages spell it. -/
def spell (p : Position) : String :=
  s!"line {p.line} column {p.column}"

/-- What a fault says about its cause. In YAML the part is named unless it is the whole document,
and the position follows unless it is the start of the text. -/
def faultMessage (format : PresetFormat) (f : Fault) : String :=
  let cause := match format with
    | .json => f.cause.describe .json
    | .yaml =>
      let cause := f.cause.describe .yaml
      let path := Document.Path.write f.path
      if path = "." then cause else s!"{path}: {cause}"
  match f.position with
  | some p =>
    if format = .yaml ∧ p = ⟨1, 1⟩ then cause
    else
      let position := spell p
      s!"{cause} at {position}"
  | none => cause

/-- The name of a format in messages. -/
def formatName : PresetFormat → String
  | .json => "json"
  | .yaml => "yaml"

/-- The report of the error. -/
def report : PresetError → Report
  | .malformed format =>
    let name := formatName format
    [s!"failed to parse {name}: malformed {name}"]
  | .shape format f =>
    let name := formatName format
    let message := faultMessage format f
    match f.position with
    | some p => [s!"failed to parse {name} at line {p.line}, column {p.column}: {message}"]
    | none => [s!"failed to parse {name} at unknown location: {message}"]
  | .resolution n => [s!"resolution must be within 1..={maxResolution}, got {n}"]
  | .color e => e.report
  | .ramp e => ["invalid colorRamp", e.message]

end PresetError

namespace Preset

/-- The stop that a record describes. -/
def stopOf (r : ColorStopRecord) : Except ColorError ColorStop :=
  (Color.parseHex r.color).map fun color => ⟨r.position, color⟩

/-- The ramp of stored stops; without any, the standard ramp. -/
def rampOf (records : List ColorStopRecord) : Except PresetError ColorRamp :=
  if records.isEmpty then .ok .standard
  else do
    let stops ← (records.mapM stopOf).mapError .color
    (ColorRamp.ofStops stops).mapError .ramp

/-- The preset that a record describes; `fallback` is its name if the record has none. -/
def ofRecord (r : PresetRecord) (fallback : String) : Except PresetError Preset := do
  match r.resolution with
  | some n => if n = 0 || maxResolution < n then throw (.resolution n)
  | none => pure ()
  let colorRamp ← rampOf r.colorRamp
  return {
    name := r.name.getD fallback
    graph := Graph.ofRecords r.nodes r.connections
    resolution := r.resolution
    layerHeight := r.layerHeight
    cellSize := r.cellSize
    worldSize := r.worldSize
    colorRamp }

/-- The document that a text holds. -/
def document? (format : PresetFormat) (text : String) : Option Document.Located :=
  match format with
  | .json => Document.Json.parse? text
  | .yaml => Document.Yaml.parse? text

/-- The text is a document of which every part stands for a value. -/
def isWellFormed (format : PresetFormat) (text : String) : Bool :=
  (document? format text).any (·.isReadable)

/-- The error of a document that is not of the expected shape. A part that stands for no value
makes it malformed, once such a part is read. -/
def errorOf (format : PresetFormat) (f : Fault) : PresetError :=
  match f.cause with
  | .unreadable => .malformed format
  | _ => .shape format f

/-- Reads a preset from text. -/
def parse (text : String) (format : PresetFormat) (fallback : String) :
    Except PresetError Preset := do
  match document? format text with
  | none => throw (.malformed format)
  | some d =>
    let r ← (d.read PresetRecord.schema.decode).mapError (errorOf format)
    ofRecord r fallback

/-- The heightmap of the preset. A world size means that world positions are sampled. -/
def heightmapConfig (p : Preset) (backend : Backend) : HeightmapConfig where
  resolution := p.resolution.getD 64
  worldWidth := (p.worldSize.map (·.1)).getD gridWorldSize
  worldDepth := (p.worldSize.map (·.2)).getD gridWorldSize
  useWorldPos := p.worldSize.isSome
  backend

/-- The terrace of the preset. -/
def terraceConfig (p : Preset) (resolution : Nat) : TerraceConfig where
  resolution
  cellSize := p.cellSize.getD 0.15
  layerHeight := p.layerHeight.getD 0.1

end Preset
end Heightfield
