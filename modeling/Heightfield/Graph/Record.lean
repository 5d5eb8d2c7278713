import Heightfield.Document.Schema
import Heightfield.Graph.Basic
import Heightfield.Number.Reading

/-!
# Editor records

The editor stores a node as a record with a free-form bag of settings, of which each node type
reads its own. Loading never fails: a record of unknown type is skipped, a number that is missing
or not finite takes its default, a name that is not known takes the default choice. What was
skipped or replaced by name is listed in the graph.

* `NodeRecord.load` turns a record into a node and the list of its issues.
* `Graph.ofRecords` loads all records.
* `Graph.decode` reads a graph from a document.
-/

namespace Heightfield

open Document (Value Schema Field Fault Located)

/-- A node as the editor stores it. -/
structure NodeRecord where
  id : String := ""
  type : String := ""
  data : Value := .null
  inputs : List (String × Option String) := []
  x : Float32 := 0
  y : Float32 := 0
  deriving Inhabited

/-! ## The bag of settings -/

namespace Settings

/-- The value of the first key that the bag has. -/
def field? (bag : Value) (keys : List String) : Option Value :=
  keys.findSome? bag.field?

/-- The number that a setting stands for, be it written as a number or as a text. -/
def real? : Value → Option Float32
  | .text raw => (Number.parseFloat32 (Text.trim raw)).toOption
  | v => v.real?.map Float.toFloat32

/-- The number under the first key present, or the default if it is missing or not finite. -/
def number (bag : Value) (keys : List String) (fallback : Float32) : Float32 :=
  match (field? bag keys).bind real? with
  | some x => if x.isFinite then x else fallback
  | none => fallback

/-- The text under the first key present, without blanks around it; an empty one does not count. -/
def text? (bag : Value) (keys : List String) : Option String :=
  match field? bag keys with
  | some (.text raw) => if (Text.trim raw).isEmpty then none else some (Text.trim raw)
  | _ => none

/-- The choice under the first key present, and an issue if its name is not known. A value that is
no text counts as the text it is written as. -/
def choice {α : Type} [Choice α] (id : String) (bag : Value) (keys : List String) :
    α × List Diagnostic :=
  let read (raw : String) : α × List Diagnostic :=
    match Choice.parse? raw with
    | some choice => (choice, [])
    | none => (Choice.fallback, [.unknownVariant id (Choice.label α) raw])
  match field? bag keys with
  | none => (Choice.fallback, [])
  | some .null => (Choice.fallback, [])
  | some (.text raw) => read raw
  | some other => read other.compact

end Settings

open Settings

/-- The settings of a wave texture, with the issues of its choices. -/
def WaveSettings.ofBag (id : String) (bag : Value) : WaveSettings × List Diagnostic :=
  let defaults : WaveSettings := {}
  let (waveType, issues1) := choice id bag ["waveType", "wave_type", "type"]
  let (direction, issues2) := choice id bag ["direction", "bandsDirection"]
  let (profile, issues3) := choice id bag ["profile", "waveProfile"]
  ({ waveType, direction, profile
     waveScale := number bag ["waveScale", "wave_scale", "scale"] defaults.waveScale
     distortion := number bag ["distortion"] defaults.distortion
     detail := clampDetail (number bag ["detail"] 0)
     detailScale := number bag ["detailScale", "detail_scale"] defaults.detailScale
     detailRoughness :=
       number bag ["detailRoughness", "detail_roughness"] defaults.detailRoughness },
    issues1 ++ issues2 ++ issues3)

/-- The settings of a parameter; its name defaults to the id of the node. -/
def ParameterSettings.ofBag (id : String) (bag : Value) : ParameterSettings :=
  let default := number bag ["default", "defaultValue"] 0
  { name := (text? bag ["name", "label"]).getD id
    value := number bag ["value"] default
    min := number bag ["min"] 0
    max := number bag ["max"] 1
    default
    step := number bag ["step"] 0.01 }

/-- The kind of a node of known type, with the issues of its choices. -/
def NodeKind.ofBag (id : String) (bag : Value) : NodeType → NodeKind × List Diagnostic
  | .time => (.time (number bag ["speed"] 1), [])
  | .value => (.value (number bag ["value"] 0), [])
  | .vector => (.vector ⟨number bag ["x"] 0, number bag ["y"] 0, number bag ["z"] 0⟩, [])
  | .position => (.position, [])
  | .combineXyz =>
    (.combineXyz ⟨number bag ["x"] 0, number bag ["y"] 0, number bag ["z"] 0⟩, [])
  | .separateXyz => (.separateXyz, [])
  | .math =>
    let (operation, issues) := choice id bag ["operation", "op"]
    (.math operation (number bag ["value", "b"] 0), issues)
  | .vectorMath =>
    let (operation, issues) := choice id bag ["operation", "op"]
    (.vectorMath operation (number bag ["scale"] 1), issues)
  | .waveTexture =>
    let (settings, issues) := WaveSettings.ofBag id bag
    (.waveTexture settings, issues)
  | .noiseTexture => (.noiseTexture (number bag ["scale"] 5), [])
  | .parameter => (.parameter (ParameterSettings.ofBag id bag), [])
  | .output => (.output, [])

/-- The node of a record, unless its type is unknown, with the issues found on the way. -/
def NodeRecord.load (r : NodeRecord) : Option Node × List Diagnostic :=
  match NodeType.parse? r.type with
  | none => (none, [.unknownNodeType r.id r.type])
  | some type =>
    let (kind, issues) := NodeKind.ofBag r.id r.data type
    (some ⟨r.id, kind, r.inputs, r.x, r.y⟩, issues)

/-- The graph of the records: nodes and issues in the order of the records. -/
def Graph.ofRecords (records : List NodeRecord) (connections : List Connection) : Graph where
  nodes := records.filterMap fun r => r.load.1
  connections
  loadIssues := records.flatMap fun r => r.load.2

/-! ## Schemas -/

/-- The fields of a node record. -/
def NodeRecord.schema : Schema NodeRecord where
  name := "struct NodeRecord"
  fields := [
    .needed "id" Document.Node.text fun v r => { r with id := v },
    .needed "type" Document.Node.text fun v r => { r with type := v },
    .optional "data" [] Document.Node.value fun v r => { r with data := v },
    .optional "inputs" [] Document.Node.textTable fun v r => { r with inputs := v },
    .optional "x" [] Document.Node.real fun v r => { r with x := v },
    .optional "y" [] Document.Node.real fun v r => { r with y := v }]
  blank := {}

/-- The fields of a connection. -/
def Connection.schema : Schema Connection where
  name := "struct Connection"
  fields := [
    .optional "id" [] Document.Node.text fun v c => { c with id := v },
    .needed "fromNode" Document.Node.text fun v c => { c with fromNode := v },
    .needed "fromSocket" Document.Node.text fun v c => { c with fromSocket := v },
    .needed "toNode" Document.Node.text fun v c => { c with toNode := v },
    .needed "toSocket" Document.Node.text fun v c => { c with toSocket := v }]
  blank := ⟨"", "", "", "", ""⟩

/-- A graph as the editor stores it. -/
structure GraphRecord where
  nodes : List NodeRecord := []
  connections : List Connection := []
  deriving Inhabited

/-- The fields of a graph record. -/
def GraphRecord.schema : Schema GraphRecord where
  name := "struct GraphRecord"
  fields := [
    .optional "nodes" [] (Document.Node.items NodeRecord.schema.decode)
      fun v g => { g with nodes := v },
    .optional "connections" [] (Document.Node.items Connection.schema.decode)
      fun v g => { g with connections := v }]
  blank := {}

/-- The graph that a document describes. -/
def Graph.decode (d : Located) : Except Fault Graph :=
  (d.read GraphRecord.schema.decode).map fun r => Graph.ofRecords r.nodes r.connections

end Heightfield
