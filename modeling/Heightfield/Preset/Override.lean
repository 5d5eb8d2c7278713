import Heightfield.Preset.Basic

/-!
# Parameter overrides and variations

A parameter is addressed by its name or, if none has that name, by the id of its node. Overriding
sets its value within its range. Variations are copies of the graph with one parameter at evenly
spaced points of its range.
-/

namespace Heightfield

/-- An assignment to a parameter. -/
structure Override where
  target : String
  value : Float32
  deriving DecidableEq, Repr, Inhabited

/-- Why a text is no assignment. -/
inductive OverrideError where
  | noEquals (raw : String)
  | noName (raw : String)
  | notNumeric (raw : String) (cause : Number.NumeralError)
  | notFinite (raw : String)
  deriving DecidableEq, Repr

/-- The wording of the error. -/
def OverrideError.report : OverrideError → Report
  | .noEquals raw => [s!"parameter override '{raw}' must look like name=value"]
  | .noName raw => [s!"parameter override '{raw}' has an empty name"]
  | .notNumeric raw cause =>
    [s!"parameter override '{raw}' has a non-numeric value", cause.message]
  | .notFinite raw => [s!"parameter override '{raw}' must be finite"]

/-- Reads `name=value`; the first equals sign counts, and blanks around both sides do not. -/
def Override.parse (raw : String) : Except OverrideError Override :=
  let cs := raw.toList
  match cs.dropWhile (· ≠ '=') with
  | [] => .error (.noEquals raw)
  | _ :: rest =>
    let target := String.ofList (Text.stripBlanks (cs.takeWhile (· ≠ '=')))
    if target.isEmpty then .error (.noName raw)
    else match Number.parseFloat32 (String.ofList (Text.stripBlanks rest)) with
      | .error cause => .error (.notNumeric raw cause)
      | .ok value => if value.isFinite then .ok ⟨target, value⟩ else .error (.notFinite raw)

/-- Why overrides or variations fail. -/
inductive ParameterError where
  | unknown (name : String)
  | noVariations
  /-- a parameter that was there is missing in a copy of the graph -/
  | disappeared (name : String)
  deriving DecidableEq, Repr

/-- The wording of the error. -/
def ParameterError.message : ParameterError → String
  | .unknown name => s!"preset has no parameter named '{name}'"
  | .noVariations => "variation count must be positive"
  | .disappeared name => s!"parameter '{name}' disappeared while baking variations"

namespace Node

/-- The settings of a parameter node. -/
def parameter? (n : Node) : Option ParameterSettings :=
  match n.kind with
  | .parameter p => some p
  | _ => none

/-- The node with another parameter value; other nodes stay as they are. -/
def withParameterValue (n : Node) (value : Float32) : Node :=
  match n.kind with
  | .parameter p => { n with kind := .parameter { p with value } }
  | _ => n

end Node

namespace Graph

/-- The index of the parameter that a text addresses: by name, else by id. -/
def parameterIndex? (g : Graph) (target : String) : Option Nat :=
  (g.nodes.findIdx? fun n => n.parameter?.any (·.name = target)).or
    (g.nodes.findIdx? fun n => n.id = target && n.parameter?.isSome)

/-- The graph with one parameter set to a value within its range, and that value; nothing if there
is no such parameter. -/
def setParameter? (g : Graph) (target : String) (value : Float32) : Option (Graph × Float32) := do
  let index ← g.parameterIndex? target
  let settings ← (g.nodes[index]?).bind Node.parameter?
  let value := settings.clampValue value
  return ({ g with nodes := g.nodes.modify index (·.withParameterValue value) }, value)

end Graph

/-- A copy of a graph with one parameter at a point of its range. -/
structure Variation where
  value : Float32
  graph : Graph
  deriving DecidableEq, Repr, Inhabited

namespace Preset

/-- Applies overrides in order up to the first one that addresses no parameter. -/
def applyOverrides (p : Preset) : List Override → Preset × Except ParameterError Unit
  | [] => (p, .ok ())
  | o :: rest =>
    match p.graph.setParameter? o.target o.value with
    | none => (p, .error (.unknown o.target))
    | some (graph, _) => applyOverrides { p with graph } rest

/-- The points of the range of a parameter: from one end to the other, or the middle. -/
def fraction (count index : Nat) : Float32 :=
  if count = 1 then 0.5 else Float32.ofNat index / Float32.ofNat (count - 1)

/-- Copies of the graph with a parameter at evenly spaced points of its range. -/
def variations (p : Preset) (parameter : String) (count : Nat) :
    Except ParameterError (List Variation) := do
  if count = 0 then throw .noVariations
  match (p.graph.parameterIndex? parameter).bind fun i =>
      (p.graph.nodes[i]?).bind Node.parameter? with
  | none => throw (.unknown parameter)
  | some settings =>
    let width := settings.max - settings.min
    (List.range count).mapM fun index =>
      match p.graph.setParameter? parameter (settings.min + width * fraction count index) with
      | some (graph, value) => return ⟨value, graph⟩
      | none => throw (.disappeared parameter)

end Preset
end Heightfield
