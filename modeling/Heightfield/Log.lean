import Heightfield.Digest
import Heightfield.Graph.Basic
import Heightfield.Shader.Token

/-!
# Log records

What happens besides the answer of an operation. Operations that log return their records in order.
A source text is named by the first digits of its digest.
-/

namespace Heightfield

/-- How serious a log record is. -/
inductive LogLevel where
  | debug | warn | error
  deriving DecidableEq, Repr

/-- The name of a level. -/
def LogLevel.name : LogLevel → String
  | .debug => "debug"
  | .warn => "warn"
  | .error => "error"

/-- Something worth a log record. -/
inductive Notice where
  /-- a record or a setting of a loaded graph was passed over or replaced -/
  | loading (issue : Diagnostic)
  /-- no graphics adapter is there, so heightmaps are computed in software -/
  | softwareFallback
  /-- a shader was handed over in a dialect that heightmaps do not use -/
  | ignoredShader (dialect : Dialect)
  /-- a generator was made -/
  | generatorReady (resolution : Nat)
  /-- a program was installed -/
  | installed (source : String)
  /-- a program failed to build -/
  | rejected (source : String)
  /-- a generator was disposed of -/
  | disposing (resolution : Nat)
  /-- a pipeline changed its resolution -/
  | resolutionChanged (resolution : Nat)
  deriving DecidableEq, Repr

namespace Notice

/-- The level of the record. -/
def level : Notice → LogLevel
  | .loading _ => .warn
  | .softwareFallback => .warn
  | .ignoredShader _ => .warn
  | .generatorReady _ => .debug
  | .installed _ => .debug
  | .rejected _ => .error
  | .disposing _ => .debug
  | .resolutionChanged _ => .debug

/-- The wording of a load issue in the log. -/
def loadMessage : Diagnostic → String
  | .unknownNodeType id raw => s!"node '{id}' has unknown type '{raw}'; skipping it"
  | .unknownVariant node label raw =>
    s!"node '{node}' has unknown {label} '{raw}'; falling back to the default"
  | other => other.message

/-- The wording of the record. -/
def message : Notice → String
  | .loading issue => loadMessage issue
  | .softwareFallback => "falling back to software heightmaps: no suitable GPU adapter found"
  | .ignoredShader dialect =>
    let name := dialect.name
    s!"ignoring precompiled {name} shader; heightmaps need wgsl"
  | .generatorReady n => s!"heightmap generator ready: {n}x{n} on software"
  | .installed source =>
    let digest := Digest.short source
    s!"installed heightmap program {digest}"
  | .rejected source =>
    let digest := Digest.short source
    s!"heightmap program {digest} failed to build; keeping the previous program: " ++
      "shader source does not match its lowered program"
  | .disposing n => s!"disposing {n}x{n} heightmap generator"
  | .resolutionChanged n => s!"heightmap resolution changed to {n}"

end Notice

/-- The records that loading a graph leaves in the log. -/
def Graph.loadNotices (g : Graph) : List Notice :=
  g.loadIssues.map .loading

end Heightfield
