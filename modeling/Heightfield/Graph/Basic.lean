import Heightfield.Graph.Kind

/-!
# Pattern graphs

Nodes and the connections between them, as the editor hands them over. Ids may repeat and
connections may lead nowhere; the look-ups here say what counts then: the first node of an id, and
the first connection into a socket among those whose two ends exist.
-/

namespace Heightfield

/-- A connection from an output socket to an input socket. -/
structure Connection where
  id : String
  fromNode : String
  fromSocket : String
  toNode : String
  toSocket : String
  deriving DecidableEq, Repr, Inhabited

/-- A connection whose id names its two ends. -/
def Connection.between (fromNode fromSocket toNode toSocket : String) : Connection :=
  ⟨s!"{fromNode}.{fromSocket}->{toNode}.{toSocket}", fromNode, fromSocket, toNode, toSocket⟩

/-- A node. The table of inputs and the coordinates belong to the editor; nothing is computed from
them. -/
structure Node where
  id : String
  kind : NodeKind
  inputs : List (String × Option String) := []
  x : Float32 := 0
  y : Float32 := 0
  deriving DecidableEq, Repr, Inhabited

/-- Something that is passed over or replaced instead of being refused. -/
inductive Diagnostic where
  /-- there is no output node -/
  | missingOutput
  /-- there are several output nodes -/
  | multipleOutputs (ids : List String)
  /-- nothing is connected to the output node -/
  | unconnectedOutput (id : String)
  /-- a connection leads from or to a node that does not exist -/
  | danglingConnection (id : String)
  /-- a connection leads into a socket that already has one -/
  | duplicateInput (node socket ignored : String)
  /-- a node has the id of an earlier one -/
  | duplicateNodeId (id : String)
  /-- a record has an unknown node type -/
  | unknownNodeType (id raw : String)
  /-- a setting has an unknown name; `label` says which kind of setting -/
  | unknownVariant (node label raw : String)
  deriving DecidableEq, Repr

/-- The wording of a diagnostic. -/
def Diagnostic.message : Diagnostic → String
  | .missingOutput => "graph has no OUTPUT node"
  | .multipleOutputs ids =>
    let names := ", ".intercalate ids
    s!"graph has {ids.length} OUTPUT nodes ({names}); using the first"
  | .unconnectedOutput id => s!"OUTPUT node '{id}' has no connection on 'value'"
  | .danglingConnection id => s!"connection '{id}' references a missing node and is ignored"
  | .duplicateInput node socket ignored =>
    s!"input '{node}.{socket}' has more than one connection; '{ignored}' is ignored"
  | .duplicateNodeId id => s!"node id '{id}' is used more than once; the first wins"
  | .unknownNodeType id raw => s!"node '{id}' has unknown type '{raw}' and is skipped"
  | .unknownVariant node label raw =>
    s!"node '{node}' has unknown {label} '{raw}'; using the default"

/-- A pattern graph, with what was passed over when it was loaded. -/
structure Graph where
  nodes : List Node := []
  connections : List Connection := []
  loadIssues : List Diagnostic := []
  deriving DecidableEq, Repr, Inhabited

namespace Graph

/-- The first node of an id. -/
def node? (g : Graph) (id : String) : Option Node :=
  g.nodes.find? (·.id = id)

/-- The sink: the first output node. -/
def outputNode? (g : Graph) : Option Node :=
  g.nodes.find? (·.kind.type = .output)

/-- Both ends of the connection exist. -/
def isResolvable (g : Graph) (c : Connection) : Bool :=
  (g.node? c.fromNode).isSome && (g.node? c.toNode).isSome

/-- The connection that feeds an input socket. -/
def incoming? (g : Graph) (id socket : String) : Option Connection :=
  g.connections.find? fun c => c.toNode = id && c.toSocket = socket && g.isResolvable c

/-- How fast time passes: the speed of the first time node that has a finite one. -/
def timeSpeed (g : Graph) : Float32 :=
  (g.nodes.findSome? fun n =>
    match n.kind with
    | .time speed => if speed.isFinite then some speed else none
    | _ => none).getD 1

/-- The parameters with the ids of their nodes. -/
def parameters (g : Graph) : List (String × ParameterSettings) :=
  g.nodes.filterMap fun n =>
    match n.kind with
    | .parameter p => some (n.id, p)
    | _ => none

/-! ## Diagnostics -/

/-- The nodes whose id is among `seen` or occurs earlier in the list. -/
def repeatedIds : List String → List Node → List Diagnostic
  | _, [] => []
  | seen, n :: rest =>
    if seen.contains n.id then .duplicateNodeId n.id :: repeatedIds seen rest
    else repeatedIds (n.id :: seen) rest

/-- The connections that are passed over, with the sockets in `fed` already fed, and all sockets
that are fed in the end. -/
def passedOver (g : Graph) :
    List (String × String) → List Connection → List Diagnostic × List (String × String)
  | fed, [] => ([], fed)
  | fed, c :: rest =>
    if !g.isResolvable c then
      let (issues, fed) := g.passedOver fed rest
      (.danglingConnection c.id :: issues, fed)
    else if fed.contains (c.toNode, c.toSocket) then
      let (issues, fed) := g.passedOver fed rest
      (.duplicateInput c.toNode c.toSocket c.id :: issues, fed)
    else g.passedOver ((c.toNode, c.toSocket) :: fed) rest

/-- What there is to say about the number of output nodes. -/
def outputCount (ids : List String) : List Diagnostic :=
  match ids with
  | [] => [.missingOutput]
  | [_] => []
  | _ => [.multipleOutputs ids]

/-- Everything that is passed over or replaced, in a fixed order: what loading found, repeated ids,
the number of outputs, connections, and an output that nothing feeds. -/
def diagnostics (g : Graph) : List Diagnostic :=
  let outputs := (g.nodes.filter (·.kind.type = .output)).map (·.id)
  let (ignored, fed) := g.passedOver [] g.connections
  let unfed := match outputs.head? with
    | some id => if fed.contains (id, "value") then [] else [.unconnectedOutput id]
    | none => []
  g.loadIssues ++ repeatedIds [] g.nodes ++ outputCount outputs ++ ignored ++ unfed

end Graph
end Heightfield
