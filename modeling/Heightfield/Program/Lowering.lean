import Heightfield.Graph.Basic
import Heightfield.Program.Basic
import Heightfield.Program.Identifier

/-!
# Lowering

A graph is lowered by a depth-first walk from the connection that feeds its output. Each node id is
visited at most once, so shared parts are bound once; a node that is reached again while its own
inputs are being read has no variables yet, and the input that reached it counts as unconnected.

* `Slot` is a variable together with the socket it stands for and the expression it is bound to.
* `NodeKind.block` is the list of definitions that a node adds once its inputs are known.
* `visit` walks through one node, `source` through one connection.
* `lower` is the program of a graph.
-/

namespace Heightfield

/-- A variable with the socket that it stands for and its expression. -/
structure Slot where
  node : String
  socket : String
  name : String
  type : SocketType
  expr : Expr
  deriving DecidableEq, Repr

/-- What one socket of a node is bound to. -/
structure Definition where
  socket : String
  type : SocketType
  expr : Expr
  deriving DecidableEq, Repr

/-- The state of the walk: the ids that have been visited, latest first, and the variables in the
order of their definition. -/
structure Walk where
  visited : List String := []
  slots : List Slot := []
  deriving DecidableEq, Repr

namespace Walk

/-- The index of the variable that stands for a socket. -/
def bound? (w : Walk) (node socket : String) : Option Nat :=
  w.slots.findIdx? fun s => s.node = node && s.socket = socket

/-- Marks an id as visited. -/
def enter (w : Walk) (id : String) : Walk :=
  { w with visited := id :: w.visited }

/-- Adds a variable for a definition, under a name that is not taken. -/
def define (w : Walk) (node : String) (d : Definition) : Walk :=
  let name := Identifier.fresh (w.slots.map (·.name)) (Identifier.base node d.socket)
  { w with slots := w.slots ++ [⟨node, d.socket, name, d.type, d.expr⟩] }

/-- Adds variables for definitions in turn. -/
def defineAll (w : Walk) (node : String) (ds : List Definition) : Walk :=
  ds.foldl (fun w d => w.define node d) w

end Walk

namespace NodeKind

/-- The sockets whose inputs are read when the node is visited. Nothing leaves an output node, so
visiting one reads nothing. -/
def operands : NodeKind → List (String × SocketType)
  | .output => []
  | k => k.inputs

/-- The definitions of a node: `read` gives the expression of a connected input, and `next` is the
index that the first definition gets. -/
def block (k : NodeKind) (next : Nat) (read : String → Option Expr) : List Definition :=
  match k with
  | .time _ => [⟨"value", .scalar, .time⟩]
  | .value a => [⟨"value", .scalar, .scalar a⟩]
  | .parameter p => [⟨"value", .scalar, .scalar p.value⟩]
  | .vector v => [⟨"vector", .vector, .vector v⟩]
  | .position => [⟨"vector", .vector, .position⟩]
  | .combineXyz v =>
    let x := (read "x").getD (.scalar v.x)
    let y := (read "y").getD (.scalar v.y)
    let z := (read "z").getD (.scalar v.z)
    [⟨"vector", .vector, .combine x y z⟩]
  | .separateXyz =>
    [⟨"in", .vector, (read "vector").getD (.vector Vec3.zero)⟩,
      ⟨"x", .scalar, .component (.var next) .x⟩,
      ⟨"y", .scalar, .component (.var next) .y⟩,
      ⟨"z", .scalar, .component (.var next) .z⟩]
  | .math operation second =>
    let a := (read "a").getD (.scalar 0)
    let b := (read "b").getD (.scalar second)
    [⟨"value", .scalar, .math operation a b⟩]
  | .vectorMath operation scale =>
    let a := (read "a").getD (.vector Vec3.zero)
    let b := (read "b").getD (.vector Vec3.zero)
    let factor := (read "scale").getD (.scalar scale)
    let e := Expr.vectorMath operation a b factor
    if operation.isScalar then
      [⟨"value", .scalar, e⟩, ⟨"vector", .vector, .broadcast (.var next)⟩]
    else
      [⟨"vector", .vector, e⟩, ⟨"value", .scalar, .component (.var next) .x⟩]
  | .waveTexture settings =>
    let point := (read "vector").getD .position
    let phase := (read "phase").getD (.scalar 0)
    [⟨"value", .scalar, .wave settings point phase⟩]
  | .noiseTexture scale =>
    let point := (read "vector").getD .position
    let factor := (read "scale").getD (.scalar scale)
    [⟨"value", .scalar, .noise point factor⟩]
  | .output => []

end NodeKind

namespace Lowering

/-- What a socket of a visited node holds, with its type. A name that is not in the table stands for
the primary output; on a vector, `x`, `y` and `z` select a component. -/
def outlet? (w : Walk) (n : Node) (socket : String) : Option (Expr × SocketType) :=
  match n.kind.outputs.lookup socket with
  | some type => (w.bound? n.id socket).map fun i => (.var i, type)
  | none =>
    match n.kind.outputs.head? with
    | none => none
    | some (primary, type) =>
      (w.bound? n.id primary).map fun i =>
        match type, Axis.ofLetter? socket with
        | .vector, some axis => (.component (.var i) axis, .scalar)
        | _, _ => (.var i, type)

/-- Visits the node that a connection comes from, by `visit`, and reads the socket. -/
def source (visit : Node → Walk → Walk) (g : Graph) (c : Connection) (w : Walk) :
    Option (Expr × SocketType) × Walk :=
  match g.node? c.fromNode with
  | none => (none, w)
  | some n =>
    let w := visit n w
    (outlet? w n c.fromSocket, w)

/-- Reads one input: the expression of what is connected, in the type that the socket expects. -/
def input (visit : Node → Walk → Walk) (g : Graph) (id socket : String) (expected : SocketType)
    (w : Walk) : Option Expr × Walk :=
  match g.incoming? id socket with
  | none => (none, w)
  | some c =>
    let (found, w) := source visit g c w
    (found.map fun (e, type) => e.coerce type expected, w)

/-- Reads inputs in turn; the result lists those that are connected. -/
def inputs (visit : Node → Walk → Walk) (g : Graph) (id : String) :
    List (String × SocketType) → Walk → List (String × Expr) × Walk
  | [], w => ([], w)
  | (socket, expected) :: rest, w =>
    let (e?, w) := input visit g id socket expected w
    let (es, w) := inputs visit g id rest w
    (match e? with
      | some e => (socket, e) :: es
      | none => es, w)

/-- Visits a node unless its id has been visited: reads its inputs and adds its definitions. Every
nested visit has one more visited id behind it, so as many steps as there are nodes are enough. -/
def visit (g : Graph) : Nat → Node → Walk → Walk
  | 0, _, w => w
  | fuel + 1, n, w =>
    if w.visited.contains n.id then w
    else
      let (found, w) := inputs (visit g fuel) g n.id n.kind.operands (w.enter n.id)
      w.defineAll n.id (n.kind.block w.slots.length fun socket => found.lookup socket)

end Lowering

/-- The statements that bind variables in order, counting from `i`. -/
def Slot.statements : Nat → List Slot → List Stmt
  | _, [] => []
  | i, s :: rest => ⟨i, s.expr⟩ :: Slot.statements (i + 1) rest

/-- The program that computes the height a graph describes. -/
def lower (g : Graph) (useWorldPos : Bool) : Program :=
  match g.outputNode? with
  | none => .constant .errorColor useWorldPos
  | some out =>
    match g.incoming? out.id "value" with
    | none => .constant .zero useWorldPos
    | some c =>
      let (found, w) := Lowering.source (Lowering.visit g g.nodes.length) g c {}
      { vars := w.slots.map fun s => ⟨s.name, s.type⟩
        stmts := Slot.statements 0 w.slots
        result := match found with
          | some (e, type) => .value (e.coerce type .scalar)
          | none => .zero
        useWorldPos }

end Heightfield
