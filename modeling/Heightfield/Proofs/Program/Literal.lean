import Heightfield.Proofs.Graph.Shape
import Heightfield.Proofs.Program.Follow

/-!
# The values of parameters in programs

The value of a parameter becomes a literal, and nothing else is made of it: a graph is walked as it
is without the values, and then every variable of a parameter is bound to the value. So graphs that
differ in the values of their parameters have programs that differ in these literals.

* `Slot.withValues` binds the variable of a parameter to its value in a graph.
* `Lowering.Follows.withValues` follows the connections with and without the values.
* `exists_walks_of_shape_eq` compares the programs of graphs that differ in values only.
-/

namespace Heightfield

/-- What the variable of a node is bound to, where a parameter is bound to its value. -/
def literal (s? : Option ParameterSettings) (e : Expr) : Expr :=
  s?.elim e fun s => .scalar s.value

/-- The slot, bound to the value of its node in a graph if that is a parameter. -/
def Slot.withValues (g : Graph) (slot : Slot) : Slot :=
  { slot with expr := literal ((g.node? slot.node).bind Node.parameter?) slot.expr }

/-- The walk with the values that a graph has. -/
def Walk.withValues (g : Graph) (w : Walk) : Walk :=
  { w with slots := w.slots.map (Slot.withValues g) }

namespace Node

variable {n : Node}

/-- A node has the sockets that it has without its value. -/
@[simp] theorem outputs_shape (n : Node) : n.shape.kind.outputs = n.kind.outputs := by
  obtain ⟨s, h⟩ | ⟨-, h⟩ := n.parameter_cases
  · simp [shape, withParameterValue, h, NodeKind.outputs]
  · rw [shape, h]

@[simp] theorem operands_shape (n : Node) : n.shape.kind.operands = n.kind.operands := by
  obtain ⟨s, h⟩ | ⟨-, h⟩ := n.parameter_cases
  · simp [shape, withParameterValue, h, NodeKind.operands, NodeKind.inputs]
  · rw [shape, h]

/-- The definitions of a node are those without its value, but for the value. -/
theorem block_shape (n : Node) (next : Nat) (read : String → Option Expr) :
    (n.shape.kind.block next read).map (fun d => { d with expr := literal n.parameter? d.expr }) =
      n.kind.block next read := by
  obtain ⟨s, h⟩ | ⟨hnone, h⟩ := n.parameter_cases
  · simp [shape, withParameterValue, h, NodeKind.block, literal, parameter?]
  · rw [shape, h, hnone]
    exact List.map_id' _

end Node

namespace Walk

variable {g : Graph} {w : Walk} {n : Node}

@[simp] theorem visited_withValues (g : Graph) (w : Walk) :
    (w.withValues g).visited = w.visited := rfl

@[simp] theorem slots_withValues (g : Graph) (w : Walk) :
    (w.withValues g).slots = w.slots.map (Slot.withValues g) := rfl

/-- Values do not matter to which variable stands for a socket. -/
@[simp] theorem bound?_withValues (g : Graph) (w : Walk) (node socket : String) :
    (w.withValues g).bound? node socket = w.bound? node socket := by
  simp only [bound?, slots_withValues, List.findIdx?_map]
  rfl

/-- A variable that is added gets the value of its node. -/
theorem withValues_define (g : Graph) (w : Walk) (id : String) (d : Definition) :
    (w.define id d).withValues g = (w.withValues g).define id
      { d with expr := literal ((g.node? id).bind Node.parameter?) d.expr } := by
  have hnames : (w.withValues g).slots.map (·.name) = w.slots.map (·.name) := by
    simp [Slot.withValues, Function.comp_def]
  simp only [define, withValues, List.map_append] at hnames ⊢
  rw [hnames]
  rfl

theorem withValues_defineAll (g : Graph) (w : Walk) (id : String) (ds : List Definition) :
    (w.defineAll id ds).withValues g = (w.withValues g).defineAll id (ds.map fun d =>
      { d with expr := literal ((g.node? id).bind Node.parameter?) d.expr }) := by
  induction ds generalizing w with
  | nil => rfl
  | cons d rest ih =>
    rw [List.map_cons, defineAll, List.foldl_cons]
    exact (ih _).trans (by rw [withValues_define]; rfl)

/-- A node is completed with its value. -/
theorem withValues_complete (hn : g.node? n.id = some n) (w : Walk) (found : List (String × Expr)) :
    (w.complete n.shape found).withValues g = (w.withValues g).complete n found := by
  rw [complete, complete, withValues_defineAll, Node.id_shape, hn, Option.bind_some, n.block_shape,
    slots_withValues, List.length_map]

end Walk

namespace Lowering

variable {g : Graph} {w w' : Walk} {n : Node} {stack : List String} {id : String}
  {row : List (String × SocketType)} {found : List (String × Expr)}
  {back : List (String × String)}

/-- The same is read from a node with and without the values. -/
theorem read?_withValues (g : Graph) (w : Walk) (n : Node) (out : String) (t : SocketType) :
    read? (w.withValues g) n out t = read? w n.shape out t := by
  simp only [read?, outlet?, Walk.bound?_withValues, Node.outputs_shape, Node.id_shape]

/-- A row of inputs is read with the values as it is without them. -/
theorem Follows.withValues (h : Follows g.shape stack id row w found w' back) :
    Follows g stack id row (w.withValues g) found (w'.withValues g) back := by
  have hsome {id socket : String} {m : Node} {out : String}
      (h : g.shape.source? id socket = some (m, out)) :
      ∃ n, g.source? id socket = some (n, out) ∧ n.shape = m := by
    rw [Graph.source?_shape, Option.map_eq_some_iff] at h
    obtain ⟨⟨n, out⟩, hn, heq⟩ := h
    obtain ⟨rfl, rfl⟩ := Prod.mk.inj heq
    exact ⟨n, hn, rfl⟩
  induction h with
  | nil => exact .nil _ _ _
  | unfed hsource _ ih =>
    rw [Graph.source?_shape, Option.map_eq_none_iff] at hsource
    exact .unfed hsource ih
  | back hsource hvisited hstack _ ih =>
    obtain ⟨n, hn, rfl⟩ := hsome hsource
    rw [Node.id_shape] at hvisited hstack
    rw [← read?_withValues]
    exact .back hn hvisited hstack ih
  | known hsource hvisited hstack _ ih =>
    obtain ⟨n, hn, rfl⟩ := hsome hsource
    rw [Node.id_shape] at hvisited hstack
    rw [← read?_withValues]
    exact .known hn hvisited hstack ih
  | new hsource hnew _ _ ihinner ihrest =>
    obtain ⟨n, hn, rfl⟩ := hsome hsource
    rw [Walk.withValues_complete (Graph.node?_source hn)] at ihrest
    rw [← read?_withValues, Walk.withValues_complete (Graph.node?_source hn)]
    rw [Node.id_shape] at hnew
    rw [Node.operands_shape, Node.id_shape] at ihinner
    exact .new hn hnew ihinner ihrest

end Lowering

/-! ## Programs -/

variable {g h : Graph} {found : List (String × Expr)} {w : Walk} {back : List (String × String)}

/-- A graph is walked as it is without the values, which are then put in. -/
theorem Graph.Walks.withValues (hwalks : g.shape.Walks found w back) :
    g.Walks found (w.withValues g) back := by
  unfold Walks at hwalks ⊢
  rw [outputNode?_shape] at hwalks
  cases hsink : g.outputNode? with
  | none =>
    rw [hsink] at hwalks
    obtain ⟨rfl, rfl, rfl⟩ := hwalks
    exact ⟨rfl, rfl, rfl⟩
  | some sink =>
    rw [hsink] at hwalks
    have hfollows := Lowering.Follows.withValues hwalks
    rwa [Node.id_shape] at hfollows

/-- What a graph returns does not depend on the values. -/
theorem Graph.resultOf_shape (g : Graph) (found : List (String × Expr)) :
    g.shape.resultOf found = g.resultOf found := by
  rw [resultOf, resultOf, outputNode?_shape]
  cases g.outputNode? <;> cases found.lookup "value" <;> rfl

/-- An id stands for a parameter in both graphs or in none. -/
theorem Graph.isSome_parameter_of_shape_eq (hshape : h.shape = g.shape) (id : String) :
    ((h.node? id).bind Node.parameter?).isSome = ((g.node? id).bind Node.parameter?).isSome := by
  have hvalue (g : Graph) : ((g.shape.node? id).bind Node.parameter?).isSome =
      ((g.node? id).bind Node.parameter?).isSome := by
    rw [node?_shape]
    cases g.node? id <;> simp [Node.shape]
  rw [← hvalue h, hshape, hvalue g]

/-- Of two values that are put in the latter counts. -/
theorem Slot.withValues_withValues (hshape : h.shape = g.shape) (slot : Slot) :
    (slot.withValues g).withValues h = slot.withValues h := by
  have hparameter := Graph.isSome_parameter_of_shape_eq hshape slot.node
  cases hh : (h.node? slot.node).bind Node.parameter? with
  | some s => simp [Slot.withValues, literal, hh]
  | none =>
    have hg : (g.node? slot.node).bind Node.parameter? = none := by simpa [hh] using hparameter.symm
    simp [Slot.withValues, literal, hh, hg]

/-- **Values are literals.** The walk of a graph binds the variables of its parameters to their
values. A graph that differs in these values only has the program that binds them to its own: the
variables, the result and all other statements are the same. -/
theorem exists_walks_of_shape_eq (g : Graph) :
    ∃ found w back, g.Walks found w back ∧ w.withValues g = w ∧
      ∀ (h : Graph) (useWorldPos : Bool), h.shape = g.shape → lower h useWorldPos =
        { lower g useWorldPos with
          stmts := Slot.statements 0 (w.slots.map (Slot.withValues h)) } := by
  obtain ⟨found, v, back, hv⟩ := g.shape.exists_walks
  have hvalues {h : Graph} (hshape : h.shape = g.shape) :
      ((v.withValues g).withValues h) = v.withValues h := by
    simp only [Walk.withValues, List.map_map]
    exact congrArg _ (List.map_congr_left fun slot _ => slot.withValues_withValues hshape)
  refine ⟨found, v.withValues g, back, hv.withValues, hvalues rfl, fun h b hshape => ?_⟩
  have hv' : h.Walks found (v.withValues h) back := (hshape ▸ hv).withValues
  have hresult : h.resultOf found = g.resultOf found := by
    rw [← h.resultOf_shape, hshape, g.resultOf_shape]
  rw [lower_eq_program hv', lower_eq_program hv.withValues, hresult, ← hvalues hshape]
  simp [Walk.program, Slot.withValues, Function.comp_def]

end Heightfield
