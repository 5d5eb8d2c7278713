import Heightfield.Preset.Override
import Heightfield.Proofs.Graph.Source
import Mathlib.Data.List.Find

/-!
# Graphs without the values of parameters

What a graph is besides the values of its parameters. No look-up depends on these values: texts
address the same parameters, and the same nodes feed the same inputs.

* `Graph.shape` puts all values to zero.
* `Graph.parameterIndex?_shape` and `Graph.source?_shape` are about the look-ups.
-/

namespace Heightfield

namespace Node

variable {n : Node} {s : ParameterSettings}

/-- The node without the value of its parameter. -/
def shape (n : Node) : Node := n.withParameterValue 0

/-- A node is a parameter, or nothing is set at it. -/
theorem parameter_cases (n : Node) :
    (∃ s, n.kind = .parameter s) ∨
      n.parameter? = none ∧ ∀ x, n.withParameterValue x = n := by
  obtain ⟨id, kind, inputs, px, py⟩ := n
  cases kind with
  | parameter s => exact .inl ⟨s, rfl⟩
  | _ => exact .inr ⟨rfl, fun _ => rfl⟩

theorem parameter?_eq_some_iff : n.parameter? = some s ↔ n.kind = .parameter s := by
  obtain ⟨t, ht⟩ | ⟨hnone, -⟩ := n.parameter_cases
  · simp [parameter?, ht]
  · rw [hnone]
    refine iff_of_false nofun fun h => ?_
    simp [parameter?, h] at hnone

@[simp] theorem id_withParameterValue (n : Node) (x : Float32) :
    (n.withParameterValue x).id = n.id := by
  obtain ⟨s, h⟩ | ⟨-, h⟩ := n.parameter_cases
  · simp [withParameterValue, h]
  · rw [h]

@[simp] theorem id_shape (n : Node) : n.shape.id = n.id := n.id_withParameterValue 0

@[simp] theorem withParameterValue_withParameterValue (n : Node) (x y : Float32) :
    (n.withParameterValue x).withParameterValue y = n.withParameterValue y := by
  obtain ⟨s, h⟩ | ⟨-, h⟩ := n.parameter_cases
  · simp [withParameterValue, h]
  · rw [h]

@[simp] theorem parameter?_withParameterValue (n : Node) (x : Float32) :
    (n.withParameterValue x).parameter? = n.parameter?.map fun s => { s with value := x } := by
  obtain ⟨s, h⟩ | ⟨hnone, h⟩ := n.parameter_cases
  · simp [withParameterValue, parameter?, h]
  · rw [h, hnone]
    rfl

@[simp] theorem type_withParameterValue (n : Node) (x : Float32) :
    (n.withParameterValue x).kind.type = n.kind.type := by
  obtain ⟨s, h⟩ | ⟨-, h⟩ := n.parameter_cases
  · simp [withParameterValue, h, NodeKind.type]
  · rw [h]

end Node

namespace Graph

variable {g g' : Graph} {id socket target : String} {i : Nat}

/-- The graph without the values of its parameters. -/
def shape (g : Graph) : Graph :=
  { g with nodes := g.nodes.map Node.shape }

/-- Graphs are told by their nodes and by what belongs to no node. -/
theorem eq_of_getElem? (hnodes : ∀ i : Nat, g'.nodes[i]? = g.nodes[i]?)
    (hconnections : g'.connections = g.connections) (hissues : g'.loadIssues = g.loadIssues) :
    g' = g := by
  obtain ⟨nodes, connections, issues⟩ := g
  obtain rfl := List.ext_getElem? hnodes
  obtain rfl := hconnections
  obtain rfl := hissues
  rfl

/-- Values do not matter to what a text addresses. -/
theorem parameterIndex?_shape (g : Graph) (target : String) :
    g.shape.parameterIndex? target = g.parameterIndex? target := by
  have hname : (fun n : Node => n.parameter?.any (·.name = target)) ∘ Node.shape =
      fun n => n.parameter?.any (·.name = target) := by
    funext n
    cases h : n.parameter? <;> simp [Node.shape, h]
  have hid : (fun n : Node => n.id = target && n.parameter?.isSome) ∘ Node.shape =
      fun n => n.id = target && n.parameter?.isSome := by
    funext n
    simp [Node.shape]
  rw [parameterIndex?, shape, List.findIdx?_map, List.findIdx?_map, hname, hid]
  rfl

/-- There is a parameter at the place that a text addresses. -/
theorem exists_parameter (h : g.parameterIndex? target = some i) :
    ∃ n s, g.nodes[i]? = some n ∧ n.parameter? = some s := by
  rw [parameterIndex?, Option.or_eq_some_iff] at h
  rcases h with hname | ⟨-, hid⟩
  · obtain ⟨hlt, hp, -⟩ := List.findIdx?_eq_some_iff_getElem.mp hname
    obtain ⟨s, hs, -⟩ := (Option.any_eq_true _ _).mp hp
    exact ⟨g.nodes[i], s, List.getElem?_eq_getElem hlt, hs⟩
  · obtain ⟨hlt, hp, -⟩ := List.findIdx?_eq_some_iff_getElem.mp hid
    obtain ⟨s, hs⟩ := Option.isSome_iff_exists.mp (Bool.and_eq_true_iff.mp hp).2
    exact ⟨g.nodes[i], s, List.getElem?_eq_getElem hlt, hs⟩

/-! ## Nodes and connections -/

/-- An id stands for the node that it stood for. -/
theorem node?_shape (g : Graph) (id : String) :
    g.shape.node? id = (g.node? id).map Node.shape := by
  rw [node?, shape, List.find?_map, node?]
  refine congrArg (fun p => (g.nodes.find? p).map Node.shape) (funext fun n => ?_)
  simp

theorem outputNode?_shape (g : Graph) :
    g.shape.outputNode? = g.outputNode?.map Node.shape := by
  rw [outputNode?, shape, List.find?_map, outputNode?]
  refine congrArg (fun p => (g.nodes.find? p).map Node.shape) (funext fun n => ?_)
  simp [Node.shape]

theorem incoming?_shape (g : Graph) (id socket : String) :
    g.shape.incoming? id socket = g.incoming? id socket := by
  simp only [incoming?, isResolvable, node?_shape, Option.isSome_map]
  rfl

/-- The same node feeds an input. -/
theorem source?_shape (g : Graph) (id socket : String) :
    g.shape.source? id socket = (g.source? id socket).map fun p => (p.1.shape, p.2) := by
  rw [source?, source?, incoming?_shape]
  cases g.incoming? id socket with
  | none => rfl
  | some c => simp [node?_shape, Function.comp_def]

end Graph
end Heightfield
