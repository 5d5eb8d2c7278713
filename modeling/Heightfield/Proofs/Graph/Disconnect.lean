import Heightfield.Proofs.Graph.Meaning

/-!
# Disconnecting inputs

Some inputs of a graph are made unconnected: every connection into them is taken away. Nothing else
changes, neither the nodes nor what feeds the other inputs.

* `Graph.disconnect` takes the connections away.
* `Graph.source?_disconnect_of_mem` and `Graph.source?_disconnect_of_not_mem` say what feeds an
  input afterwards.
* `Graph.Acyclic.of_acc` finds a graph acyclic from the nodes that feed the sink.
-/

namespace Heightfield
namespace Graph

variable {g : Graph} {cuts : List (String × String)} {id socket : String}

/-- Takes away every connection into the given inputs. -/
def disconnect (g : Graph) (cuts : List (String × String)) : Graph :=
  { g with connections := g.connections.filter fun c => (c.toNode, c.toSocket) ∉ cuts }

@[simp] theorem nodes_disconnect (g : Graph) (cuts : List (String × String)) :
    (g.disconnect cuts).nodes = g.nodes := rfl

@[simp] theorem node?_disconnect (g : Graph) (cuts : List (String × String)) (id : String) :
    (g.disconnect cuts).node? id = g.node? id := rfl

@[simp] theorem outputNode?_disconnect (g : Graph) (cuts : List (String × String)) :
    (g.disconnect cuts).outputNode? = g.outputNode? := rfl

@[simp] theorem isResolvable_disconnect (g : Graph) (cuts : List (String × String))
    (c : Connection) : (g.disconnect cuts).isResolvable c = g.isResolvable c := rfl

theorem connections_disconnect (g : Graph) (cuts : List (String × String)) :
    (g.disconnect cuts).connections =
      g.connections.filter fun c => (c.toNode, c.toSocket) ∉ cuts := rfl

/-- A given input has no connection left. -/
theorem incoming?_disconnect_of_mem (h : (id, socket) ∈ cuts) :
    (g.disconnect cuts).incoming? id socket = none := by
  rw [incoming?, List.find?_eq_none]
  intro c hc hto
  have hkept := of_decide_eq_true (List.mem_filter.mp hc).2
  simp only [Bool.and_eq_true, decide_eq_true_eq] at hto
  obtain ⟨⟨rfl, rfl⟩, -⟩ := hto
  exact hkept h

/-- Another input keeps its connection. -/
theorem incoming?_disconnect_of_not_mem (h : (id, socket) ∉ cuts) :
    (g.disconnect cuts).incoming? id socket = g.incoming? id socket := by
  rw [incoming?, connections_disconnect, List.find?_filter]
  refine congrArg (g.connections.find? ·) (funext fun c => ?_)
  -- a connection into the input is not among those that are taken away
  by_cases hto : c.toNode = id ∧ c.toSocket = socket
  · obtain ⟨rfl, rfl⟩ := hto
    simp [h]
  · have hnot : (c.toNode = id && c.toSocket = socket) = false := by simpa using hto
    simp [hnot]

/-- Nothing feeds a given input. -/
theorem source?_disconnect_of_mem (h : (id, socket) ∈ cuts) :
    (g.disconnect cuts).source? id socket = none := by
  rw [source?, incoming?_disconnect_of_mem h, Option.bind_none]

/-- What feeds another input feeds it still. -/
theorem source?_disconnect_of_not_mem (h : (id, socket) ∉ cuts) :
    (g.disconnect cuts).source? id socket = g.source? id socket := by
  rw [source?, incoming?_disconnect_of_not_mem h]
  rfl

/-- What feeds an input without the connections fed it with them. -/
theorem source?_of_disconnect {src : Node × String}
    (h : (g.disconnect cuts).source? id socket = some src) : g.source? id socket = some src := by
  by_cases hmem : (id, socket) ∈ cuts
  · rw [source?_disconnect_of_mem hmem] at h
    cases h
  · rwa [source?_disconnect_of_not_mem hmem] at h

/-- The sink is an output node. -/
theorem kind_of_outputNode? {sink : Node} (h : g.outputNode? = some sink) :
    sink.kind = .output := by
  have htype : sink.kind.type = .output := by simpa using List.find?_some h
  cases hk : sink.kind <;> simp_all [NodeKind.type]

/-- A node from which going backwards ends is on no cycle. -/
theorem not_transGen_self_of_acc {n : Node} (h : Acc g.Feeds n) :
    ¬ Relation.TransGen g.Feeds n n := by
  induction h.transGen with
  | intro n _ ih =>
    intro hcycle
    exact ih n hcycle (h.inv_of_transGen hcycle) hcycle

/-- A graph is acyclic if going backwards ends from every node that feeds the sink. -/
theorem Acyclic.of_acc
    (h : ∀ sink m, g.outputNode? = some sink → g.Feeds m sink → Acc g.Feeds m) : g.Acyclic := by
  rintro n ⟨sink, hsink, hpath⟩
  obtain ⟨m, hnm, hm⟩ := Relation.TransGen.tail'_iff.mp hpath
  have hacc := h sink m hsink hm
  rcases Relation.reflTransGen_iff_eq_or_transGen.mp hnm with rfl | hnm
  · exact not_transGen_self_of_acc hacc
  · exact not_transGen_self_of_acc (hacc.inv_of_transGen hnm)

end Graph
end Heightfield
