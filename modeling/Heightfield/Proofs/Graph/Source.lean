import Heightfield.Graph.Basic

/-!
# Sources

Where an input of a node comes from: the first resolvable connection into it, and the node at the
other end, which is the first node of its id.

* `Graph.source?` is the node at the other end, with the name of its socket.
* `Graph.node?_source` says that a source is what its own id stands for.
-/

namespace Heightfield
namespace Graph

variable {g : Graph}

/-- The node that an input is connected to, with the name of its output. -/
def source? (g : Graph) (id socket : String) : Option (Node × String) :=
  (g.incoming? id socket).bind fun c => (g.node? c.fromNode).map fun n => (n, c.fromSocket)

/-- A node that is found under an id is found under its own id. -/
theorem node?_id {id : String} {n : Node} (h : g.node? id = some n) : n.id = id := by
  have := List.find?_some h
  simpa using this

/-- What is found under an id is found under the id of what is found. -/
theorem node?_self {id : String} {n : Node} (h : g.node? id = some n) :
    g.node? n.id = some n := by
  rw [node?_id h, h]

/-- A source comes with a connection that leads from it to the input. -/
theorem exists_connection {id socket out : String} {n : Node}
    (h : g.source? id socket = some (n, out)) :
    ∃ c ∈ g.connections, c.toNode = id ∧ g.node? c.fromNode = some n := by
  obtain ⟨c, hc, h⟩ := Option.bind_eq_some_iff.mp h
  obtain ⟨m, hm, heq⟩ := Option.map_eq_some_iff.mp h
  obtain ⟨rfl, -⟩ := Prod.mk.inj heq
  have hto := List.find?_some hc
  simp only [Bool.and_eq_true, decide_eq_true_eq] at hto
  exact ⟨c, List.mem_of_find?_eq_some hc, hto.1.1, hm⟩

/-- A source is the first node of its id. -/
theorem node?_source {id socket out : String} {n : Node}
    (h : g.source? id socket = some (n, out)) : g.node? n.id = some n := by
  obtain ⟨c, -, -, hn⟩ := exists_connection h
  exact node?_self hn

end Graph
end Heightfield
