import Heightfield.Proofs.Program.Reader
import Heightfield.Shader.Source
import Mathlib.Data.List.Find

/-!
# Rearranged graphs

Look-ups in a graph take the first of several hits, so in general the order of its nodes and
connections matters. In a clean graph no look-up has more than one hit, and then the order is of no
account: the graph is compiled to the same shader however it is arranged.

* `Graph.Clean` says that ids are distinct, that there is one output node at most, and that no input
  has two connections that count.
* `Graph.Rearranges` says that two graphs differ in their order only.
* `compile_rearranges` is the result.
-/

namespace Heightfield
namespace Graph

/-- No look-up has more than one hit. -/
structure Clean (g : Graph) : Prop where
  ids : (g.nodes.map (·.id)).Nodup
  outputs : (g.nodes.filter (·.kind.type = .output)).length ≤ 1
  inputs : ((g.connections.filter g.isResolvable).map fun c => (c.toNode, c.toSocket)).Nodup

/-- The graph has the nodes and the connections of another, in some order. -/
structure Rearranges (h g : Graph) : Prop where
  nodes : h.nodes.Perm g.nodes
  connections : h.connections.Perm g.connections

variable {g h : Graph}

/-- An id is that of one node. -/
theorem Rearranges.node?_eq (hperm : h.Rearranges g) (hclean : g.Clean) (id : String) :
    h.node? id = g.node? id := by
  refine (List.find?_eq_find?_of_perm hperm.nodes.symm ?_).symm
  rintro m ⟨hm, hid⟩ n ⟨hn, hid'⟩
  have heq : m.id = n.id := (of_decide_eq_true hid).trans (of_decide_eq_true hid').symm
  exact List.inj_on_of_nodup_map hclean.ids hm hn heq

/-- One node is the sink, if there is any. -/
theorem Rearranges.outputNode?_eq (hperm : h.Rearranges g) (hclean : g.Clean) :
    h.outputNode? = g.outputNode? := by
  refine (List.find?_eq_find?_of_perm hperm.nodes.symm ?_).symm
  rintro m ⟨hm, hkind⟩ n ⟨hn, hkind'⟩
  have hm' : m ∈ g.nodes.filter (·.kind.type = .output) := List.mem_filter.mpr ⟨hm, hkind⟩
  have hn' : n ∈ g.nodes.filter (·.kind.type = .output) := List.mem_filter.mpr ⟨hn, hkind'⟩
  obtain ⟨sink, hsink⟩ := List.length_eq_one_iff.mp
    (Nat.le_antisymm hclean.outputs (List.length_pos_of_mem hm'))
  rw [hsink, List.mem_singleton] at hm' hn'
  exact hm'.trans hn'.symm

theorem Rearranges.isResolvable_eq (hperm : h.Rearranges g) (hclean : g.Clean) (c : Connection) :
    h.isResolvable c = g.isResolvable c := by
  rw [isResolvable, isResolvable, hperm.node?_eq hclean, hperm.node?_eq hclean]

/-- An input has one connection, if it has any. -/
theorem Rearranges.incoming?_eq (hperm : h.Rearranges g) (hclean : g.Clean) (id socket : String) :
    h.incoming? id socket = g.incoming? id socket := by
  simp only [incoming?, hperm.isResolvable_eq hclean]
  refine (List.find?_eq_find?_of_perm hperm.connections.symm ?_).symm
  rintro c ⟨hc, hto⟩ d ⟨hd, hto'⟩
  simp only [Bool.and_eq_true, decide_eq_true_eq] at hto hto'
  have heq : (c.toNode, c.toSocket) = (d.toNode, d.toSocket) := by
    rw [hto.1.1, hto.1.2, hto'.1.1, hto'.1.2]
  exact List.inj_on_of_nodup_map hclean.inputs (List.mem_filter.mpr ⟨hc, hto.2⟩)
    (List.mem_filter.mpr ⟨hd, hto'.2⟩) heq

/-- An input has one source, if it has any. -/
theorem Rearranges.source?_eq (hperm : h.Rearranges g) (hclean : g.Clean) (id socket : String) :
    h.source? id socket = g.source? id socket := by
  rw [source?, source?, hperm.incoming?_eq hclean]
  simp only [hperm.node?_eq hclean]

end Graph

/-- **The order of a clean graph is of no account.** However its nodes and its connections are
arranged, a clean graph is compiled to the same source, in either dialect and with either kind of
positions. -/
theorem compile_rearranges {g h : Graph} (hclean : g.Clean) (hperm : h.Rearranges g)
    (o : CompileOptions) : (compile h o).source = (compile g o).source := by
  have hlower : lower h o.useWorldPos = lower g o.useWorldPos :=
    lower_congr (hperm.outputNode?_eq hclean)
      (fun id socket _ => hperm.source?_eq hclean id socket) o.useWorldPos
  rw [compile, compile, hlower]

/-- Two operators in a ring, one of them seen. -/
def Graph.ring : Graph where
  nodes := [⟨"p", .math .add 1, [], 0, 0⟩, ⟨"q", .math .add 1, [], 0, 0⟩, ⟨"o", .output, [], 0, 0⟩]
  connections := [.between "q" "value" "p" "a", .between "p" "value" "q" "a",
    .between "p" "value" "o" "value"]

/-- The same, from the last to the first. -/
def Graph.ringReversed : Graph where
  nodes := Graph.ring.nodes.reverse
  connections := Graph.ring.connections.reverse

theorem compile_rearranges_ring : Graph.ring.Clean ∧ Graph.ringReversed.Rearranges Graph.ring ∧
    ∀ o, (compile Graph.ringReversed o).source = (compile Graph.ring o).source := by
  have hclean : Graph.ring.Clean := ⟨by decide, by decide, by decide⟩
  have hperm : Graph.ringReversed.Rearranges Graph.ring :=
    ⟨List.reverse_perm _, List.reverse_perm _⟩
  exact ⟨hclean, hperm, compile_rearranges hclean hperm⟩

end Heightfield
