import Heightfield.Proofs.Graph.Restrict
import Heightfield.Proofs.Program.Block

/-!
# Dead code

A program consists of the blocks of the live nodes, and of nothing else. So what the search from the
sink does not come to may as well be taken away: nodes that are neither the sink nor at the end of a
connection that is followed, nodes behind another of the same id, and connections that are not
followed.

* `Graph.prune` takes all of that away.
* `Graph.lower_live` says what the program of a graph consists of, and that it is that of the pruned
  graph.
-/

namespace Heightfield
namespace Graph

/-- The inputs that are read, given the live nodes: that of the sink, and those of the live nodes. -/
def readInputs (g : Graph) (live : List Node) : List (String × String) :=
  (g.outputNode?.toList ++ live).flatMap fun n => n.kind.inputs.map fun p => (n.id, p.1)

/-- The connections that are followed. -/
def followed (g : Graph) (live : List Node) : List Connection :=
  (g.readInputs live).filterMap fun (id, socket) => g.incoming? id socket

/-- Leaves of the nodes only the sink and the first of each id that is live or that a followed
connection comes from, and of the connections only those that are followed. -/
def prune (g : Graph) (live : List Node) : Graph :=
  let ids := live.map (·.id) ++ (g.followed live).map (·.fromNode)
  g.restrict (fun k => g.outputIdx? = some k || ids.any fun id => g.nodeIdx? id = some k)
    (fun k => (g.readInputs live).any fun (id, socket) => g.incomingIdx? id socket = some k)

variable {g : Graph} {live : List Node} {id socket : String}

/-- The inputs that are read are those that are listed, if the live nodes are. -/
theorem Reads.mem_readInputs (h : g.Reads id socket) (hlive : ∀ n, g.Live n → n ∈ live) :
    (id, socket) ∈ g.readInputs live := by
  obtain ⟨n, hn, rfl, hsocket⟩ := h
  obtain ⟨t, ht⟩ := Option.isSome_iff_exists.mp hsocket
  refine List.mem_flatMap.mpr ⟨n, ?_, List.mem_map.mpr ⟨_, mem_of_lookup ht, rfl⟩⟩
  rw [List.mem_append, Option.mem_toList]
  exact hn.imp_right (hlive n)

theorem outputNode?_prune (g : Graph) (live : List Node) :
    (g.prune live).outputNode? = g.outputNode? :=
  outputNode?_restrict fun k hk => by simp [hk]

/-- The id of a live node stands for that node still. -/
theorem node?_prune_of_mem_live (h : id ∈ live.map (·.id)) :
    (g.prune live).node? id = g.node? id := by
  refine node?_restrict fun k hk => ?_
  rw [Bool.or_eq_true, List.any_eq_true]
  exact .inr ⟨id, List.mem_append_left _ h, by simp [hk]⟩

/-- The id that a followed connection comes from stands for the same node still. -/
theorem node?_prune_of_followed {c : Connection} (h : c ∈ g.followed live) :
    (g.prune live).node? c.fromNode = g.node? c.fromNode := by
  refine node?_restrict fun k hk => ?_
  rw [Bool.or_eq_true, List.any_eq_true]
  exact .inr ⟨c.fromNode, List.mem_append_right _ (List.mem_map_of_mem h), by simp [hk]⟩

/-- The id of a node that reads its inputs stands for some node still. -/
theorem isSome_node?_prune {n : Node} (hn : g.Reader n) (hlive : ∀ n, g.Live n → n ∈ live) :
    ((g.prune live).node? n.id).isSome = true := by
  rcases hn with hsink | hn
  · rw [← outputNode?_prune g live] at hsink
    rw [node?, List.find?_isSome]
    exact ⟨n, List.mem_of_find?_eq_some hsink, by simp⟩
  · rw [node?_prune_of_mem_live (List.mem_map_of_mem (hlive n hn)), hn.node?_self]
    rfl

/-- An input that is read has the same source still. -/
theorem source?_prune (hlive : ∀ n, g.Live n → n ∈ live) (h : g.Reads id socket) :
    (g.prune live).source? id socket = g.source? id socket := by
  have hinput := h.mem_readInputs hlive
  have hfollowed {c : Connection} (hc : g.incoming? id socket = some c) : c ∈ g.followed live :=
    List.mem_filterMap.mpr ⟨(id, socket), hinput, hc⟩
  obtain ⟨n, hn, rfl, -⟩ := h
  have hincoming : (g.prune live).incoming? n.id socket = g.incoming? n.id socket := by
    refine incoming?_restrict (fun k hk => ?_) fun c hc => ?_
    · rw [List.any_eq_true]
      exact ⟨(n.id, socket), hinput, by simp [hk]⟩
    · have hto := List.find?_some hc
      simp only [Bool.and_eq_true, decide_eq_true_eq] at hto
      obtain ⟨⟨hto, -⟩, hends⟩ := hto
      rw [isResolvable, Bool.and_eq_true] at hends ⊢
      refine ⟨?_, ?_⟩
      · rw [← prune, node?_prune_of_followed (hfollowed hc)]
        exact hends.1
      · rw [hto]
        exact isSome_node?_prune hn hlive
  rw [source?, source?, hincoming]
  cases hc : g.incoming? n.id socket with
  | none => rfl
  | some c =>
    simp only [Option.bind_some, node?_prune_of_followed (hfollowed hc)]

/-- **Exactly the live nodes are compiled, each once.** A depth-first search from the sink leaves
the live nodes in one order, and the variables of the program are their blocks in that order, where
a block binds each output socket of its node once. So the program stays the same without the nodes
and the connections that the search does not come to. -/
theorem lower_live (g : Graph) :
    ∃ live, g.LiveOrder live ∧ (∀ live', g.LiveOrder live' → live' = live) ∧
      (live.map (·.id)).Nodup ∧ (∀ n, n ∈ live ↔ g.Live n) ∧
      (∃ found w back blocks, g.Walks found w back ∧
        (∀ useWorldPos, lower g useWorldPos = w.program (g.resultOf found) useWorldPos) ∧
        w.slots = blocks.flatten ∧
        List.Forall₂ (fun n block => n.BoundBy block ∧
          (block.map fun slot => (slot.socket, slot.type)).Perm n.kind.bindings) live blocks) ∧
      ∀ useWorldPos, lower (g.prune live) useWorldPos = lower g useWorldPos := by
  obtain ⟨found, w, back, hwalks⟩ := g.exists_walks
  obtain ⟨live, blocks, hlive, hslots, hblocks⟩ := hwalks.exists_blocks
  refine ⟨live, hlive, fun _ => hlive.unique, hlive.nodup, fun n => hlive.mem_iff, ?_, ?_⟩
  · exact ⟨found, w, back, blocks, hwalks, lower_eq_program hwalks, hslots,
      hblocks.imp fun n block h => ⟨h, h.perm_bindings⟩⟩
  · exact lower_congr (outputNode?_prune g live) fun id socket =>
      source?_prune fun n => hlive.mem_iff.mpr

end Graph
end Heightfield
