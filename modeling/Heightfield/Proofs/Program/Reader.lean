import Heightfield.Proofs.Graph.Disconnect
import Heightfield.Proofs.Program.Follow
import Heightfield.Proofs.Program.WellFormed

/-!
# The inputs that are read

The lowering reads the input of the sink and the inputs of live nodes, and no others. So graphs with
the same sink, in which the same sources feed these inputs, have the same program, whatever else
there is in them.

* `Graph.Reader` are the sink and the live nodes, and `Graph.Reads` says that an input is theirs.
* `Lowering.Follows.congr` says that the walk depends on the sources of these inputs only.
* `lower_congr` is the result for programs.
-/

namespace Heightfield

namespace Graph

variable {g : Graph} {m : Node} {id socket out : String}

/-- The source of an input that is read reads its own inputs, if it has any. -/
theorem Reads.operand (h : g.Reads id socket) (hsource : g.source? id socket = some (m, out))
    {p : String × SocketType} (hp : p ∈ m.kind.operands) : g.Reads m.id p.1 := by
  obtain ⟨n, hn, rfl, hsocket⟩ := h
  have hfeeder := feeder?_of_source hsocket hsource (NodeKind.ne_output_of_mem_operands hp)
  refine ⟨m, .inr (hn.live ⟨socket, out, hfeeder⟩), rfl, ?_⟩
  rw [NodeKind.inputType?_of_mem_operands hp]
  rfl

end Graph

/-! ## The walk -/

variable {g g' : Graph}

/-- The walk depends on the sources of the inputs that are read, and on nothing else. -/
theorem Lowering.Follows.congr {stack : List String} {id : String}
    {row : List (String × SocketType)} {w w' : Walk} {found : List (String × Expr)}
    {back : List (String × String)} (h : Follows g stack id row w found w' back)
    (hrow : ∀ p ∈ row, g.Reads id p.1)
    (hsources : ∀ id socket, g.Reads id socket → g'.source? id socket = g.source? id socket) :
    Follows g' stack id row w found w' back := by
  induction h with
  | nil => exact .nil _ _ _
  | unfed hsource _ ih =>
    rw [List.forall_mem_cons] at hrow
    rw [← hsources _ _ hrow.1] at hsource
    exact .unfed hsource (ih hrow.2)
  | back hsource hvisited hstack _ ih =>
    rw [List.forall_mem_cons] at hrow
    rw [← hsources _ _ hrow.1] at hsource
    exact .back hsource hvisited hstack (ih hrow.2)
  | known hsource hvisited hstack _ ih =>
    rw [List.forall_mem_cons] at hrow
    rw [← hsources _ _ hrow.1] at hsource
    exact .known hsource hvisited hstack (ih hrow.2)
  | new hsource hnew _ _ ihinner ihrest =>
    rw [List.forall_mem_cons] at hrow
    have hinner := ihinner fun p hp => hrow.1.operand hsource hp
    rw [← hsources _ _ hrow.1] at hsource
    exact .new hsource hnew hinner (ihrest hrow.2)

/-- The sink reads its input. -/
theorem Graph.reads_of_outputNode? {sink : Node} (h : g.outputNode? = some sink) :
    g.Reads sink.id "value" := by
  refine ⟨sink, .inl h, rfl, ?_⟩
  rw [kind_of_outputNode? h]
  rfl

/-- Graphs with the same sink have the same walk, if the same sources feed the inputs that are
read. -/
theorem Graph.Walks.congr {found : List (String × Expr)} {w : Walk} {back : List (String × String)}
    (h : g.Walks found w back) (hsink : g'.outputNode? = g.outputNode?)
    (hsources : ∀ id socket, g.Reads id socket → g'.source? id socket = g.source? id socket) :
    g'.Walks found w back := by
  unfold Walks at h ⊢
  rw [hsink]
  cases hout : g.outputNode? with
  | none =>
    rw [hout] at h
    exact h
  | some sink =>
    rw [hout] at h
    exact h.congr (List.forall_mem_singleton.mpr (reads_of_outputNode? hout)) hsources

/-- Graphs with the same sink have the same program, if the same sources feed the inputs that are
read. -/
theorem lower_congr (hsink : g'.outputNode? = g.outputNode?)
    (hsources : ∀ id socket, g.Reads id socket → g'.source? id socket = g.source? id socket)
    (useWorldPos : Bool) : lower g' useWorldPos = lower g useWorldPos := by
  obtain ⟨found, w, back, h⟩ := g.exists_walks
  have hresult : g'.resultOf found = g.resultOf found := by
    rw [Graph.resultOf, Graph.resultOf, hsink]
  rw [lower_eq_program h, lower_eq_program (h.congr hsink hsources), hresult]

end Heightfield
