import Heightfield.Proofs.Graph.Postorder
import Heightfield.Proofs.Program.Reader
import Mathlib.Data.List.Forall2

/-!
# The blocks of a program

The variables of a program stand in blocks, one behind the other: a block binds the output sockets
of one live node, and the blocks follow each other as a depth-first search leaves the nodes.

* `NodeKind.bindings` are the sockets that a node binds.
* `Node.BoundBy` says that a row of variables is the block of a node.
* `Lowering.Follows.exists_postorder` finds the search and the blocks in the walk of the lowering.
-/

namespace Heightfield

/-! ## The block of a node -/

/-- The sockets that a node binds: its output sockets, and what it keeps of a vector that it takes
apart. -/
def NodeKind.bindings : NodeKind → List (String × SocketType)
  | .separateXyz => ("in", .vector) :: NodeKind.separateXyz.outputs
  | k => k.outputs

/-- A node binds each of its sockets once. -/
theorem NodeKind.perm_bindings (k : NodeKind) (next : Nat) (read : String → Option Expr) :
    ((k.block next read).map fun d => (d.socket, d.type)).Perm k.bindings := by
  cases k with
  | vectorMath operation scale =>
    simp only [block]
    split
    · exact .swap _ _ _
    · exact .refl _
  | _ => exact .refl _

/-- The variables are the block of a node. -/
structure Node.BoundBy (n : Node) (block : List Slot) : Prop where
  owner : ∀ slot ∈ block, slot.node = n.id
  definitions : ∃ next read, block.map Slot.definition = n.kind.block next read

/-- The block of a node binds each of its sockets once. -/
theorem Node.BoundBy.perm_bindings {n : Node} {block : List Slot} (h : n.BoundBy block) :
    (block.map fun slot => (slot.socket, slot.type)).Perm n.kind.bindings := by
  obtain ⟨next, read, hdefs⟩ := h.definitions
  have hsockets : (block.map fun slot => (slot.socket, slot.type)) =
      (block.map Slot.definition).map fun d => (d.socket, d.type) := by
    rw [List.map_map]
    rfl
  rw [hsockets, hdefs]
  exact n.kind.perm_bindings next read

/-- A node that is completed adds its block. -/
theorem Walk.exists_block (w : Walk) (n : Node) (found : List (String × Expr)) :
    ∃ block, (w.complete n found).slots = w.slots ++ block ∧ n.BoundBy block := by
  obtain ⟨block, hslots, hdefs, howner⟩ := slots_defineAll w n.id
    (n.kind.block w.slots.length fun socket => found.lookup socket)
  exact ⟨block, hslots, howner, _, _, hdefs⟩

/-- An output node adds nothing. -/
theorem Walk.complete_of_output (w : Walk) {n : Node} (hn : n.kind = .output)
    (found : List (String × Expr)) : w.complete n found = w := by
  rw [complete, hn]
  rfl

/-! ## The search in the walk -/

/-- Of the nodes that are no output nodes, those have been visited that have been met. -/
def Graph.MetBy (g : Graph) (seen : List String) (w : Walk) : Prop :=
  ∀ m, g.node? m.id = some m → m.kind ≠ .output → (m.id ∈ seen ↔ m.id ∈ w.visited)

namespace Graph.MetBy

variable {g : Graph} {seen : List String} {w : Walk} {m : Node}

theorem init (g : Graph) : g.MetBy [] {} := fun _ _ _ => Iff.rfl

/-- A node that is entered is met. -/
theorem enter (h : g.MetBy seen w) (id : String) : g.MetBy (id :: seen) (w.enter id) := by
  intro k hk hkind
  rw [Walk.visited_enter, List.mem_cons, List.mem_cons, h k hk hkind]

/-- Entering an output node makes no difference. -/
theorem enter_output (h : g.MetBy seen w) (hm : g.node? m.id = some m) (hkind : m.kind = .output) :
    g.MetBy seen (w.enter m.id) := by
  intro k hk hne
  rw [Walk.visited_enter, List.mem_cons, h k hk hne]
  refine ⟨.inr, fun hmem => hmem.resolve_left fun heq => hne ?_⟩
  rw [heq, hm] at hk
  rwa [← Option.some.inj hk]

theorem complete (h : g.MetBy seen w) (m : Node) (found : List (String × Expr)) :
    g.MetBy seen (w.complete m found) := by
  intro k hk hkind
  rw [Walk.visited_complete, h k hk hkind]

end Graph.MetBy

namespace Lowering

variable {g : Graph} {stack : List String} {id : String} {row : List (String × SocketType)}
  {w w' : Walk} {found : List (String × Expr)} {back : List (String × String)}

/-- Reading a row of inputs follows them depth first, and adds the blocks of the nodes that are left
on the way. -/
theorem Follows.exists_postorder (h : Follows g stack id row w found w' back) {n : Node}
    {seen : List String} (hn : n.id = id) (hrow : ∀ p ∈ row, (n.kind.inputType? p.1).isSome)
    (hseen : g.MetBy seen w) :
    ∃ order seen' blocks, g.Postorder n (row.map (·.1)) seen order seen' ∧ g.MetBy seen' w' ∧
      w'.slots = w.slots ++ blocks.flatten ∧ List.Forall₂ Node.BoundBy order blocks := by
  induction h generalizing n seen with
  | nil => exact ⟨[], seen, [], .nil _ _, hseen, by simp, .nil⟩
  | unfed hsource _ ih =>
    rw [List.forall_mem_cons] at hrow
    obtain ⟨order, seen', blocks, horder, hrest⟩ := ih hn hrow.2 hseen
    have hfeeder := Graph.feeder?_eq_none (n := n) fun m out hm => by
      rw [hn, hsource] at hm
      cases hm
    exact ⟨order, seen', blocks, .unfed hfeeder horder, hrest⟩
  | @back _ _ _ _ _ _ _ _ _ m _ hsource hvisited _ _ ih
  | @known _ _ _ _ _ _ _ _ _ m _ hsource hvisited _ _ ih =>
    rw [List.forall_mem_cons] at hrow
    obtain ⟨order, seen', blocks, horder, hrest⟩ := ih hn hrow.2 hseen
    refine ⟨order, seen', blocks, ?_, hrest⟩
    rw [← hn] at hsource
    by_cases hm : m.kind = .output
    · refine .unfed (Graph.feeder?_eq_none fun k out hk => ?_) horder
      rw [hsource] at hk
      rwa [← (Prod.mk.inj (Option.some.inj hk)).1]
    · have hmet := (hseen m (Graph.node?_source hsource) hm).mpr hvisited
      exact .met (Graph.feeder?_of_source hrow.1 hsource hm) hmet horder
  | @new _ _ _ _ _ _ inner w₁ _ _ _ _ m _ hsource hnew hinner _ ihinner ihrest =>
    rw [List.forall_mem_cons] at hrow
    rw [← hn] at hsource
    have hnode := Graph.node?_source hsource
    by_cases hm : m.kind = .output
    · -- an output node reads nothing and binds nothing
      have hoperands : m.kind.operands = [] := by
        rw [hm]
        rfl
      rw [hoperands] at hinner
      cases hinner
      rw [Walk.complete_of_output _ hm] at ihrest
      obtain ⟨order, seen', blocks, horder, hrest⟩ :=
        ihrest hn hrow.2 (hseen.enter_output hnode hm)
      refine ⟨order, seen', blocks, .unfed (Graph.feeder?_eq_none fun k out hk => ?_) horder, hrest⟩
      rw [hsource] at hk
      rwa [← (Prod.mk.inj (Option.some.inj hk)).1]
    · have hfresh : m.id ∉ _ := mt (hseen m hnode hm).mp hnew
      obtain ⟨order₁, seen₁, blocks₁, horder₁, hseen₁, hslots₁, hblocks₁⟩ :=
        ihinner rfl (fun p hp => by rw [NodeKind.inputType?_of_mem_operands hp]; rfl)
          (hseen.enter m.id)
      rw [NodeKind.operands_of_ne hm] at horder₁
      obtain ⟨block, hslots, hblock⟩ := w₁.exists_block m inner
      obtain ⟨order₂, seen₂, blocks₂, horder₂, hseen₂, hslots₂, hblocks₂⟩ :=
        ihrest hn hrow.2 (hseen₁.complete m inner)
      refine ⟨order₁ ++ m :: order₂, seen₂, blocks₁ ++ block :: blocks₂,
        .new (Graph.feeder?_of_source hrow.1 hsource hm) hfresh horder₁ horder₂, hseen₂, ?_,
        List.rel_append hblocks₁ (.cons hblock hblocks₂)⟩
      rw [hslots₂, hslots, hslots₁]
      simp [Walk.enter]

end Lowering

/-- The walk of a graph leaves behind the blocks of its live nodes. -/
theorem Graph.Walks.exists_blocks {g : Graph} {found : List (String × Expr)} {w : Walk}
    {back : List (String × String)} (h : g.Walks found w back) :
    ∃ order blocks, g.LiveOrder order ∧ w.slots = blocks.flatten ∧
      List.Forall₂ Node.BoundBy order blocks := by
  unfold Walks at h
  unfold LiveOrder
  cases hsink : g.outputNode? with
  | none =>
    rw [hsink] at h
    obtain ⟨-, rfl, -⟩ := h
    exact ⟨[], [], rfl, rfl, .nil⟩
  | some sink =>
    rw [hsink] at h
    have hinputs : sink.kind.inputs = [("value", .scalar)] := by
      rw [kind_of_outputNode? hsink]
      rfl
    obtain ⟨order, seen, blocks, horder, -, hslots, hblocks⟩ := h.exists_postorder rfl
      (List.forall_mem_singleton.mpr (by simp [NodeKind.inputType?, hinputs])) (.init g)
    rw [← hinputs] at horder
    exact ⟨order, blocks, ⟨seen, horder⟩, hslots, hblocks⟩

end Heightfield
