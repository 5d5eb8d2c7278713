import Heightfield.Proofs.Graph.Disconnect
import Heightfield.Proofs.Program.Follow
import Heightfield.Proofs.Program.WellFormed

/-!
# Cycles

An input that is fed by a node in progress reads nothing: the node has no variables yet. So such an
input may as well be unconnected. Without these inputs no node that the output depends on depends on
itself, and the program stays the same.

* `Walk.InProgress` says that the nodes on the stack have been entered and have no variables.
* `Lowering.Follows.disconnect`: the walk is the same without the listed inputs.
* `Lowering.Follows.ended`: without them, going backwards ends from every node that is complete.
* `Graph.walks_disconnect` puts the two together for the walk of a graph.
-/

namespace Heightfield

/-! ## Nodes in progress -/

/-- The nodes on the stack have been entered and have no variables yet, and variables belong to
nodes that have been visited. -/
structure Walk.InProgress (stack : List String) (w : Walk) : Prop where
  visited : ∀ id ∈ stack, id ∈ w.visited
  unbound : ∀ slot ∈ w.slots, slot.node ∉ stack
  closed : ∀ slot ∈ w.slots, slot.node ∈ w.visited

namespace Lowering

variable {g : Graph} {stack : List String} {id : String} {row : List (String × SocketType)}
  {w w' : Walk} {found : List (String × Expr)} {back : List (String × String)}
  {cuts : List (String × String)} {n : Node}

theorem inProgress_init : ({} : Walk).InProgress [] := ⟨by simp, by simp, by simp⟩

/-- A node that is entered is in progress. -/
theorem inProgress_enter (h : w.InProgress stack) (hnew : id ∉ w.visited) :
    (w.enter id).InProgress (id :: stack) := by
  refine ⟨?_, ?_, ?_⟩
  · intro i hi
    rcases List.mem_cons.mp hi with rfl | hi
    · exact List.mem_cons_self
    · exact List.mem_cons_of_mem _ (h.visited i hi)
  · intro slot hslot hmem
    rcases List.mem_cons.mp hmem with heq | hmem
    · exact hnew (heq ▸ h.closed slot hslot)
    · exact h.unbound slot hslot hmem
  · intro slot hslot
    exact List.mem_cons_of_mem _ (h.closed slot hslot)

/-- A node that is complete is in progress no longer. -/
theorem inProgress_complete (h : w.InProgress (n.id :: stack)) (hnew : n.id ∉ stack)
    (found : List (String × Expr)) : (w.complete n found).InProgress stack := by
  obtain ⟨added, hslots, -, hnode⟩ :=
    Walk.slots_defineAll w n.id (n.kind.block w.slots.length fun socket => found.lookup socket)
  refine ⟨?_, ?_, ?_⟩
  · intro i hi
    rw [Walk.visited_complete]
    exact h.visited i (List.mem_cons_of_mem _ hi)
  · intro slot hslot hmem
    rw [Walk.complete, hslots] at hslot
    rcases List.mem_append.mp hslot with hslot | hslot
    · exact h.unbound slot hslot (List.mem_cons_of_mem _ hmem)
    · rw [hnode slot hslot] at hmem
      exact hnew hmem
  · intro slot hslot
    rw [Walk.visited_complete]
    rw [Walk.complete, hslots] at hslot
    rcases List.mem_append.mp hslot with hslot | hslot
    · exact h.closed slot hslot
    · rw [hnode slot hslot]
      exact h.visited n.id List.mem_cons_self

/-- After a row of inputs the same nodes are in progress as before. -/
theorem Follows.inProgress (h : Follows g stack id row w found w' back)
    (hw : w.InProgress stack) : w'.InProgress stack := by
  induction h with
  | nil => exact hw
  | unfed _ _ ih | back _ _ _ _ ih | known _ _ _ _ ih => exact ih hw
  | new _ hnew _ _ ihinner ihrest =>
    have hoff := fun hmem => hnew (hw.visited _ hmem)
    exact ihrest (inProgress_complete (ihinner (inProgress_enter hw hnew)) hoff _)

/-- Nothing is read from a node in progress. -/
theorem read?_of_mem_stack (hw : w.InProgress stack) (hn : n.id ∈ stack) (out : String)
    (t : SocketType) : read? w n out t = none := by
  have hbound (socket : String) : w.bound? n.id socket = none := by
    rw [Walk.bound?, List.findIdx?_eq_none_iff]
    intro slot hslot
    have hne : slot.node ≠ n.id := fun heq => hw.unbound slot hslot (heq ▸ hn)
    simp [hne]
  rw [read?, outlet?]
  cases n.kind.outputs.lookup out with
  | some t => simp [hbound]
  | none => cases n.kind.outputs.head? <;> simp [hbound]

/-! ## The walk without the listed inputs -/

/-- The first input of a row is not decided about by the rest of the row. -/
theorem not_decides_head {socket : String} {t : SocketType} {w₁ : Walk} (hid : id ∈ w.visited)
    (hgrows : w.Grows w₁) (hnodup : (((socket, t) :: row).map (·.1)).Nodup) :
    ¬ Decides id row w₁ w' (id, socket) := by
  rintro (⟨-, hmem⟩ | ⟨hout, -⟩)
  · exact (List.nodup_cons.mp hnodup).1 hmem
  · exact hout (hgrows.visited.subset hid)

/-- The walk stays as it is when the listed inputs are made unconnected, and no others that it
decides about. -/
theorem Follows.disconnect (h : Follows g stack id row w found w' back)
    (hw : w.InProgress stack) (hid : id ∈ w.visited) (hnodup : (row.map (·.1)).Nodup)
    (hcuts : ∀ input, Decides id row w w' input → (input ∈ cuts ↔ input ∈ back)) :
    Follows (g.disconnect cuts) stack id row w found w' [] := by
  induction h with
  | nil => exact .nil _ _ _
  | @unfed _ id socket t rest w _ w' back hsource hrest ih =>
    have hrest' := ih hw hid (List.nodup_cons.mp hnodup).2 fun input h =>
      hcuts input (h.of_rest (Walk.Grows.refl _))
    refine .unfed ?_ hrest'
    by_cases hmem : (id, socket) ∈ cuts
    · exact Graph.source?_disconnect_of_mem hmem
    · rw [Graph.source?_disconnect_of_not_mem hmem, hsource]
  | @back _ id socket t rest w _ w' back m out hsource hvisited hstack hrest ih =>
    have hhead := hcuts (id, socket) (.inl ⟨rfl, List.mem_cons_self⟩)
    -- the input is listed, and it has read nothing
    have hrest' := ih hw hid (List.nodup_cons.mp hnodup).2 fun input h => by
      rw [hcuts input (h.of_rest (Walk.Grows.refl _)), List.mem_cons]
      refine ⟨fun hmem => hmem.resolve_left ?_, .inr⟩
      rintro rfl
      exact not_decides_head hid (Walk.Grows.refl _) hnodup h
    rw [read?_of_mem_stack hw hstack]
    exact .unfed (Graph.source?_disconnect_of_mem (hhead.mpr List.mem_cons_self)) hrest'
  | @known _ id socket t rest w _ w' back m out hsource hvisited hstack hrest ih =>
    have hhead := hcuts (id, socket) (.inl ⟨rfl, List.mem_cons_self⟩)
    have hkept : (id, socket) ∉ cuts := fun hmem =>
      not_decides_head hid (Walk.Grows.refl _) hnodup (hrest.decides _ (hhead.mp hmem))
    have hrest' := ih hw hid (List.nodup_cons.mp hnodup).2 fun input h =>
      hcuts input (h.of_rest (Walk.Grows.refl _))
    rw [← Graph.source?_disconnect_of_not_mem hkept] at hsource
    exact .known hsource hvisited hstack hrest'
  | @new stack id socket t rest w inner w₁ _ w' back₁ back₂ m out hsource hnew hinner hrest
      ihinner ihrest =>
    have hgrows : w.Grows (w₁.complete m inner) := hinner.grows.complete hnew inner
    have hoff : m.id ∉ stack := fun hmem => hnew (hw.visited _ hmem)
    -- what the new node decides about and what the rest of the row decides about are apart
    have hapart (input : String × String)
        (h₁ : Decides m.id m.kind.operands (w.enter m.id) w₁ input)
        (h₂ : Decides id rest (w₁.complete m inner) w' input) : False := by
      obtain ⟨hout, hin⟩ := h₁.of_inner hnew hinner.grows
      rcases h₂ with ⟨heq, -⟩ | ⟨hout', -⟩
      · exact hout (heq ▸ hid)
      · rw [Walk.visited_complete] at hout'
        exact hout' hin
    have hinner' := ihinner (inProgress_enter hw hnew) List.mem_cons_self
      m.kind.nodup_operands fun input h => by
        obtain ⟨hout, hin⟩ := h.of_inner hnew hinner.grows
        rw [← Walk.visited_complete] at hin
        rw [hcuts input (.inr ⟨hout, hrest.grows.visited.subset hin⟩), List.mem_append]
        exact ⟨fun hmem => hmem.resolve_right fun h₂ => hapart input h (hrest.decides input h₂),
          .inl⟩
    have hrest' := ihrest
      (inProgress_complete (hinner.inProgress (inProgress_enter hw hnew)) hoff inner)
      (hgrows.visited.subset hid) (List.nodup_cons.mp hnodup).2 fun input h => by
        rw [hcuts input (h.of_rest hgrows), List.mem_append]
        exact ⟨fun hmem => hmem.resolve_left fun h₁ => hapart input (hinner.decides input h₁) h,
          .inr⟩
    -- the input itself is decided about by neither
    have hkept : (id, socket) ∉ cuts := by
      intro hmem
      rw [hcuts (id, socket) (.inl ⟨rfl, List.mem_cons_self⟩), List.mem_append] at hmem
      rcases hmem with hmem | hmem
      · exact ((hinner.decides _ hmem).of_inner hnew hinner.grows).1 hid
      · exact not_decides_head hid hgrows hnodup (hrest.decides _ hmem)
    rw [← Graph.source?_disconnect_of_not_mem hkept] at hsource
    exact .new hsource hnew hinner' hrest'

/-! ## Going backwards without the listed inputs -/

/-- Going backwards ends from every node that is complete. Nothing is asked of output nodes, which
nothing leaves. -/
def Ended (g : Graph) (stack : List String) (w : Walk) : Prop :=
  ∀ n, g.node? n.id = some n → n.kind ≠ .output → n.id ∈ w.visited → n.id ∉ stack → Acc g.Feeds n

/-- Going backwards ends from every node that feeds an input of the row. -/
def EndedRow (g : Graph) (id : String) (row : List (String × SocketType)) : Prop :=
  ∀ p ∈ row, ∀ m out, g.source? id p.1 = some (m, out) → m.kind ≠ .output → Acc g.Feeds m

/-- A node is as good as what feeds its inputs. -/
theorem acc_of_endedRow (hn : n.kind ≠ .output) (h : EndedRow g n.id n.kind.operands) :
    Acc g.Feeds n := by
  refine Acc.intro n fun m hm => ?_
  obtain ⟨input, out, hfeeder⟩ := hm
  obtain ⟨hinput, hsource, hkind⟩ := Graph.feeder?_eq_some hfeeder
  obtain ⟨t, ht⟩ := Option.isSome_iff_exists.mp hinput
  have hmem : (input, t) ∈ n.kind.operands := by
    rw [NodeKind.operands_of_ne hn]
    exact mem_of_lookup ht
  exact h (input, t) hmem m out hsource hkind

/-- Without the listed inputs, going backwards ends from the nodes that are complete after a row of
inputs and from those that feed the row, if it ends from those that were complete before. -/
theorem Follows.ended (h : Follows g stack id row w found w' back)
    (hcuts : ∀ input ∈ back, input ∈ cuts) (hw : Ended (g.disconnect cuts) stack w) :
    Ended (g.disconnect cuts) stack w' ∧ EndedRow (g.disconnect cuts) id row := by
  induction h with
  | nil => exact ⟨hw, by simp [EndedRow]⟩
  | unfed hsource _ ih =>
    obtain ⟨hw', hrow⟩ := ih hcuts hw
    refine ⟨hw', fun p hp m out hm hkind => ?_⟩
    rcases List.mem_cons.mp hp with rfl | hp
    · rw [Graph.source?_of_disconnect hm] at hsource
      cases hsource
    · exact hrow p hp m out hm hkind
  | back _ _ _ _ ih =>
    obtain ⟨hw', hrow⟩ := ih (fun input hinput => hcuts input (List.mem_cons_of_mem _ hinput)) hw
    refine ⟨hw', fun p hp m out hm hkind => ?_⟩
    rcases List.mem_cons.mp hp with rfl | hp
    · rw [Graph.source?_disconnect_of_mem (hcuts _ List.mem_cons_self)] at hm
      cases hm
    · exact hrow p hp m out hm hkind
  | known hsource hvisited hstack _ ih =>
    obtain ⟨hw', hrow⟩ := ih hcuts hw
    refine ⟨hw', fun p hp m out hm hkind => ?_⟩
    rcases List.mem_cons.mp hp with rfl | hp
    · rw [Graph.source?_of_disconnect hm] at hsource
      obtain ⟨rfl, rfl⟩ := Prod.mk.inj (Option.some.inj hsource)
      exact hw m (Graph.node?_source hm) hkind hvisited hstack
    · exact hrow p hp m out hm hkind
  | @new stack id socket t rest w inner w₁ _ w' back₁ back₂ n out hsource hnew hinner hrest
      ihinner ihrest =>
    have hentered : Ended (g.disconnect cuts) (n.id :: stack) (w.enter n.id) := by
      intro m hm hkind hvisited hstack
      obtain ⟨hne, hstack⟩ := not_or.mp (mt List.mem_cons.mpr hstack)
      exact hw m hm hkind ((List.mem_cons.mp hvisited).resolve_left hne) hstack
    obtain ⟨hw₁, hoperands⟩ :=
      ihinner (fun input hinput => hcuts input (List.mem_append_left _ hinput)) hentered
    -- the node is complete now: going backwards ends from what feeds it
    have hacc : n.kind ≠ .output → Acc (g.disconnect cuts).Feeds n := fun hkind =>
      acc_of_endedRow hkind hoperands
    have hcomplete : Ended (g.disconnect cuts) stack (w₁.complete n inner) := by
      intro m hm hkind hvisited hstack
      rw [Walk.visited_complete] at hvisited
      by_cases heq : m.id = n.id
      · have hn : g.node? n.id = some n := Graph.node?_source hsource
        rw [Graph.node?_disconnect, heq, hn] at hm
        obtain rfl := Option.some.inj hm
        exact hacc hkind
      · refine hw₁ m hm hkind hvisited fun hmem => ?_
        exact (List.mem_cons.mp hmem).elim heq hstack
    obtain ⟨hw', hrow⟩ :=
      ihrest (fun input hinput => hcuts input (List.mem_append_right _ hinput)) hcomplete
    refine ⟨hw', fun p hp m out hm hkind => ?_⟩
    rcases List.mem_cons.mp hp with rfl | hp
    · rw [Graph.source?_of_disconnect hm] at hsource
      obtain ⟨rfl, rfl⟩ := Prod.mk.inj (Option.some.inj hsource)
      exact hacc hkind
    · exact hrow p hp m out hm hkind

end Lowering

/-! ## The walk of a graph -/

namespace Graph

variable {g : Graph} {found : List (String × Expr)} {w : Walk} {back : List (String × String)}

/-- Without the inputs that its walk lists, a graph is acyclic. -/
theorem Walks.acyclic (h : g.Walks found w back) : (g.disconnect back).Acyclic := by
  refine Acyclic.of_acc fun sink m hsink hm => ?_
  rw [outputNode?_disconnect] at hsink
  rw [Walks, hsink] at h
  obtain ⟨-, hrow⟩ := h.ended (fun _ hinput => hinput)
    (by intro n _ _ hvisited; cases hvisited)
  obtain ⟨input, out, hfeeder⟩ := hm
  obtain ⟨hinput, hsource, hkind⟩ := feeder?_eq_some hfeeder
  have hvalue : input = "value" := by
    obtain ⟨t, ht⟩ := Option.isSome_iff_exists.mp hinput
    have hmem := mem_of_lookup ht
    rw [kind_of_outputNode? hsink] at hmem
    exact (Prod.mk.inj (List.mem_singleton.mp hmem)).1
  rw [hvalue] at hsource
  exact hrow _ List.mem_cons_self m out hsource hkind

/-- The walk of a graph stays as it is without the inputs that it lists. -/
theorem Walks.disconnect (h : g.Walks found w back) :
    (g.disconnect back).Walks found w [] := by
  unfold Walks at h ⊢
  rw [outputNode?_disconnect]
  cases hsink : g.outputNode? with
  | none =>
    rw [hsink] at h
    exact ⟨h.1, h.2.1, rfl⟩
  | some sink =>
    rw [hsink] at h
    cases h with
    | unfed hsource hrest =>
      cases hrest with
      | nil =>
        rw [← source?_disconnect_of_not_mem List.not_mem_nil] at hsource
        exact .unfed hsource (.nil _ _ _)
    | back _ hvisited => cases hvisited
    | known _ hvisited => cases hvisited
    | @new _ _ _ _ _ _ _ _ _ _ back₁ back₂ m out hsource hnew hinner hrest =>
      cases hrest with
      | nil =>
        have hkept : (sink.id, "value") ∉ back₁ ++ [] := by
          rw [List.append_nil]
          exact fun hmem => hinner.snd_ne_value Lowering.ne_value_of_mem_operands _ hmem rfl
        have hinner' : Lowering.Follows (g.disconnect (back₁ ++ [])) _ _ _ _ _ _ [] :=
          hinner.disconnect (Lowering.inProgress_enter Lowering.inProgress_init hnew)
            List.mem_cons_self m.kind.nodup_operands (by simp)
        rw [← source?_disconnect_of_not_mem hkept] at hsource
        exact .new hsource hnew hinner' (.nil _ _ _)

/-- **Cycles read nothing, and nothing else changes.** The walk of every graph ends, and the
program is what it leaves behind. The inputs that were fed by a node in progress may as well be
unconnected: without them the graph is acyclic, and its program is the same. -/
theorem walks_disconnect (g : Graph) :
    (∃ found w back, g.Walks found w back) ∧
    ∀ found w back, g.Walks found w back →
      (g.disconnect back).Acyclic ∧
      ∀ useWorldPos,
        lower g useWorldPos = w.program (g.resultOf found) useWorldPos ∧
        lower (g.disconnect back) useWorldPos = lower g useWorldPos := by
  refine ⟨g.exists_walks, fun found w back h => ⟨h.acyclic, fun useWorldPos => ?_⟩⟩
  refine ⟨lower_eq_program h useWorldPos, ?_⟩
  rw [lower_eq_program h useWorldPos, lower_eq_program h.disconnect useWorldPos]
  rfl

/-- Two operators, each an input of the other; the first one is read twice. -/
def knot : Graph where
  nodes := [⟨"p", .math .add 1, [], 0, 0⟩, ⟨"q", .math .add 1, [], 0, 0⟩, ⟨"o", .output, [], 0, 0⟩]
  connections := [.between "q" "value" "p" "a", .between "p" "value" "q" "a",
    .between "q" "value" "p" "b", .between "p" "value" "o" "value"]

theorem walks_disconnect_knot : ∃ found w,
    knot.Walks found w [("q", "a")] ∧ (knot.disconnect [("q", "a")]).Acyclic ∧
      lower (knot.disconnect [("q", "a")]) false = lower knot false := by
  obtain ⟨-, h⟩ := walks_disconnect knot
  have hwalks : ∃ found w, Lowering.Follows knot [] "o" [("value", .scalar)] {} found w
      (([("q", "a")] ++ []) ++ []) := by
    refine ⟨_, _, .new rfl ?_ (.new rfl ?_ (.back rfl ?_ ?_ (.unfed rfl (.nil _ _ _)))
      (.known rfl ?_ ?_ (.nil _ _ _))) (.nil _ _ _)⟩ <;> decide
  obtain ⟨found, w, hwalks⟩ := hwalks
  obtain ⟨hacyclic, hlower⟩ := h found w [("q", "a")] hwalks
  exact ⟨found, w, hwalks, hacyclic, (hlower false).2⟩

end Graph
end Heightfield
