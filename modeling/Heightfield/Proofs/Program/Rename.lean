import Heightfield.Proofs.Graph.Disconnect
import Heightfield.Proofs.Program.Follow
import Heightfield.Proofs.Program.Soundness
import Mathlib.Data.List.Find
import Mathlib.Data.Set.Function

/-!
# Renaming nodes

The ids of nodes tell the nodes apart, and the variables are named after them; nothing else is made
of them. So if the nodes of a graph get other ids, which are told apart as the old ones are, the
program is the same but for the names of its variables.

* `Graph.rename` gives other ids to nodes, and to the ends of connections alike.
* `Graph.source?_rename` says that the same nodes feed the same inputs.
* `Walk.Renamed` compares two walks by what they have besides names, and `Lowering.Follows.rename`
  follows the connections in both graphs at once.
* `lower_rename` is the result for programs.
-/

namespace Heightfield

/-- The node under another id. -/
def Node.rename (r : String → String) (n : Node) : Node :=
  { n with id := r n.id }

@[simp] theorem Node.id_rename (r : String → String) (n : Node) : (n.rename r).id = r n.id := rfl

@[simp] theorem Node.kind_rename (r : String → String) (n : Node) :
    (n.rename r).kind = n.kind := rfl

/-- The connection between the nodes under their other ids. -/
def Connection.rename (r : String → String) (c : Connection) : Connection :=
  { c with fromNode := r c.fromNode, toNode := r c.toNode }

namespace Graph

variable {g : Graph} {r : String → String} {id socket : String} {n : Node} {c : Connection}

/-- The graph with other ids for its nodes, which the connections follow. -/
def rename (r : String → String) (g : Graph) : Graph :=
  { g with
    nodes := g.nodes.map (Node.rename r)
    connections := g.connections.map (Connection.rename r) }

/-- The id occurs in the graph: it is that of a node, or a connection leads from it or to it. -/
def Mentions (g : Graph) (id : String) : Prop :=
  (∃ n ∈ g.nodes, n.id = id) ∨ ∃ c ∈ g.connections, c.fromNode = id ∨ c.toNode = id

theorem mentions_of_mem (h : n ∈ g.nodes) : g.Mentions n.id := .inl ⟨n, h, rfl⟩

theorem mentions_fromNode (h : c ∈ g.connections) : g.Mentions c.fromNode :=
  .inr ⟨c, h, .inl rfl⟩

theorem mentions_toNode (h : c ∈ g.connections) : g.Mentions c.toNode := .inr ⟨c, h, .inr rfl⟩

/-- The renaming tells the ids apart that occur in the graph. -/
abbrev ToldApart (g : Graph) (r : String → String) : Prop := Set.InjOn r {id | g.Mentions id}

/-! ## Look-ups -/

theorem outputNode?_rename (g : Graph) (r : String → String) :
    (g.rename r).outputNode? = g.outputNode?.map (Node.rename r) := by
  rw [outputNode?, rename, List.find?_map]
  rfl

/-- An id that occurs stands for the same node under its other name. -/
theorem node?_rename (hr : g.ToldApart r) (hid : g.Mentions id) :
    (g.rename r).node? (r id) = (g.node? id).map (Node.rename r) := by
  rw [node?, rename, List.find?_map, node?]
  congr 1
  refine List.find?_congr fun n hn => ?_
  rw [Function.comp_apply, Node.id_rename, decide_eq_decide]
  exact hr.eq_iff (mentions_of_mem hn) hid

theorem isResolvable_rename (hr : g.ToldApart r) (hc : c ∈ g.connections) :
    (g.rename r).isResolvable (c.rename r) = g.isResolvable c := by
  rw [isResolvable, Connection.rename, node?_rename hr (mentions_fromNode hc),
    node?_rename hr (mentions_toNode hc), Option.isSome_map, Option.isSome_map, isResolvable]

theorem incoming?_rename (hr : g.ToldApart r) (hid : g.Mentions id) :
    (g.rename r).incoming? (r id) socket = (g.incoming? id socket).map (Connection.rename r) := by
  rw [incoming?, incoming?]
  have hconnections : (g.rename r).connections = g.connections.map (Connection.rename r) := rfl
  rw [hconnections, List.find?_map]
  congr 1
  refine List.find?_congr fun c hc => ?_
  have hto : decide (r c.toNode = r id) = decide (c.toNode = id) :=
    decide_eq_decide.mpr (hr.eq_iff (mentions_toNode hc) hid)
  rw [Function.comp_apply, isResolvable_rename hr hc, Connection.rename, hto]

/-- The same node feeds an input. -/
theorem source?_rename (hr : g.ToldApart r) (hid : g.Mentions id) :
    (g.rename r).source? (r id) socket =
      (g.source? id socket).map fun p => (p.1.rename r, p.2) := by
  rw [source?, source?, incoming?_rename hr hid]
  cases hc : g.incoming? id socket with
  | none => rfl
  | some c =>
    have hmem := List.mem_of_find?_eq_some hc
    rw [Option.map_some, Option.bind_some, Option.bind_some, Connection.rename,
      node?_rename hr (mentions_fromNode hmem), Option.map_map, Option.map_map]
    rfl

/-- What feeds an input occurs in the graph. -/
theorem mentions_source? {m : Node} {out : String} (h : g.source? id socket = some (m, out)) :
    g.Mentions m.id :=
  mentions_of_mem (List.mem_of_find?_eq_some (node?_source h))

end Graph

/-! ## Walks -/

/-- What a slot binds and for which node, under another id, without its name. -/
def Slot.entry (r : String → String) (slot : Slot) : String × Definition :=
  (r slot.node, slot.definition)

/-- The entries of slots of one node are made of their definitions. -/
theorem Slot.entries_of_owner {block : List Slot} {id : String} (r : String → String)
    (h : ∀ slot ∈ block, slot.node = id) :
    block.map (Slot.entry r) = (block.map Slot.definition).map (r id, ·) := by
  rw [List.map_map]
  exact List.map_congr_left fun slot hslot => by
    rw [Slot.entry, h slot hslot]
    rfl

namespace Walk

variable {g : Graph} {r : String → String} {w v : Walk} {n : Node}

/-- One walk is the other under other ids, whatever the names of its variables are. -/
structure Renamed (g : Graph) (r : String → String) (w v : Walk) : Prop where
  visited : v.visited = w.visited.map r
  entries : v.slots.map (Slot.entry id) = w.slots.map (Slot.entry r)
  mentioned : ∀ id ∈ w.visited, g.Mentions id
  owners : ∀ slot ∈ w.slots, g.Mentions slot.node

theorem Renamed.init (g : Graph) (r : String → String) : Renamed g r {} {} :=
  ⟨rfl, rfl, by simp, by simp⟩

/-- Ids are visited in both walks or in none. -/
theorem Renamed.mem_visited_iff (h : Renamed g r w v) (hr : g.ToldApart r) {id : String}
    (hid : g.Mentions id) : r id ∈ v.visited ↔ id ∈ w.visited := by
  rw [h.visited, List.mem_map]
  constructor
  · rintro ⟨id', hmem, heq⟩
    exact (hr (h.mentioned id' hmem) hid heq) ▸ hmem
  · exact fun hmem => ⟨id, hmem, rfl⟩

theorem Renamed.length_eq (h : Renamed g r w v) : v.slots.length = w.slots.length := by
  simpa using congrArg List.length h.entries

/-- A socket has the same variable in both walks. -/
theorem Renamed.bound?_eq (h : Renamed g r w v) (hr : g.ToldApart r) {node : String}
    (hnode : g.Mentions node) (socket : String) :
    v.bound? (r node) socket = w.bound? node socket := by
  have hentries (u : Walk) (node : String) : u.bound? node socket =
      (u.slots.map (Slot.entry id)).findIdx? fun e => e.1 = node && e.2.socket = socket := by
    rw [List.findIdx?_map]
    rfl
  rw [hentries, h.entries, List.findIdx?_map, bound?]
  refine findIdx?_congr fun slot hslot => ?_
  have hsame : decide (r slot.node = r node) = decide (slot.node = node) :=
    decide_eq_decide.mpr (hr.eq_iff (h.owners slot hslot) hnode)
  rw [Function.comp_apply, Slot.entry, hsame]
  rfl

/-- A node is entered in both walks. -/
theorem Renamed.enter (h : Renamed g r w v) {id : String} (hid : g.Mentions id) :
    Renamed g r (w.enter id) (v.enter (r id)) := by
  refine ⟨?_, h.entries, ?_, h.owners⟩
  · rw [visited_enter, visited_enter, h.visited, List.map_cons]
  · exact List.forall_mem_cons.mpr ⟨hid, h.mentioned⟩

/-- A node is completed in both walks. -/
theorem Renamed.complete (h : Renamed g r w v) (hn : g.Mentions n.id)
    (found : List (String × Expr)) :
    Renamed g r (w.complete n found) (v.complete (n.rename r) found) := by
  let block := n.kind.block w.slots.length fun socket => found.lookup socket
  obtain ⟨added, hslots, hdefs, howner⟩ := slots_defineAll w n.id block
  obtain ⟨added', hslots', hdefs', howner'⟩ := slots_defineAll v (r n.id) block
  have hcomplete : v.complete (n.rename r) found = v.defineAll (r n.id) block := by
    rw [Walk.complete, h.length_eq]
    rfl
  refine ⟨?_, ?_, ?_, ?_⟩
  · rw [visited_complete, visited_complete, h.visited]
  · -- both blocks are made of the same definitions
    have hnew : added'.map (Slot.entry id) = added.map (Slot.entry r) := by
      rw [Slot.entries_of_owner id howner', Slot.entries_of_owner r howner, hdefs, hdefs']
      rfl
    rw [hcomplete, hslots', Walk.complete, hslots, List.map_append, List.map_append, h.entries,
      hnew]
  · rw [visited_complete]
    exact h.mentioned
  · rw [Walk.complete, hslots, List.forall_mem_append]
    exact ⟨h.owners, fun slot hslot => (howner slot hslot).symm ▸ hn⟩

end Walk

namespace Lowering

variable {g : Graph} {r : String → String} {w w' v : Walk}

/-- The same is read from a node in both walks. -/
theorem read?_rename (h : w.Renamed g r v) (hr : g.ToldApart r) {m : Node} (hm : g.Mentions m.id)
    (out : String) (t : SocketType) : read? v (m.rename r) out t = read? w m out t := by
  simp only [read?, outlet?, Node.id_rename, Node.kind_rename, h.bound?_eq hr hm]

/-- A row of inputs is read in the same way under other ids: the same expressions are found. -/
theorem Follows.rename {stack : List String} {id : String} {row : List (String × SocketType)}
    {found : List (String × Expr)} {back : List (String × String)}
    (h : Follows g stack id row w found w' back) (hr : g.ToldApart r) (hid : g.Mentions id)
    (hstack : ∀ id ∈ stack, g.Mentions id) (hwalks : w.Renamed g r v) :
    ∃ v', w'.Renamed g r v' ∧ Follows (g.rename r) (stack.map r) (r id) row v found v'
      (back.map fun input => (r input.1, input.2)) := by
  induction h generalizing v with
  | nil => exact ⟨v, hwalks, .nil _ _ _⟩
  | unfed hsource _ ih =>
    obtain ⟨v', hwalks', hrest⟩ := ih hid hstack hwalks
    have hsource' := (Graph.source?_rename hr hid).trans (congrArg _ hsource)
    exact ⟨v', hwalks', .unfed hsource' hrest⟩
  | back hsource hvisited hmem _ ih =>
    obtain ⟨v', hwalks', hrest⟩ := ih hid hstack hwalks
    have hm := Graph.mentions_source? hsource
    have hsource' := (Graph.source?_rename hr hid).trans (congrArg _ hsource)
    rw [← read?_rename hwalks hr hm]
    exact ⟨v', hwalks', .back hsource' ((hwalks.mem_visited_iff hr hm).mpr hvisited)
      (List.mem_map_of_mem hmem) hrest⟩
  | known hsource hvisited hmem _ ih =>
    obtain ⟨v', hwalks', hrest⟩ := ih hid hstack hwalks
    have hm := Graph.mentions_source? hsource
    have hsource' := (Graph.source?_rename hr hid).trans (congrArg _ hsource)
    rw [← read?_rename hwalks hr hm]
    refine ⟨v', hwalks', .known hsource' ((hwalks.mem_visited_iff hr hm).mpr hvisited) ?_ hrest⟩
    -- another id on the stack would have to be told from this one
    rintro hmem'
    obtain ⟨id, hid', heq⟩ := List.mem_map.mp hmem'
    exact hmem (hr (hstack id hid') hm heq ▸ hid')
  | new hsource hnew hinner hrest ihinner ihrest =>
    have hm := Graph.mentions_source? hsource
    have hsource' := (Graph.source?_rename hr hid).trans (congrArg _ hsource)
    obtain ⟨v₁, hwalks₁, hinner'⟩ :=
      ihinner hm (List.forall_mem_cons.mpr ⟨hm, hstack⟩) (hwalks.enter hm)
    obtain ⟨v', hwalks', hrest'⟩ := ihrest hid hstack (hwalks₁.complete hm _)
    rw [← read?_rename (hwalks₁.complete hm _) hr hm, List.map_append]
    exact ⟨v', hwalks', .new hsource' (mt (hwalks.mem_visited_iff hr hm).mp hnew) hinner' hrest'⟩

end Lowering

/-! ## Programs -/

/-- The statements are made of the expressions of the slots. -/
theorem Slot.statements_congr {ss ss' : List Slot} (h : ss.map Slot.expr = ss'.map Slot.expr)
    (i : Nat) : Slot.statements i ss = Slot.statements i ss' := by
  refine List.ext_getElem? fun k => ?_
  have hk := congrArg (·[k]?) h
  simp only [List.getElem?_map] at hk
  rw [getElem?_statements, getElem?_statements]
  cases hs : ss[k]? <;> cases hs' : ss'[k]? <;> simp_all

variable {g : Graph} {r : String → String}

/-- The walk of a graph under other ids is the walk of the graph under other ids, and the sink reads
the same. -/
theorem Graph.Walks.rename {found : List (String × Expr)} {w : Walk}
    {back : List (String × String)} (h : g.Walks found w back) (hr : g.ToldApart r) :
    ∃ v back', w.Renamed g r v ∧ (g.rename r).Walks found v back' := by
  unfold Walks at h ⊢
  rw [outputNode?_rename]
  cases hsink : g.outputNode? with
  | none =>
    rw [hsink] at h
    obtain ⟨rfl, rfl, -⟩ := h
    exact ⟨{}, [], .init g r, rfl, rfl, rfl⟩
  | some sink =>
    rw [hsink] at h
    have hmem := mentions_of_mem (List.mem_of_find?_eq_some hsink)
    obtain ⟨v, hwalks, hfollows⟩ := h.rename hr hmem (by simp) (.init g r)
    exact ⟨v, _, hwalks, hfollows⟩

/-- A graph under other ids has the same program, up to the names of its variables. -/
theorem lower_rename (hr : g.ToldApart r) (useWorldPos : Bool) :
    (lower (g.rename r) useWorldPos).vars.map (·.type) =
        (lower g useWorldPos).vars.map (·.type) ∧
      (lower (g.rename r) useWorldPos).stmts = (lower g useWorldPos).stmts ∧
      (lower (g.rename r) useWorldPos).result = (lower g useWorldPos).result ∧
      (lower (g.rename r) useWorldPos).useWorldPos = (lower g useWorldPos).useWorldPos := by
  obtain ⟨found, w, back, h⟩ := g.exists_walks
  obtain ⟨v, back', hwalks, h'⟩ := h.rename hr
  have hpart {β : Type} (f : Definition → β) : v.slots.map (fun slot => f slot.definition) =
      w.slots.map (fun slot => f slot.definition) := by
    have hentries := congrArg (List.map fun e => f e.2) hwalks.entries
    rwa [List.map_map, List.map_map] at hentries
  rw [lower_eq_program h, lower_eq_program h']
  refine ⟨?_, Slot.statements_congr (hpart Definition.expr) 0, ?_, rfl⟩
  · rw [Walk.vars_program, Walk.vars_program, List.map_map, List.map_map]
    exact hpart Definition.type
  · show (g.rename r).resultOf found = g.resultOf found
    rw [Graph.resultOf, Graph.resultOf, Graph.outputNode?_rename]
    cases g.outputNode? <;> cases found.lookup "value" <;> rfl

end Heightfield
