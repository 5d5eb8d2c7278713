import Heightfield.Proofs.Graph.Disconnect

/-!
# Live nodes in depth-first post-order

The live nodes of a graph in the order in which a depth-first search from the sink leaves them: the
inputs of a node are followed in the order of its table, and a node comes behind everything that it
has led to. A node that has been met before, be it left or not, is passed by.

* `Graph.Postorder` goes through the inputs of one node, and `Graph.LiveOrder` through that of the
  sink.
* `Graph.Postorder.unique` says that there is no other such order.
* `Graph.LiveOrder.mem_iff` says that it lists the live nodes, and `Graph.LiveOrder.nodup` that it
  lists each once.
-/

namespace Heightfield
namespace Graph

/-- Following some inputs of a node, with the ids in `seen` already met, leaves nodes in an order,
and has met more ids then. -/
inductive Postorder (g : Graph) :
    Node → List String → List String → List Node → List String → Prop
  | nil (n : Node) (seen : List String) : Postorder g n [] seen [] seen
  /-- no node feeds the input -/
  | unfed {n input rest seen order seen'} (hfeeder : g.feeder? n input = none)
      (hrest : Postorder g n rest seen order seen') :
      Postorder g n (input :: rest) seen order seen'
  /-- the input is fed by a node that has been met -/
  | met {n input rest seen order seen' m out} (hfeeder : g.feeder? n input = some (m, out))
      (hmet : m.id ∈ seen) (hrest : Postorder g n rest seen order seen') :
      Postorder g n (input :: rest) seen order seen'
  /-- the input is fed by a node that is met now -/
  | new {n input rest seen inner seen₁ order seen' m out}
      (hfeeder : g.feeder? n input = some (m, out)) (hnew : m.id ∉ seen)
      (hinner : Postorder g m (m.kind.inputs.map (·.1)) (m.id :: seen) inner seen₁)
      (hrest : Postorder g n rest seen₁ order seen') :
      Postorder g n (input :: rest) seen (inner ++ m :: order) seen'

/-- The nodes are left in this order by the search from the sink, if there is one. -/
def LiveOrder (g : Graph) (order : List Node) : Prop :=
  match g.outputNode? with
  | none => order = []
  | some sink => ∃ seen, g.Postorder sink (sink.kind.inputs.map (·.1)) [] order seen

variable {g : Graph} {m n : Node} {row seen seen' : List String} {order : List Node}

/-! ## One order -/

/-- There is one order only. -/
theorem Postorder.unique (h : g.Postorder n row seen order seen') {order' : List Node}
    {seen'' : List String} (h' : g.Postorder n row seen order' seen'') :
    order = order' ∧ seen' = seen'' := by
  induction h generalizing order' seen'' with
  | nil =>
    cases h'
    exact ⟨rfl, rfl⟩
  | unfed hfeeder _ ih =>
    cases h' with
    | unfed _ hrest' => exact ih hrest'
    | met hfeeder' | new hfeeder' => rw [hfeeder] at hfeeder'; cases hfeeder'
  | met hfeeder hmet _ ih =>
    cases h' with
    | unfed hfeeder' => rw [hfeeder] at hfeeder'; cases hfeeder'
    | met _ _ hrest' => exact ih hrest'
    | new hfeeder' hnew' =>
      obtain ⟨rfl, rfl⟩ := Prod.mk.inj (Option.some.inj (hfeeder.symm.trans hfeeder'))
      exact absurd hmet hnew'
  | new hfeeder hnew _ _ ihinner ihrest =>
    cases h' with
    | unfed hfeeder' => rw [hfeeder] at hfeeder'; cases hfeeder'
    | met hfeeder' hmet' =>
      obtain ⟨rfl, rfl⟩ := Prod.mk.inj (Option.some.inj (hfeeder.symm.trans hfeeder'))
      exact absurd hmet' hnew
    | new hfeeder' _ hinner' hrest' =>
      obtain ⟨rfl, rfl⟩ := Prod.mk.inj (Option.some.inj (hfeeder.symm.trans hfeeder'))
      obtain ⟨rfl, rfl⟩ := ihinner hinner'
      obtain ⟨rfl, rfl⟩ := ihrest hrest'
      exact ⟨rfl, rfl⟩

theorem LiveOrder.unique (h : g.LiveOrder order) {order' : List Node} (h' : g.LiveOrder order') :
    order' = order := by
  unfold LiveOrder at h h'
  cases hsink : g.outputNode? with
  | none =>
    rw [hsink] at h h'
    exact h'.trans h.symm
  | some sink =>
    rw [hsink] at h h'
    obtain ⟨seen, h⟩ := h
    obtain ⟨seen', h'⟩ := h'
    exact (h'.unique h).1

/-! ## What is met -/

/-- The ids that are met on the way are those of the nodes that are left. -/
theorem Postorder.mem_seen_iff (h : g.Postorder n row seen order seen') (id : String) :
    id ∈ seen' ↔ id ∈ seen ∨ id ∈ order.map (·.id) := by
  induction h with
  | nil => simp
  | unfed _ _ ih | met _ _ _ ih => exact ih
  | new _ _ _ _ ihinner ihrest =>
    rw [ihrest, ihinner, List.map_append, List.map_cons, List.mem_append, List.mem_cons,
      List.mem_cons]
    simp only [or_assoc, or_left_comm]

/-- Each node is left once, and none that has been met before. -/
theorem Postorder.nodup (h : g.Postorder n row seen order seen') :
    (order.map (·.id)).Nodup ∧ ∀ id ∈ order.map (·.id), id ∉ seen := by
  induction h with
  | nil => simp
  | unfed _ _ ih | met _ _ _ ih => exact ih
  | @new _ _ _ seen inner seen₁ order _ m _ _ hnew hinner _ ihinner ihrest =>
    obtain ⟨hnodup, hfresh⟩ := ihinner
    obtain ⟨hnodup', hfresh'⟩ := ihrest
    have hseen₁ := hinner.mem_seen_iff
    rw [List.map_append, List.map_cons]
    refine ⟨List.nodup_append'.mpr ⟨hnodup, List.nodup_cons.mpr ⟨?_, hnodup'⟩, ?_⟩, ?_⟩
    · exact fun hmem => hfresh' _ hmem ((hseen₁ _).mpr (.inl List.mem_cons_self))
    · intro id hid hid'
      rcases List.mem_cons.mp hid' with rfl | hid'
      · exact hfresh _ hid List.mem_cons_self
      · exact hfresh' _ hid' ((hseen₁ _).mpr (.inr hid))
    · intro id hid hmem
      rcases List.mem_append.mp hid with hid | hid
      · exact hfresh id hid (List.mem_cons_of_mem _ hmem)
      rcases List.mem_cons.mp hid with rfl | hid
      · exact hnew hmem
      · exact hfresh' id hid ((hseen₁ _).mpr (.inl (List.mem_cons_of_mem _ hmem)))

/-- Only live nodes are left. -/
theorem Postorder.live (h : g.Postorder n row seen order seen') (hn : g.Reader n) :
    ∀ m ∈ order, g.Live m := by
  induction h with
  | nil => simp
  | unfed _ _ ih | met _ _ _ ih => exact ih hn
  | @new n input _ _ _ _ _ _ m out hfeeder _ _ _ ihinner ihrest =>
    have hm : g.Live m := hn.live ⟨input, out, hfeeder⟩
    rw [List.forall_mem_append, List.forall_mem_cons]
    exact ⟨ihinner (.inr hm), hm, ihrest hn⟩

/-! ## Everything live is met -/

/-- What feeds the inputs that are followed has been met, and so has what feeds the nodes that are
left. -/
theorem Postorder.closed (h : g.Postorder n row seen order seen') :
    (∀ input ∈ row, ∀ m out, g.feeder? n input = some (m, out) → m.id ∈ seen') ∧
      ∀ k ∈ order, ∀ m, g.Feeds m k → m.id ∈ seen' := by
  induction h with
  | nil => simp
  | unfed hfeeder _ ih =>
    refine ⟨List.forall_mem_cons.mpr ⟨fun m out hm => ?_, ih.1⟩, ih.2⟩
    rw [hfeeder] at hm
    cases hm
  | met hfeeder hmet hrest ih =>
    refine ⟨List.forall_mem_cons.mpr ⟨fun m out hm => ?_, ih.1⟩, ih.2⟩
    obtain ⟨rfl, -⟩ := Prod.mk.inj (Option.some.inj (hfeeder.symm.trans hm))
    exact (hrest.mem_seen_iff _).mpr (.inl hmet)
  | new hfeeder _ hinner hrest ihinner ihrest =>
    have hkept {id : String} (hid : id ∈ _) := (hrest.mem_seen_iff id).mpr (.inl hid)
    refine ⟨List.forall_mem_cons.mpr ⟨fun m out hm => ?_, ihrest.1⟩, ?_⟩
    · obtain ⟨rfl, -⟩ := Prod.mk.inj (Option.some.inj (hfeeder.symm.trans hm))
      exact hkept ((hinner.mem_seen_iff _).mpr (.inl List.mem_cons_self))
    · rw [List.forall_mem_append, List.forall_mem_cons]
      refine ⟨fun k hk m hm => hkept (ihinner.2 k hk m hm), fun m hm => ?_, ihrest.2⟩
      -- all inputs of the new node have been followed
      obtain ⟨input, out, hm⟩ := hm
      exact hkept (ihinner.1 input (mem_inputs_of_feeder? hm) m out hm)

/-- The order lists the live nodes. -/
theorem LiveOrder.mem_iff (h : g.LiveOrder order) : n ∈ order ↔ g.Live n := by
  unfold LiveOrder at h
  cases hsink : g.outputNode? with
  | none =>
    rw [hsink] at h
    refine iff_of_false (by simp [h]) ?_
    rintro ⟨sink, hsink', -⟩
    rw [hsink] at hsink'
    cases hsink'
  | some sink =>
    rw [hsink] at h
    obtain ⟨seen, h⟩ := h
    have hlive := h.live (.inl hsink)
    refine ⟨hlive n, ?_⟩
    have hmem {m : Node} (hm : g.Live m) (hid : m.id ∈ seen) : m ∈ order := by
      have hid' := ((h.mem_seen_iff _).mp hid).resolve_left List.not_mem_nil
      obtain ⟨k, hk, heq⟩ := List.mem_map.mp hid'
      exact (hlive k hk).eq_of_id_eq hm heq ▸ hk
    rintro ⟨sink', hsink', hpath⟩
    obtain rfl := Option.some.inj (hsink.symm.trans hsink')
    -- backwards from the sink, along a path to it
    induction hpath using Relation.TransGen.head_induction_on with
    | single hfeeds =>
      obtain ⟨input, out, hfeeder⟩ := hfeeds
      exact hmem ⟨sink, hsink, .single ⟨input, out, hfeeder⟩⟩
        (h.closed.1 input (mem_inputs_of_feeder? hfeeder) _ _ hfeeder)
    | head hfeeds hpath ih =>
      exact hmem ⟨sink, hsink, .head hfeeds hpath⟩ (h.closed.2 _ ih _ hfeeds)

/-- The order lists no id twice. -/
theorem LiveOrder.nodup (h : g.LiveOrder order) : (order.map (·.id)).Nodup := by
  unfold LiveOrder at h
  cases hsink : g.outputNode? with
  | none =>
    rw [hsink] at h
    simp [h]
  | some sink =>
    rw [hsink] at h
    obtain ⟨seen, h⟩ := h
    exact h.nodup.1

end Graph
end Heightfield
