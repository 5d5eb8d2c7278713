import Heightfield.Proofs.Graph.PassedOver
import Heightfield.Proofs.Program.Block

/-!
# What a program ends with

A program ends with a value, or with one of two placeholders: there is no output node, or nothing
usable feeds it. The diagnostics know of the first case and of an output that has no connection.
They do not know of a connection that leaves an output node: it feeds the sink, for all they can
tell, but nothing comes of it.

* `Lowering.isSome_outlet?_complete` says that something leaves every node but an output node.
* `result_lower_eq_errorColor_iff`, `result_lower_eq_zero_iff` and `exists_value_iff` say which
  graphs have which result.
* `result_lower_diagnosed` is the main result, and `result_lower_selfFed` the connection that the
  diagnostics miss.
-/

namespace Heightfield

/-! ## What leaves a node -/

theorem NodeKind.outputs_subset_bindings (k : NodeKind) : k.outputs ⊆ k.bindings := by
  cases k with
  | separateXyz => exact List.subset_cons_self _ _
  | _ => exact List.Subset.refl _

/-- A node that has been completed has a variable for each socket that it binds. -/
theorem Walk.isSome_bound?_complete (w : Walk) (n : Node) (found : List (String × Expr))
    {p : String × SocketType} (hp : p ∈ n.kind.bindings) :
    ((w.complete n found).bound? n.id p.1).isSome = true := by
  obtain ⟨block, hslots, hblock⟩ := w.exists_block n found
  obtain ⟨slot, hslot, rfl⟩ := List.mem_map.mp (hblock.perm_bindings.mem_iff.mpr hp)
  rw [bound?, hslots, List.findIdx?_isSome, List.any_eq_true]
  exact ⟨slot, List.mem_append_right _ hslot, by simp [hblock.owner slot hslot]⟩

namespace Lowering

variable {g : Graph} {n : Node} {w : Walk} {socket : String}

/-- Something leaves every socket of a node that has been completed, if the node is no output
node. -/
theorem isSome_outlet?_complete (w : Walk) (found : List (String × Expr)) (hn : n.kind ≠ .output)
    (socket : String) : (outlet? (w.complete n found) n socket).isSome = true := by
  have hbound (p : String × SocketType) (hp : p ∈ n.kind.outputs) :=
    w.isSome_bound?_complete n found (n.kind.outputs_subset_bindings hp)
  unfold outlet?
  split
  next t ht => simpa using hbound (socket, t) (mem_of_lookup ht)
  next =>
    split
    next hhead => cases hkind : n.kind <;> simp_all [NodeKind.outputs]
    next primary t hhead => simpa using hbound (primary, t) (List.mem_of_head? hhead)

/-- Nothing leaves an output node. -/
theorem outlet?_of_output (w : Walk) (hn : n.kind = .output) (socket : String) :
    outlet? w n socket = none := by
  rw [outlet?, hn]
  rfl

/-- What is listed is found under its name. -/
@[simp] theorem lookup_listed (e? : Option Expr) (found : List (String × Expr)) :
    (listed socket e? found).lookup socket = e?.or (found.lookup socket) := by
  cases e? with
  | none => rfl
  | some e => exact List.lookup_cons_self

/-- The walk from the sink reads something if and only if a node other than an output node feeds
the sink. -/
theorem Follows.isSome_lookup {id : String} {t : SocketType} {found : List (String × Expr)}
    {w : Walk} {back : List (String × String)}
    (h : Follows g [] id [("value", t)] {} found w back) :
    (found.lookup "value").isSome = true ↔
      ∃ src ∈ g.source? id "value", src.1.kind ≠ .output := by
  cases h with
  | unfed hsource hrest =>
    cases hrest
    simp [hsource]
  | back _ hvisited | known _ hvisited => exact absurd hvisited List.not_mem_nil
  | @new _ _ _ _ _ _ _ _ _ _ _ _ m out hsource _ _ hrest =>
    cases hrest
    rw [hsource, lookup_listed, List.lookup_nil, Option.or_none, read?, Option.isSome_map]
    by_cases hm : m.kind = .output
    · simp [outlet?_of_output _ hm, hm]
    · simp [isSome_outlet?_complete _ _ hm, hm]

end Lowering

/-! ## Results -/

namespace Graph

variable {g : Graph} {sink : Node}

/-- A connection leads into the sink from an output node, which nothing leaves. -/
def FedByOutput (g : Graph) : Prop :=
  ∃ sink ∈ g.outputNode?, ∃ src ∈ g.source? sink.id "value", src.1.kind = .output

instance (g : Graph) : Decidable g.FedByOutput :=
  inferInstanceAs (Decidable
    (∃ sink ∈ g.outputNode?, ∃ src ∈ g.source? sink.id "value", src.1.kind = .output))

/-- A connection into a socket has a node at its other end. -/
theorem isSome_source?_iff {id socket : String} :
    (g.source? id socket).isSome = true ↔ (g.incoming? id socket).isSome = true := by
  unfold source?
  cases hc : g.incoming? id socket with
  | none => simp
  | some c =>
    have hends := List.find?_some hc
    simp only [isResolvable, Bool.and_eq_true] at hends
    simpa using hends.2.1

end Graph

variable {g : Graph}

/-- The program of a graph ends with the error color if and only if the graph has no output. -/
theorem result_lower_eq_errorColor_iff (g : Graph) (useWorldPos : Bool) :
    (lower g useWorldPos).result = .errorColor ↔ g.outputNode? = none := by
  obtain ⟨found, w, back, h⟩ := g.exists_walks
  rw [lower_eq_program h]
  show g.resultOf found = .errorColor ↔ _
  unfold Graph.resultOf
  split <;> simp_all

/-- The program of a graph ends with a value if and only if a node other than an output node feeds
the sink. -/
theorem exists_value_iff (g : Graph) (useWorldPos : Bool) :
    (∃ e, (lower g useWorldPos).result = .value e) ↔
      ∃ sink ∈ g.outputNode?, ∃ src ∈ g.source? sink.id "value", src.1.kind ≠ .output := by
  obtain ⟨found, w, back, h⟩ := g.exists_walks
  rw [lower_eq_program h]
  show (∃ e, g.resultOf found = .value e) ↔ _
  unfold Graph.Walks at h
  unfold Graph.resultOf
  cases hsink : g.outputNode? with
  | none => simp
  | some sink =>
    rw [hsink] at h
    have hfed := h.isSome_lookup
    cases hfound : found.lookup "value" <;> simp_all

/-- The program of a graph ends with zero if and only if the graph has an output that nothing or
only an output node feeds. -/
theorem result_lower_eq_zero_iff (g : Graph) (useWorldPos : Bool) :
    (lower g useWorldPos).result = .zero ↔
      (∃ sink ∈ g.outputNode?, g.incoming? sink.id "value" = none) ∨ g.FedByOutput := by
  have hrest : (lower g useWorldPos).result = .zero ↔
      (lower g useWorldPos).result ≠ .errorColor ∧
        ¬ ∃ e, (lower g useWorldPos).result = .value e := by
    cases (lower g useWorldPos).result <;> simp
  rw [hrest, Ne, result_lower_eq_errorColor_iff, exists_value_iff, Graph.FedByOutput]
  cases hsink : g.outputNode? with
  | none => simp
  | some sink =>
    have hfed : (g.source? sink.id "value").isSome = true ↔
        (g.incoming? sink.id "value").isSome = true := Graph.isSome_source?_iff
    cases hsource : g.source? sink.id "value" with
    | none =>
      have hnone : g.incoming? sink.id "value" = none := by simpa [hsource] using hfed
      simp [hsource, hnone]
    | some src =>
      have hsome : g.incoming? sink.id "value" ≠ none :=
        Option.isSome_iff_ne_none.mp (hfed.mp (by rw [hsource]; rfl))
      obtain ⟨m, out⟩ := src
      simp [hsource, hsome]

/-! ## Diagnostics -/

namespace Graph

variable {id : String}

theorem missingOutput_mem_diagnostics_iff (h : g.Made) :
    .missingOutput ∈ g.diagnostics ↔ g.outputNode? = none := by
  have hcount (ids : List String) : .missingOutput ∈ outputCount ids ↔ ids = [] := by
    match ids with
    | [] | [_] | _ :: _ :: _ => simp [outputCount]
  rw [mem_diagnostics_iff h.topic]
  show _ ∈ outputCount _ ↔ _
  rw [hcount, List.map_eq_nil_iff, List.filter_eq_nil_iff, outputNode?, List.find?_eq_none]

/-- The output that is said to be unconnected is the sink, and no connection leads into it. -/
theorem unconnectedOutput_mem_diagnostics_iff (h : g.Made) :
    .unconnectedOutput id ∈ g.diagnostics ↔
      ∃ sink ∈ g.outputNode?, sink.id = id ∧ g.incoming? sink.id "value" = none := by
  rw [mem_diagnostics_iff h.topic]
  show _ ∈ g.said .sink ↔ _
  rw [said]
  cases g.outputNode? with
  | none => simp
  | some sink =>
    have hfed := g.mem_fed_iff (sink.id, "value")
    rw [← List.contains_iff_mem] at hfed
    dsimp only at hfed ⊢
    split
    next h =>
      rw [hfed, Option.isSome_iff_ne_none] at h
      simp [h]
    next h =>
      rw [hfed, Option.not_isSome_iff_eq_none] at h
      simp [h, eq_comm]

end Graph

/-- **The diagnostics know what a program shows.** The program of a graph, however it came about,
ends with the error color if and only if the diagnostics miss an output, with zero if and only if
they find the output unconnected or it is connected to an output node, and with a value in all other
cases. So a graph without diagnostics has a value, unless its output is connected to an output
node. -/
theorem result_lower_diagnosed (h : g.Made) (useWorldPos : Bool) :
    ((lower g useWorldPos).result = .errorColor ↔ .missingOutput ∈ g.diagnostics) ∧
    ((lower g useWorldPos).result = .zero ↔
      (∃ id, .unconnectedOutput id ∈ g.diagnostics) ∨ g.FedByOutput) ∧
    ((∃ e, (lower g useWorldPos).result = .value e) ↔
      .missingOutput ∉ g.diagnostics ∧ (∀ id, .unconnectedOutput id ∉ g.diagnostics) ∧
        ¬ g.FedByOutput) ∧
    (g.diagnostics = [] → ¬ g.FedByOutput →
      ∃ e, (lower g useWorldPos).result = .value e) := by
  have hunconnected : (∃ id, .unconnectedOutput id ∈ g.diagnostics) ↔
      ∃ sink ∈ g.outputNode?, g.incoming? sink.id "value" = none := by
    simp [Graph.unconnectedOutput_mem_diagnostics_iff h]
  have herror : (lower g useWorldPos).result = .errorColor ↔ .missingOutput ∈ g.diagnostics := by
    rw [result_lower_eq_errorColor_iff, Graph.missingOutput_mem_diagnostics_iff h]
  have hzero : (lower g useWorldPos).result = .zero ↔
      (∃ id, .unconnectedOutput id ∈ g.diagnostics) ∨ g.FedByOutput := by
    rw [result_lower_eq_zero_iff, hunconnected]
  have hvalue : (∃ e, (lower g useWorldPos).result = .value e) ↔
      .missingOutput ∉ g.diagnostics ∧ (∀ id, .unconnectedOutput id ∉ g.diagnostics) ∧
        ¬ g.FedByOutput := by
    rw [← not_exists, ← not_or, ← hzero, ← herror]
    cases (lower g useWorldPos).result <;> simp
  refine ⟨herror, hzero, hvalue, fun hnone hfed => hvalue.mpr ?_⟩
  simp [hnone, hfed]

/-- An output with nothing else. -/
def Graph.lone : Graph where
  nodes := [⟨"o", .output, [], 0, 0⟩]

/-- An output that is connected to itself. -/
def Graph.selfFed : Graph :=
  { Graph.lone with connections := [.between "o" "value" "o" "value"] }

theorem result_lower_diagnosed_lone : Graph.lone.Made ∧
    Graph.lone.diagnostics = [.unconnectedOutput "o"] ∧ (lower .lone true).result = .zero ∧
    Graph.crowded.withoutPassedOver.Made ∧ Graph.crowded.withoutPassedOver.diagnostics = [] ∧
    ∃ e, (lower Graph.crowded.withoutPassedOver true).result = .value e := by
  have hlone : Graph.lone.Made := .parts _ _
  have hcrowded : Graph.crowded.withoutPassedOver.Made := .edited (.parts _ _) _ _
  have hone : Graph.lone.diagnostics = [.unconnectedOutput "o"] := by decide
  have hnone : Graph.crowded.withoutPassedOver.diagnostics = [] := by decide
  obtain ⟨-, hzero, -⟩ := result_lower_diagnosed hlone true
  obtain ⟨-, -, -, hvalue⟩ := result_lower_diagnosed hcrowded true
  exact ⟨hlone, hone, hzero.mpr (.inl ⟨"o", by simp [hone]⟩), hcrowded, hnone,
    hvalue hnone (by decide)⟩

/-- Nothing is said about an output that is connected to itself, but it shows a placeholder. -/
theorem result_lower_selfFed : Graph.selfFed.Made ∧ Graph.selfFed.diagnostics = [] ∧
    ∀ useWorldPos, (lower .selfFed useWorldPos).result = .zero :=
  ⟨.parts _ _, by decide, by decide⟩

end Heightfield
