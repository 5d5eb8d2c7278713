import Heightfield.Graph.Record

/-!
# What diagnostics are about

The diagnostics of a graph come in five parts, each about a topic of its own: what loading found,
ids that occur again, the number of outputs, connections, and what feeds the output. So a diagnostic
is in the list if and only if it is in the part of its topic.

* `Diagnostic.topic` is the topic of a diagnostic, and `Graph.said` what is said about a topic.
* `NodeRecord.topic_load` says that loading keeps to its own topic.
* `Graph.filter_topic` and `Graph.mem_diagnostics_iff` find the parts in the list.
-/

namespace Heightfield

/-- What a diagnostic is about. -/
inductive Topic where
  | loading | ids | outputs | connections | sink
  deriving DecidableEq, Repr

/-- The topic of a diagnostic. -/
def Diagnostic.topic : Diagnostic → Topic
  | .unknownNodeType .. => .loading
  | .unknownVariant .. => .loading
  | .duplicateNodeId _ => .ids
  | .missingOutput => .outputs
  | .multipleOutputs _ => .outputs
  | .danglingConnection _ => .connections
  | .duplicateInput .. => .connections
  | .unconnectedOutput _ => .sink

variable {d : Diagnostic}

/-! ## Loading -/

/-- A name that is not known is a matter of loading. -/
theorem Settings.topic_choice {α : Type} [Choice α] {id : String} {bag : Document.Value}
    {keys : List String} (h : d ∈ (choice id bag keys : α × _).2) : d.topic = .loading := by
  unfold choice at h
  dsimp only at h
  -- a missing setting and an empty one are passed over; a text, written or not, is looked up
  split at h
  next => exact absurd h List.not_mem_nil
  next => exact absurd h List.not_mem_nil
  all_goals
    split at h
    · exact absurd h List.not_mem_nil
    · obtain rfl := List.mem_singleton.mp h
      rfl

theorem NodeRecord.topic_load {r : NodeRecord} (h : d ∈ r.load.2) : d.topic = .loading := by
  unfold load at h
  split at h
  next =>
    obtain rfl := List.mem_singleton.mp h
    rfl
  next type _ =>
    cases type with
    | math | vectorMath =>
      simp only [NodeKind.ofBag] at h
      exact Settings.topic_choice h
    | waveTexture =>
      simp only [NodeKind.ofBag, WaveSettings.ofBag, List.mem_append] at h
      obtain (h | h) | h := h <;> exact Settings.topic_choice h
    | _ => exact absurd h List.not_mem_nil

namespace Graph

variable {g : Graph}

/-! ## The parts -/

/-- What the diagnostics say about a topic. -/
def said (g : Graph) : Topic → List Diagnostic
  | .loading => g.loadIssues
  | .ids => repeatedIds [] g.nodes
  | .outputs => outputCount ((g.nodes.filter (·.kind.type = .output)).map (·.id))
  | .connections => (g.passedOver [] g.connections).1
  | .sink =>
    match g.outputNode? with
    | some sink =>
      if (g.passedOver [] g.connections).2.contains (sink.id, "value") then []
      else [.unconnectedOutput sink.id]
    | none => []

/-- The parts follow each other in a fixed order. -/
theorem diagnostics_eq (g : Graph) :
    g.diagnostics = g.said .loading ++ g.said .ids ++ g.said .outputs ++ g.said .connections ++
      g.said .sink := by
  have hfirst : ((g.nodes.filter (·.kind.type = .output)).map (·.id)).head? =
      g.outputNode?.map (·.id) := by
    rw [List.head?_map, List.head?_filter]
    rfl
  rw [diagnostics]
  dsimp only
  rw [hfirst, said, said, said, said, said]
  cases g.outputNode? <;> rfl

theorem topic_repeatedIds {seen : List String} {nodes : List Node}
    (h : d ∈ repeatedIds seen nodes) : d.topic = .ids := by
  induction nodes generalizing seen with
  | nil => exact absurd h List.not_mem_nil
  | cons n rest ih =>
    rw [repeatedIds] at h
    split at h
    · rcases List.mem_cons.mp h with rfl | h
      · rfl
      · exact ih h
    · exact ih h

theorem topic_outputCount {ids : List String} (h : d ∈ outputCount ids) : d.topic = .outputs := by
  unfold outputCount at h
  split at h
  next =>
    obtain rfl := List.mem_singleton.mp h
    rfl
  next => exact absurd h List.not_mem_nil
  next =>
    obtain rfl := List.mem_singleton.mp h
    rfl

theorem topic_passedOver {fed : List (String × String)} {connections : List Connection}
    (h : d ∈ (g.passedOver fed connections).1) : d.topic = .connections := by
  induction connections generalizing fed with
  | nil => exact absurd h List.not_mem_nil
  | cons c rest ih =>
    rw [passedOver] at h
    split at h
    next =>
      rcases List.mem_cons.mp h with rfl | h
      · rfl
      · exact ih h
    next =>
      split at h
      next =>
        rcases List.mem_cons.mp h with rfl | h
        · rfl
        · exact ih h
      next => exact ih h

/-- What is said about a topic is about that topic. -/
theorem topic_said (hload : ∀ d ∈ g.loadIssues, d.topic = .loading) {t : Topic}
    (h : d ∈ g.said t) : d.topic = t := by
  cases t with
  | loading => exact hload d h
  | ids => exact topic_repeatedIds h
  | outputs => exact topic_outputCount h
  | connections => exact topic_passedOver h
  | sink =>
    rw [said] at h
    split at h
    next =>
      split at h
      · exact absurd h List.not_mem_nil
      · obtain rfl := List.mem_singleton.mp h
        rfl
    next => exact absurd h List.not_mem_nil

/-- The diagnostics of one topic are what is said about it. -/
theorem filter_topic (hload : ∀ d ∈ g.loadIssues, d.topic = .loading) (t : Topic) :
    g.diagnostics.filter (·.topic = t) = g.said t := by
  have hsame : (g.said t).filter (·.topic = t) = g.said t :=
    List.filter_eq_self.mpr fun d hd => decide_eq_true (topic_said hload hd)
  have hother {t' : Topic} (hne : t' ≠ t) : (g.said t').filter (·.topic = t) = [] :=
    List.filter_eq_nil_iff.mpr fun d hd => by simp [topic_said hload hd, hne]
  rw [diagnostics_eq, List.filter_append, List.filter_append, List.filter_append,
    List.filter_append]
  cases t <;> rw [hsame] <;> simp [hother]

/-- A diagnostic is in the list if and only if it is said about its topic. -/
theorem mem_diagnostics_iff (hload : ∀ d ∈ g.loadIssues, d.topic = .loading) :
    d ∈ g.diagnostics ↔ d ∈ g.said d.topic := by
  rw [← filter_topic hload, List.mem_filter, decide_eq_true rfl, and_iff_left rfl]

end Graph
end Heightfield
