import Heightfield.Proofs.Graph.PassedOver

/-!
# Repeated ids

Nodes with the id of an earlier one are never found under it: every look-up by an id ends at the
first node. The diagnostics go through the nodes once and complain of the others. But the sink is
looked for among all nodes, by its kind, so that an output node can be found there whose id stands
for another node.

* `Graph.isFirst` says that a node is the first of its id, and `Graph.isFirst_iff` what that means.
* `Graph.repeatedIds_eq` ties the pass of the diagnostics to the look-ups.
* `Graph.withoutRepeated` takes the others away. Look-ups by an id do not miss them, and neither
  does the program, if the sink is the first node of its id (`Graph.lower_withoutRepeated`).
* `Graph.diagnostics_repeatedId` is the main result, and `Graph.lower_shadowed` shows what happens
  if the sink is not the first node of its id.
-/

namespace Heightfield
namespace Graph

variable {g : Graph} {id socket : String} {n : Node} {k : Nat}

/-! ## First nodes -/

/-- The node at a place is the first of its id. -/
def isFirst (g : Graph) (k : Nat) : Bool :=
  (g.nodes[k]?).any fun n => g.nodeIdx? n.id = some k

/-- A node is the first of its id if no earlier one has that id. -/
theorem isFirst_iff (hn : g.nodes[k]? = some n) :
    g.isFirst k = true ↔ ∀ j < k, ∀ m, g.nodes[j]? = some m → m.id ≠ n.id := by
  obtain ⟨hk, rfl⟩ := List.getElem?_eq_some_iff.mp hn
  rw [isFirst, hn, Option.any_some, decide_eq_true_eq, nodeIdx?,
    List.findIdx?_eq_some_iff_getElem]
  simp only [decide_eq_true_eq, true_and]
  constructor
  · rintro ⟨_, hearlier⟩ j hj m hm
    obtain ⟨hlt, rfl⟩ := List.getElem?_eq_some_iff.mp hm
    exact hearlier j hj
  · intro hearlier
    exact ⟨hk, fun j hj => hearlier j hj _ (List.getElem?_eq_getElem (hj.trans hk))⟩

/-- What an id stands for is the first node of the id. -/
theorem isFirst_of_nodeIdx? (h : g.nodeIdx? id = some k) : g.isFirst k = true := by
  obtain ⟨hk, hid, -⟩ := List.findIdx?_eq_some_iff_getElem.mp h
  rw [isFirst, List.getElem?_eq_getElem hk, Option.any_some, of_decide_eq_true hid, h,
    decide_eq_true rfl]

/-! ## The pass -/

/-- The ids of the first nodes. -/
def Seen (g : Graph) (k : Nat) (seen : List String) : Prop :=
  ∀ id, id ∈ seen ↔ ∃ j < k, ∃ n, g.nodes[j]? = some n ∧ n.id = id

variable {seen seen' : List String}

theorem seen_zero (g : Graph) : g.Seen 0 [] :=
  fun _ => iff_of_false List.not_mem_nil fun ⟨_, hj, _⟩ => absurd hj (Nat.not_lt_zero _)

/-- The next node adds its id. -/
theorem Seen.succ (h : g.Seen k seen) (hn : g.nodes[k]? = some n)
    (hseen : ∀ id, id ∈ seen' ↔ id ∈ seen ∨ n.id = id) : g.Seen (k + 1) seen' := by
  intro id
  rw [hseen, h, Nat.exists_lt_succ_right, hn]
  simp

/-- A node is the first of its id if the id has not been seen. -/
theorem Seen.isFirst_iff (h : g.Seen k seen) (hn : g.nodes[k]? = some n) :
    g.isFirst k = true ↔ n.id ∉ seen := by
  rw [Graph.isFirst_iff hn, h]
  simp only [not_exists, not_and, ne_eq]

/-- From any place on, the pass complains of the nodes that are not the first of their ids. -/
theorem repeatedIds_eq {rest : List Node} (hrest : g.nodes.drop k = rest) (h : g.Seen k seen) :
    repeatedIds seen rest =
      ((rest.zipIdx k).filter fun p => !g.isFirst p.2).map fun p => .duplicateNodeId p.1.id := by
  induction rest generalizing k seen with
  | nil => rfl
  | cons n rest ih =>
    have hn : g.nodes[k]? = some n := by
      rw [← List.head?_drop, hrest, List.head?_cons]
    have hnext : g.nodes.drop (k + 1) = rest := by
      rw [← List.drop_drop, hrest, List.drop_one, List.tail_cons]
    have hfirst := h.isFirst_iff hn
    rw [repeatedIds, List.zipIdx_cons]
    by_cases hmem : n.id ∈ seen
    · have hfalse : g.isFirst k = false := by
        rw [Bool.eq_false_iff, Ne, hfirst]
        exact not_not_intro hmem
      have hstep : g.Seen (k + 1) seen := h.succ hn fun id =>
        ⟨.inl, fun hid => hid.elim (fun hid => hid) fun hid => hid ▸ hmem⟩
      rw [if_pos (List.contains_iff_mem.mpr hmem), List.filter_cons_of_pos (by simp [hfalse]),
        List.map_cons, ih hnext hstep]
    · have htrue : g.isFirst k = true := hfirst.mpr hmem
      have hstep : g.Seen (k + 1) (n.id :: seen) := h.succ hn fun id => by
        rw [List.mem_cons, or_comm, eq_comm]
      rw [if_neg (by rwa [List.contains_iff_mem]), List.filter_cons_of_neg (by simp [htrue]),
        ih hnext hstep]

/-! ## The graph without them -/

/-- The graph with those of its nodes that are the first of their ids. -/
def withoutRepeated (g : Graph) : Graph :=
  { g with nodes := keepAt g.isFirst g.nodes }

/-- A look-up does not miss what it never finds. -/
theorem node?_withoutRepeated (g : Graph) (id : String) :
    g.withoutRepeated.node? id = g.node? id :=
  find?_keepAt_self fun _ => isFirst_of_nodeIdx?

theorem incoming?_withoutRepeated (g : Graph) (id socket : String) :
    g.withoutRepeated.incoming? id socket = g.incoming? id socket := by
  simp only [incoming?, isResolvable, node?_withoutRepeated]
  rfl

theorem source?_withoutRepeated (g : Graph) (id socket : String) :
    g.withoutRepeated.source? id socket = g.source? id socket := by
  simp only [source?, incoming?_withoutRepeated, node?_withoutRepeated]

/-- The sink is found at the first place of its id if it is what its id stands for. -/
theorem isFirst_of_outputIdx? (hsink : ∀ sink ∈ g.outputNode?, g.node? sink.id = some sink)
    (h : g.outputIdx? = some k) : g.isFirst k = true := by
  obtain ⟨hk, htype, hearlier⟩ := List.findIdx?_eq_some_iff_getElem.mp h
  have hfound : g.outputNode? = some g.nodes[k] :=
    find?_eq_of_findIdx? h (List.getElem?_eq_getElem hk)
  refine (isFirst_iff (List.getElem?_eq_getElem hk)).mpr fun j hj m hm hid => ?_
  obtain ⟨-, i, hi, heq, hbefore⟩ := List.find?_eq_some_iff_getElem.mp (hsink _ hfound)
  obtain ⟨hjlt, rfl⟩ := List.getElem?_eq_some_iff.mp hm
  -- what the id stands for is an output node too, and not behind the earlier node
  by_cases hlt : i < k
  · exact hearlier i hlt (heq ▸ htype)
  · simpa [hid] using hbefore j (by omega)

/-- The program does not miss them either, if the sink is the first node of its id. -/
theorem lower_withoutRepeated (hsink : ∀ sink ∈ g.outputNode?, g.node? sink.id = some sink)
    (useWorldPos : Bool) : lower g.withoutRepeated useWorldPos = lower g useWorldPos := by
  refine lower_congr ?_ (fun id socket _ => g.source?_withoutRepeated id socket) useWorldPos
  exact find?_keepAt_self fun k => isFirst_of_outputIdx? hsink

/-- The nodes that are left have distinct ids. -/
theorem nodup_withoutRepeated (g : Graph) :
    g.withoutRepeated.nodes.Pairwise fun m n => m.id ≠ n.id := by
  refine pairwise_keepAt fun i j m n hlt _ hj hm hn => ?_
  exact (isFirst_iff hn).mp hj i hlt m hm

/-- Every node that is left is the first of its id. -/
theorem isFirst_withoutRepeated (hn : g.withoutRepeated.nodes[k]? = some n) :
    g.withoutRepeated.isFirst k = true := by
  refine (isFirst_iff hn).mpr fun j hj m hm => ?_
  obtain ⟨hjlt, rfl⟩ := List.getElem?_eq_some_iff.mp hm
  obtain ⟨hklt, rfl⟩ := List.getElem?_eq_some_iff.mp hn
  exact List.pairwise_iff_getElem.mp g.nodup_withoutRepeated j k hjlt hklt hj

/-- What the diagnostics say of ids is what the pass says. -/
theorem filter_ids (h : g.Made) :
    g.diagnostics.filter (·.topic = .ids) =
      (g.nodes.zipIdx.filter fun p => !g.isFirst p.2).map fun p => .duplicateNodeId p.1.id := by
  rw [filter_topic h.topic, said, repeatedIds_eq List.drop_zero g.seen_zero]

/-- **The first node of an id is the one that counts.** In every graph, however it came about, the
diagnostics complain once and in order of the nodes whose id occurs earlier. Without these nodes
there is nothing to complain of, every id stands for the same node, and the same connection feeds
every input. The program is the same, if the sink is what its id stands for. -/
theorem diagnostics_repeatedId (h : g.Made) :
    g.diagnostics.filter (·.topic = .ids) =
      (g.nodes.zipIdx.filter fun p => !g.isFirst p.2).map (fun p => .duplicateNodeId p.1.id) ∧
    (∀ k n, g.nodes[k]? = some n →
      (g.isFirst k = false ↔ ∃ j < k, ∃ m, g.nodes[j]? = some m ∧ m.id = n.id)) ∧
    g.withoutRepeated.diagnostics.filter (·.topic = .ids) = [] ∧
    (∀ id, g.withoutRepeated.node? id = g.node? id) ∧
    (∀ id socket, g.withoutRepeated.incoming? id socket = g.incoming? id socket) ∧
    ((∀ sink ∈ g.outputNode?, g.node? sink.id = some sink) →
      ∀ useWorldPos, lower g.withoutRepeated useWorldPos = lower g useWorldPos) := by
  refine ⟨filter_ids h, fun k n hn => ?_, ?_, g.node?_withoutRepeated, g.incoming?_withoutRepeated,
    lower_withoutRepeated⟩
  · rw [Bool.eq_false_iff, Ne, isFirst_iff hn]
    push Not
    rfl
  · have hleft : g.withoutRepeated.nodes.zipIdx.filter
        (fun p => !g.withoutRepeated.isFirst p.2) = [] := by
      refine List.filter_eq_nil_iff.mpr fun p hp => ?_
      have hn := List.mem_zipIdx_iff_getElem?.mp hp
      simp [isFirst_withoutRepeated hn]
    have hmade : g.withoutRepeated.Made := h.edited _ _
    rw [filter_ids hmade, hleft, List.map_nil]

/-- Two values of one id, the first of which feeds the output. -/
def twins : Graph where
  nodes := [⟨"v", .value 1, [], 0, 0⟩, ⟨"v", .value 2, [], 0, 0⟩, ⟨"o", .output, [], 0, 0⟩]
  connections := [.between "v" "value" "o" "value"]

theorem diagnostics_repeatedId_twins : twins.Made ∧
    twins.diagnostics.filter (·.topic = .ids) = [.duplicateNodeId "v"] ∧
    twins.withoutRepeated.diagnostics.filter (·.topic = .ids) = [] ∧
    twins.withoutRepeated.nodes.length = 2 ∧
    lower twins.withoutRepeated false = lower twins false := by
  have hmade : twins.Made := .parts _ _
  obtain ⟨hissues, -, hleft, -, -, hlower⟩ := diagnostics_repeatedId hmade
  exact ⟨hmade, hissues.trans (by decide), hleft, by decide, hlower (by decide) false⟩

/-- A value and an output of one id, the one connected to the other. -/
def shadowed : Graph where
  nodes := [⟨"a", .value 1, [], 0, 0⟩, ⟨"a", .output, [], 0, 0⟩]
  connections := [.between "a" "value" "a" "value"]

/-- The output is not what its id stands for, but it is the sink: without it the program is
another. -/
theorem lower_shadowed : shadowed.Made ∧
    shadowed.diagnostics.filter (·.topic = .ids) = [.duplicateNodeId "a"] ∧
    ∀ useWorldPos, (lower shadowed useWorldPos).result = .value (.var 0) ∧
      (lower shadowed.withoutRepeated useWorldPos).result = .errorColor :=
  ⟨.parts _ _, by decide, by decide⟩

end Graph
end Heightfield
