import Heightfield.Program.Eval
import Heightfield.Proofs.Graph.Source
import Mathlib.Data.Fintype.Card
import Mathlib.Data.Set.Finite.List

/-!
# The meaning of a graph

What a graph computes, read off the graph alone: the value that leaves a node is computed from the
values that enter it, over and over for everyone who asks, without variables and without an order
of evaluation. This ends if no node that the output depends on depends on itself.

* `Graph.feeder?` is what feeds an input of a node, and `Graph.Feeds` the relation of nodes that
  comes from it.
* `Graph.Live` are the nodes that the output depends on; `Graph.Acyclic` says that none of them
  depends on itself. `Graph.Reads` says that an input is one of theirs, or that of the sink.
* `NodeKind.leave` is what leaves a socket of a node, given what enters it.
* `Graph.outlet` is what leaves a socket of a live node, and `Graph.meaning` the height.
-/

namespace Heightfield

namespace Graph

variable {g : Graph}

/-! ## What feeds a node -/

/-- What feeds an input: its source, if the input is in the table of the node and the source is not
an output node, which nothing leaves. -/
def feeder? (g : Graph) (n : Node) (input : String) : Option (Node × String) :=
  match n.kind.inputType? input with
  | none => none
  | some _ => (g.source? n.id input).filter fun src => src.1.kind ≠ .output

/-- A node feeds some input of another. -/
def Feeds (g : Graph) (m n : Node) : Prop :=
  ∃ input out, g.feeder? n input = some (m, out)

/-- The output depends on the node: it is found by going backwards from the first output node. -/
def Live (g : Graph) (n : Node) : Prop :=
  ∃ sink, g.outputNode? = some sink ∧ Relation.TransGen g.Feeds n sink

/-- No node that the output depends on depends on itself. -/
def Acyclic (g : Graph) : Prop :=
  ∀ n, g.Live n → ¬ Relation.TransGen g.Feeds n n

/-- The node reads its inputs: it is the sink, or the output depends on it. -/
def Reader (g : Graph) (n : Node) : Prop := g.outputNode? = some n ∨ g.Live n

/-- The input is read: it is in the table of a node that reads its inputs. -/
def Reads (g : Graph) (id input : String) : Prop :=
  ∃ n, g.Reader n ∧ n.id = id ∧ (n.kind.inputType? input).isSome

variable {m n sink : Node} {input out : String}

theorem feeder?_eq_some (h : g.feeder? n input = some (m, out)) :
    (n.kind.inputType? input).isSome ∧ g.source? n.id input = some (m, out) ∧
      m.kind ≠ .output := by
  unfold feeder? at h
  split at h
  next => simp at h
  next t ht =>
    obtain ⟨hsource, hkind⟩ := Option.filter_eq_some_iff.mp h
    exact ⟨by rw [ht]; rfl, hsource, by simpa using hkind⟩

/-- An input of the table is fed by its source, unless that is an output node. -/
theorem feeder?_of_mem {t : SocketType} (ht : n.kind.inputType? input = some t) :
    g.feeder? n input = (g.source? n.id input).filter fun src => src.1.kind ≠ .output := by
  rw [feeder?, ht]

/-- What an input of the table comes from feeds it, unless that is an output node. -/
theorem feeder?_of_source (hinput : (n.kind.inputType? input).isSome)
    (hsource : g.source? n.id input = some (m, out)) (hm : m.kind ≠ .output) :
    g.feeder? n input = some (m, out) := by
  obtain ⟨t, ht⟩ := Option.isSome_iff_exists.mp hinput
  rw [feeder?_of_mem ht, hsource]
  exact Option.filter_some_pos (by simpa using hm)

/-- Nothing feeds an input that has no source but an output node. -/
theorem feeder?_eq_none
    (h : ∀ m out, g.source? n.id input = some (m, out) → m.kind = .output) :
    g.feeder? n input = none := by
  cases hfeeder : g.feeder? n input with
  | none => rfl
  | some src =>
    obtain ⟨m, out⟩ := src
    obtain ⟨-, hsource, hkind⟩ := feeder?_eq_some hfeeder
    exact absurd (h m out hsource) hkind

/-- An input that is fed is in the table of the node. -/
theorem mem_inputs_of_feeder? (h : g.feeder? n input = some (m, out)) :
    input ∈ n.kind.inputs.map (·.1) := by
  obtain ⟨t, ht⟩ := Option.isSome_iff_exists.mp (feeder?_eq_some h).1
  obtain ⟨before, after, hinputs, -⟩ := List.lookup_eq_some_iff.mp ht
  simp [hinputs]

theorem Feeds.node?_self (h : g.Feeds m n) : g.node? m.id = some m := by
  obtain ⟨input, out, h⟩ := h
  exact node?_source (feeder?_eq_some h).2.1

theorem Feeds.kind_ne (h : g.Feeds m n) : m.kind ≠ .output := by
  obtain ⟨input, out, h⟩ := h
  exact (feeder?_eq_some h).2.2

theorem Feeds.exists_connection (h : g.Feeds m n) :
    ∃ c ∈ g.connections, c.fromNode = m.id ∧ c.toNode = n.id := by
  obtain ⟨input, out, h⟩ := h
  obtain ⟨c, hc, hto, hm⟩ := Graph.exists_connection (feeder?_eq_some h).2.1
  exact ⟨c, hc, (node?_id hm).symm, hto⟩

theorem Live.of_feeds (h : g.Feeds m n) (hn : g.Live n) : g.Live m := by
  obtain ⟨sink, hsink, hpath⟩ := hn
  exact ⟨sink, hsink, .head h hpath⟩

/-- A live node feeds another. -/
theorem Live.exists_feeds (h : g.Live m) : ∃ n, g.Feeds m n := by
  obtain ⟨sink, -, hpath⟩ := h
  obtain ⟨n, hn, -⟩ := Relation.TransGen.head'_iff.mp hpath
  exact ⟨n, hn⟩

theorem Live.node?_self (h : g.Live m) : g.node? m.id = some m :=
  h.exists_feeds.choose_spec.node?_self

theorem Live.kind_ne (h : g.Live m) : m.kind ≠ .output :=
  h.exists_feeds.choose_spec.kind_ne

/-- Live nodes are told apart by their ids. -/
theorem Live.eq_of_id_eq (hm : g.Live m) (hn : g.Live n) (h : m.id = n.id) : m = n := by
  have hfound := hm.node?_self
  rw [h, hn.node?_self] at hfound
  exact (Option.some.inj hfound).symm

/-- What feeds a node that reads its inputs is live. -/
theorem Reader.live (hn : g.Reader n) (h : g.Feeds m n) : g.Live m := by
  rcases hn with hsink | hlive
  · exact ⟨n, hsink, .single h⟩
  · exact hlive.of_feeds h

/-! ## Recursion over live nodes -/

/-- A node that the output depends on. -/
abbrev LiveNode (g : Graph) := { n : Node // g.Live n }

/-- The live node that feeds an input of a live node. -/
def LiveNode.feeder (n : g.LiveNode) (h : g.feeder? n.1 input = some (m, out)) : g.LiveNode :=
  ⟨m, .of_feeds ⟨input, out, h⟩ n.2⟩

instance : Finite g.LiveNode := by
  refine Set.Finite.to_subtype ((List.finite_toSet g.nodes).subset fun n hn => ?_)
  exact List.mem_of_find?_eq_some (Live.node?_self hn)

/-- Going backwards ends. -/
theorem Acyclic.wellFounded (hg : g.Acyclic) :
    WellFounded fun m n : g.LiveNode => g.Feeds m.1 n.1 := by
  let r := Relation.TransGen fun m n : g.LiveNode => g.Feeds m.1 n.1
  have hirrefl : ∀ n, ¬ r n n := by
    intro n hn
    have hcycle : Relation.TransGen g.Feeds n.1 n.1 :=
      Relation.TransGen.lift (p := g.Feeds) Subtype.val (fun _ _ h => h) _ _ hn
    exact hg n.1 n.2 hcycle
  have : IsTrans g.LiveNode r := ⟨fun _ _ _ => Relation.TransGen.trans⟩
  have : Std.Irrefl r := ⟨hirrefl⟩
  exact Subrelation.wf (r := r) (fun h => Relation.TransGen.single h)
    (Finite.wellFounded_of_trans_of_irrefl r)

/-- A graph is acyclic if its ids have ranks that rise along every connection. -/
theorem Acyclic.of_rank (rank : String → Nat)
    (h : ∀ c ∈ g.connections, rank c.fromNode < rank c.toNode) : g.Acyclic := by
  have hstep (m n : Node) (hmn : g.Feeds m n) : rank m.id < rank n.id := by
    obtain ⟨c, hc, hfrom, hto⟩ := hmn.exists_connection
    rw [← hfrom, ← hto]
    exact h c hc
  have hpath (m n : Node) (hmn : Relation.TransGen g.Feeds m n) : rank m.id < rank n.id := by
    induction hmn with
    | single hmn => exact hstep _ _ hmn
    | tail _ hmn ih => exact Nat.lt_trans ih (hstep _ _ hmn)
  intro n _ hcycle
  exact Nat.lt_irrefl _ (hpath n n hcycle)

end Graph

/-! ## What leaves a node -/

namespace NodeKind

/-- What leaves a socket of the table, given what enters the node. An input that nothing enters
takes the default of the node. -/
def emit (k : NodeKind) (s : Sample) (enter : String → Option Signal) (socket : String) : Signal :=
  let number (input : String) (fallback : Float32) : Float32 :=
    ((enter input).map (·.toScalar)).getD fallback
  let vector (input : String) (fallback : Vec3) : Vec3 :=
    ((enter input).map (·.toVector)).getD fallback
  match k with
  | .time _ => .scalar s.time
  | .value a => .scalar a
  | .parameter p => .scalar p.value
  | .vector v => .vector v
  | .position => .vector s.position
  | .combineXyz v => .vector ⟨number "x" v.x, number "y" v.y, number "z" v.z⟩
  | .separateXyz =>
    let v := vector "vector" Vec3.zero
    .scalar (if socket = "x" then v.x else if socket = "y" then v.y else v.z)
  | .math operation second => .scalar (operation.apply (number "a" 0) (number "b" second))
  | .vectorMath operation scale =>
    let outcome := operation.apply (vector "a" Vec3.zero) (vector "b" Vec3.zero)
      (number "scale" scale)
    if socket = "value" then .scalar outcome.value else .vector outcome.vector
  | .waveTexture settings =>
    .scalar (settings.texture (vector "vector" s.position) (number "phase" 0))
  | .noiseTexture scale =>
    .scalar (Simplex.texture (vector "vector" s.position) (number "scale" scale))
  | .output => default

/-- What leaves a socket of any name. A name that is not in the table stands for the primary
output; on a vector, `x`, `y` and `z` select a component. -/
def leave (k : NodeKind) (s : Sample) (enter : String → Option Signal) (socket : String) :
    Signal :=
  match k.outputs.lookup socket, k.outputs.head? with
  | none, some (primary, .vector) =>
    match Axis.ofLetter? socket with
    | some axis => .scalar (axis.of (k.emit s enter primary).toVector)
    | none => k.emit s enter primary
  | none, some (primary, .scalar) => k.emit s enter primary
  | _, _ => k.emit s enter socket

end NodeKind

namespace Graph

variable {g : Graph}

/-- What leaves a socket of a live node. -/
def outlet (hg : g.Acyclic) (s : Sample) (n : g.LiveNode) (socket : String) : Signal :=
  n.1.kind.leave s (fun input =>
    match h : g.feeder? n.1 input with
    | none => none
    | some (_, out) => some (outlet hg s (n.feeder h) out)) socket
termination_by hg.wellFounded.wrap n
decreasing_by exact ⟨_, _, h⟩

/-- What enters an input of a live node: what leaves the socket that feeds it. -/
def enter (hg : g.Acyclic) (s : Sample) (n : g.LiveNode) (input : String) : Option Signal :=
  match h : g.feeder? n.1 input with
  | none => none
  | some (_, out) => some (outlet hg s (n.feeder h) out)

theorem outlet_eq (hg : g.Acyclic) (s : Sample) (n : g.LiveNode) (socket : String) :
    outlet hg s n socket = n.1.kind.leave s (enter hg s n) socket := by
  rw [outlet]
  rfl

theorem enter_of_none {hg : g.Acyclic} {s : Sample} {n : g.LiveNode} {input : String}
    (h : g.feeder? n.1 input = none) : enter hg s n input = none := by
  unfold enter
  split
  next => rfl
  next heq => rw [h] at heq; cases heq

theorem enter_of_some {hg : g.Acyclic} {s : Sample} {n : g.LiveNode} {input out : String}
    {m : Node} (h : g.feeder? n.1 input = some (m, out)) :
    enter hg s n input = some (outlet hg s (n.feeder h) out) := by
  unfold enter
  split
  next heq => rw [h] at heq; cases heq
  next heq =>
    obtain ⟨rfl, rfl⟩ := Prod.mk.inj (Option.some.inj (h.symm.trans heq))
    rfl

/-- The height that a graph describes: nothing without an output node, 0 if nothing usable feeds
it, and otherwise the number that enters it, moved into the unit range. -/
def meaning (hg : g.Acyclic) (s : Sample) : Option Float32 :=
  match hsink : g.outputNode? with
  | none => none
  | some sink =>
    match h : g.feeder? sink "value" with
    | none => some 0
    | some (n, out) =>
      let n : g.LiveNode := ⟨n, sink, hsink, .single ⟨_, _, h⟩⟩
      some (Number.clampUnit (outlet hg s n out).toScalar)

theorem meaning_of_no_sink (hg : g.Acyclic) (s : Sample) (h : g.outputNode? = none) :
    g.meaning hg s = none := by
  unfold meaning
  split
  next => rfl
  next heq => rw [h] at heq; cases heq

theorem meaning_of_no_feeder (hg : g.Acyclic) (s : Sample) {sink : Node}
    (hsink : g.outputNode? = some sink) (h : g.feeder? sink "value" = none) :
    g.meaning hg s = some 0 := by
  unfold meaning
  split
  next heq => rw [hsink] at heq; cases heq
  next heq =>
    obtain rfl := Option.some.inj (hsink.symm.trans heq)
    split
    next => rfl
    next heq => rw [h] at heq; cases heq

theorem meaning_of_feeder (hg : g.Acyclic) (s : Sample) {sink m : Node} {out : String}
    (hsink : g.outputNode? = some sink) (h : g.feeder? sink "value" = some (m, out))
    (hlive : g.Live m) :
    g.meaning hg s = some (Number.clampUnit (outlet hg s ⟨m, hlive⟩ out).toScalar) := by
  unfold meaning
  split
  next heq => rw [hsink] at heq; cases heq
  next heq =>
    obtain rfl := Option.some.inj (hsink.symm.trans heq)
    split
    next heq => rw [h] at heq; cases heq
    next heq =>
      obtain ⟨rfl, rfl⟩ := Prod.mk.inj (Option.some.inj (h.symm.trans heq))
      rfl

end Graph
end Heightfield
