import Heightfield.Proofs.Graph.Meaning
import Heightfield.Proofs.Program.WellFormed

/-!
# The lowering is sound

On an acyclic graph, the program computes what the graph means. The walk shares the parts of a graph
that are reached more than once; the meaning computes them again for everyone who asks.

The registers of the finished program are fixed from the start, and a register holds the value of
its slot over these registers (`Walk.Solves`). What the walk keeps is `Walk.Settled`: of every live
node that has been visited, the slots hold what leaves the node, unless the node waits for its own
inputs. The nodes that wait are fed, directly or not, by the node that is being visited, so in an
acyclic graph the walk never comes back to one of them.
-/

namespace Heightfield

/-! ## Values and their views -/

@[simp] theorem Signal.toVector_scalar (a : Float32) : (scalar a).toVector = Vec3.splat a := rfl

@[simp] theorem Signal.toVector_vector (v : Vec3) : (vector v).toVector = v := rfl

/-- The value as one of a type. -/
def Signal.as (x : Signal) : SocketType → Signal
  | .scalar => .scalar x.toScalar
  | .vector => .vector x.toVector

/-- A coerced expression has the value of the expression, seen in the type it is coerced to. -/
theorem Expr.eval_coerce (r : Registers) (s : Sample) (e : Expr) (source target : SocketType) :
    ((e.coerce source target).eval r s).as target = (e.eval r s).as target := by
  cases source <;> cases target
  · rfl
  · rfl
  · simp only [coerce, eval, Signal.as, Signal.toScalar, Axis.of]
    cases e.eval r s <;> rfl
  · rfl

namespace NodeKind

variable {k : NodeKind} {next : Nat} {r : Registers} {s : Sample} {enter : String → Option Signal}
  {read : String → Option Expr} {socket : String}

/-- What has been read has the values of what enters, seen in the types that are expected. -/
def Reads (k : NodeKind) (r : Registers) (s : Sample) (enter : String → Option Signal)
    (read : String → Option Expr) : Prop :=
  ∀ input t, (input, t) ∈ k.operands →
    (read input).map (fun e => (e.eval r s).as t) = (enter input).map (·.as t)

/-- A number that is read is the number that enters, or the default. -/
theorem Reads.toScalar (h : k.Reads r s enter read) (input : String) (fallback : Float32)
    (hmem : (input, .scalar) ∈ k.operands) :
    (((read input).getD (.scalar fallback)).eval r s).toScalar =
      ((enter input).map (·.toScalar)).getD fallback := by
  have := h input .scalar hmem
  cases hread : read input <;> cases henter : enter input <;>
    simp only [hread, henter, Option.map_some, Option.map_none, reduceCtorEq, Option.some.injEq,
      Signal.as, Signal.scalar.injEq] at this
  · rfl
  · exact this

/-- A vector that is read is the vector that enters, or the default. -/
theorem Reads.toVector (h : k.Reads r s enter read) (input : String) {e : Expr} (fallback : Vec3)
    (hfallback : (e.eval r s).toVector = fallback) (hmem : (input, .vector) ∈ k.operands) :
    (((read input).getD e).eval r s).toVector =
      ((enter input).map (·.toVector)).getD fallback := by
  have := h input .vector hmem
  cases hread : read input <;> cases henter : enter input <;>
    simp only [hread, henter, Option.map_some, Option.map_none, reduceCtorEq, Option.some.injEq,
      Signal.as, Signal.vector.injEq] at this
  · exact hfallback
  · exact this

/-- What is found in a table of one socket is that socket. -/
theorem eq_of_isSome_lookup_singleton {name : String} {t : SocketType}
    (h : (List.lookup socket [(name, t)]).isSome) : socket = name := by
  rw [List.lookup_cons] at h
  split at h
  next heq => exact beq_iff_eq.mp heq
  next => simp at h

/-- Registers that solve the definitions of a node hold what leaves it. -/
theorem read_block (hread : k.Reads r s enter read)
    (hsolve : ∀ j d, (k.block next read)[j]? = some d → r.read (next + j) = d.expr.eval r s)
    (hsocket : (k.outputs.lookup socket).isSome) :
    ∃ j, (k.block next read).findIdx? (·.socket = socket) = some j ∧
      r.read (next + j) = k.emit s enter socket := by
  cases k with
  | separateXyz =>
    have hin := hsolve 0 _ rfl
    have hv := hread.toVector "vector" (e := .vector Vec3.zero) Vec3.zero rfl
      (by simp [operands, inputs])
    rw [Nat.add_zero] at hin
    simp only [outputs, List.lookup_cons, List.lookup_nil] at hsocket
    split at hsocket
    next hx =>
      obtain rfl := beq_iff_eq.mp hx
      refine ⟨1, rfl, ?_⟩
      rw [hsolve 1 _ rfl]
      simp [Expr.eval, hin, hv, emit, Axis.of]
    next =>
    split at hsocket
    next hy =>
      obtain rfl := beq_iff_eq.mp hy
      refine ⟨2, rfl, ?_⟩
      rw [hsolve 2 _ rfl]
      simp [Expr.eval, hin, hv, emit, Axis.of]
    next =>
    split at hsocket
    next hz =>
      obtain rfl := beq_iff_eq.mp hz
      refine ⟨3, rfl, ?_⟩
      rw [hsolve 3 _ rfl]
      simp [Expr.eval, hin, hv, emit, Axis.of]
    next => simp at hsocket
  | vectorMath op scale =>
    have ha := hread.toVector "a" (e := .vector Vec3.zero) Vec3.zero rfl
      (by simp [operands, inputs])
    have hb := hread.toVector "b" (e := .vector Vec3.zero) Vec3.zero rfl
      (by simp [operands, inputs])
    have hf := hread.toScalar "scale" scale (by simp [operands, inputs])
    -- the natural outcome comes first, and the other socket is made from it
    have hfirst (d : Definition) (h : (block (.vectorMath op scale) next read)[0]? = some d) :
        r.read next = d.expr.eval r s := hsolve 0 d h
    simp only [outputs, List.lookup_cons, List.lookup_nil] at hsocket
    by_cases hop : op.isScalar
    · simp only [block, hop, if_true] at hsolve hfirst ⊢
      have hvalue := hfirst _ rfl
      split at hsocket
      next heq =>
        obtain rfl := beq_iff_eq.mp heq
        refine ⟨1, rfl, ?_⟩
        rw [hsolve 1 _ rfl]
        simp [Expr.eval, hvalue, hop, emit, ha, hb, hf,
          VectorOperation.vector_of_isScalar hop]
      next =>
      split at hsocket
      next heq =>
        obtain rfl := beq_iff_eq.mp heq
        refine ⟨0, rfl, hvalue.trans ?_⟩
        simp [Expr.eval, hop, emit, ha, hb, hf]
      next => simp at hsocket
    · simp only [block, hop, Bool.false_eq_true, if_false] at hsolve hfirst ⊢
      have hvector := hfirst _ rfl
      split at hsocket
      next heq =>
        obtain rfl := beq_iff_eq.mp heq
        refine ⟨0, rfl, hvector.trans ?_⟩
        simp [Expr.eval, hop, emit, ha, hb, hf]
      next =>
      split at hsocket
      next heq =>
        obtain rfl := beq_iff_eq.mp heq
        refine ⟨1, rfl, ?_⟩
        rw [hsolve 1 _ rfl]
        simp [Expr.eval, hvector, hop, emit, ha, hb, hf, Axis.of,
          VectorOperation.value_eq_x]
      next => simp at hsocket
  | output => simp [outputs] at hsocket
  | combineXyz v =>
    obtain rfl := eq_of_isSome_lookup_singleton hsocket
    refine ⟨0, rfl, (hsolve 0 _ rfl).trans ?_⟩
    have hx := hread.toScalar "x" v.x (by simp [operands, inputs])
    have hy := hread.toScalar "y" v.y (by simp [operands, inputs])
    have hz := hread.toScalar "z" v.z (by simp [operands, inputs])
    simp only [Expr.eval, emit, hx, hy, hz]
  | math op second =>
    obtain rfl := eq_of_isSome_lookup_singleton hsocket
    refine ⟨0, rfl, (hsolve 0 _ rfl).trans ?_⟩
    have ha := hread.toScalar "a" 0 (by simp [operands, inputs])
    have hb := hread.toScalar "b" second (by simp [operands, inputs])
    simp only [Expr.eval, emit, ha, hb]
  | waveTexture settings =>
    obtain rfl := eq_of_isSome_lookup_singleton hsocket
    refine ⟨0, rfl, (hsolve 0 _ rfl).trans ?_⟩
    have hp := hread.toVector "vector" (e := .position) s.position rfl
      (by simp [operands, inputs])
    have hq := hread.toScalar "phase" 0 (by simp [operands, inputs])
    simp only [Expr.eval, emit, hp, hq]
  | noiseTexture scale =>
    obtain rfl := eq_of_isSome_lookup_singleton hsocket
    refine ⟨0, rfl, (hsolve 0 _ rfl).trans ?_⟩
    have hp := hread.toVector "vector" (e := .position) s.position rfl
      (by simp [operands, inputs])
    have hf := hread.toScalar "scale" scale (by simp [operands, inputs])
    simp only [Expr.eval, emit, hp, hf]
  | _ =>
    obtain rfl := eq_of_isSome_lookup_singleton hsocket
    exact ⟨0, rfl, hsolve 0 _ rfl⟩

end NodeKind

/-! ## What the walk keeps -/

namespace Walk

variable {g : Graph} {hg : g.Acyclic} {s : Sample} {r : Registers} {w w' : Walk}

/-- The registers solve the slots: each holds the value of its slot. -/
def Solves (s : Sample) (r : Registers) (w : Walk) : Prop :=
  ∀ i slot, w.slots[i]? = some slot → r.read i = slot.expr.eval r s

theorem Solves.of_grows (h : w'.Solves s r) (hgrows : w.Grows w') : w.Solves s r :=
  fun i slot hslot => h i slot (hgrows.getElem? hslot)

/-- Every socket of a live node has a slot, and its register holds what leaves the socket. -/
def Holds (hg : g.Acyclic) (s : Sample) (r : Registers) (w : Walk) (n : g.LiveNode) : Prop :=
  ∀ socket, (n.1.kind.outputs.lookup socket).isSome →
    ∃ i, w.bound? n.1.id socket = some i ∧
      r.read i = n.1.kind.emit s (Graph.enter hg s n) socket

/-- The slots belong to visited ids, and every live node that has been visited holds what leaves
it, unless it waits for its inputs. -/
structure Settled (hg : g.Acyclic) (s : Sample) (r : Registers) (waiting : List Node) (w : Walk) :
    Prop where
  closed : ∀ slot ∈ w.slots, slot.node ∈ w.visited
  holds : ∀ n : g.LiveNode, n.1.id ∈ w.visited → n.1 ∈ waiting ∨ w.Holds hg s r n

variable {waiting : List Node}

theorem Settled.init (hg : g.Acyclic) (s : Sample) (r : Registers) : Settled hg s r [] {} :=
  ⟨by simp, by simp⟩

theorem Holds.grows {n : g.LiveNode} (h : w.Holds hg s r n) (hn : n.1.id ∈ w.visited)
    (hgrows : w.Grows w') : w'.Holds hg s r n := by
  intro socket hsocket
  obtain ⟨i, hi, hr⟩ := h socket hsocket
  exact ⟨i, by rw [hgrows.bound? hn, hi], hr⟩

/-- The node that is entered waits. -/
theorem Settled.enter (h : w.Settled hg s r waiting) {n : Node} (hn : g.node? n.id = some n) :
    (w.enter n.id).Settled hg s r (n :: waiting) := by
  refine ⟨fun slot hslot => List.mem_cons_of_mem _ (h.closed slot hslot), fun m hm => ?_⟩
  by_cases hid : m.1.id ∈ w.visited
  · rcases h.holds m hid with hm | hm
    · exact .inl (List.mem_cons_of_mem _ hm)
    · exact .inr (hm.grows hid (Grows.enter w n.id))
  · rcases List.mem_cons.mp hm with heq | hm
    · -- only the first node of an id can be live, so this is the node that is entered
      have hself := m.2.node?_self
      rw [heq, hn] at hself
      exact .inl (Option.some.inj hself ▸ List.mem_cons_self)
    · exact absurd hm hid

/-- An id that has not been visited has no slot. -/
theorem Settled.bound?_eq_none (h : w.Settled hg s r waiting) {id : String}
    (hid : id ∉ w.visited) (socket : String) : w.bound? id socket = none := by
  rw [bound?, List.findIdx?_eq_none_iff]
  intro slot hslot
  have hne : slot.node ≠ id := fun heq => hid (heq ▸ h.closed slot hslot)
  simp [hne]

theorem findIdx?_congr {α : Type} {p q : α → Bool} {l : List α} (h : ∀ a ∈ l, p a = q a) :
    l.findIdx? p = l.findIdx? q := by
  induction l with
  | nil => rfl
  | cons a rest ih =>
    rw [List.findIdx?_cons, List.findIdx?_cons, h a List.mem_cons_self,
      ih fun b hb => h b (List.mem_cons_of_mem _ hb)]

/-- A socket that had no slot has the slot of its first definition. -/
theorem bound?_defineAll {id socket : String} (h : w.bound? id socket = none)
    (ds : List Definition) : (w.defineAll id ds).bound? id socket =
      (ds.findIdx? (·.socket = socket)).map (· + w.slots.length) := by
  obtain ⟨added, hslots, rfl, hnode⟩ := slots_defineAll w id ds
  rw [bound?] at h ⊢
  rw [hslots, List.findIdx?_append, h, Option.none_or, List.findIdx?_map]
  congr 1
  refine findIdx?_congr fun slot hslot => ?_
  rw [hnode slot hslot, decide_eq_true rfl, Bool.true_and]
  rfl

/-- Definitions of one id do not change the slots of others. -/
theorem bound?_defineAll_of_ne {id other : String} (h : other ≠ id) (socket : String)
    (ds : List Definition) : (w.defineAll id ds).bound? other socket = w.bound? other socket := by
  obtain ⟨added, hslots, -, hnode⟩ := slots_defineAll w id ds
  have hnone : added.findIdx? (fun slot => slot.node = other && slot.socket = socket) = none := by
    rw [List.findIdx?_eq_none_iff]
    intro slot hslot
    simp [hnode slot hslot, Ne.symm h]
  rw [bound?, hslots, List.findIdx?_append, hnone, Option.map_none, Option.or_none, bound?]

theorem Solves.of_defineAll {id : String} {ds : List Definition}
    (h : (w.defineAll id ds).Solves s r) : w.Solves s r := by
  obtain ⟨added, hslots, -, -⟩ := slots_defineAll w id ds
  intro i slot hslot
  refine h i slot ?_
  rw [hslots, List.getElem?_append_left (List.getElem?_eq_some_iff.mp hslot).1, hslot]

/-- Registers that solve a walk solve the definitions that were added last. -/
theorem Solves.defineAll {id : String} {ds : List Definition}
    (h : (w.defineAll id ds).Solves s r) (j : Nat) (d : Definition) (hd : ds[j]? = some d) :
    r.read (w.slots.length + j) = d.expr.eval r s := by
  obtain ⟨added, hslots, rfl, -⟩ := slots_defineAll w id ds
  rw [List.getElem?_map] at hd
  obtain ⟨slot, hslot, rfl⟩ := Option.map_eq_some_iff.mp hd
  refine h (w.slots.length + j) slot ?_
  rw [hslots, List.getElem?_append_right (by omega), Nat.add_sub_cancel_left, hslot]

/-- The node whose definitions are added stops waiting, if it holds what leaves it. -/
theorem Settled.leave {n : Node} (h : w.Settled hg s r (n :: waiting))
    (hn : g.node? n.id = some n) (hid : n.id ∈ w.visited) {ds : List Definition}
    (hholds : ∀ hlive : g.Live n, (w.defineAll n.id ds).Holds hg s r ⟨n, hlive⟩) :
    (w.defineAll n.id ds).Settled hg s r waiting := by
  refine ⟨?_, ?_⟩
  · obtain ⟨added, hslots, -, hnode⟩ := slots_defineAll w n.id ds
    rw [visited_defineAll, hslots]
    intro slot hslot
    rcases List.mem_append.mp hslot with hslot | hslot
    · exact h.closed slot hslot
    · rw [hnode slot hslot]
      exact hid
  · rw [visited_defineAll]
    intro m hm
    by_cases heq : m.1.id = n.id
    · have hself := m.2.node?_self
      rw [heq, hn] at hself
      obtain rfl := Option.some.inj hself
      exact .inr (hholds m.2)
    · rcases h.holds m hm with hwait | hm
      · rcases List.mem_cons.mp hwait with hmn | hwait
        · exact absurd (congrArg Node.id hmn) heq
        · exact .inl hwait
      · refine .inr fun socket hsocket => ?_
        obtain ⟨i, hi, hr⟩ := hm socket hsocket
        exact ⟨i, by rw [bound?_defineAll_of_ne heq, hi], hr⟩

end Walk

namespace Lowering

variable {g : Graph} {hg : g.Acyclic} {s : Sample} {r : Registers} {w : Walk} {fuel : Nat}
  {waiting : List Node}

/-! ## What is read -/

/-- A socket of a live node that holds what leaves it has that value. -/
theorem eval_outlet? {n : g.LiveNode} (h : w.Holds hg s r n) (socket : String) :
    ∃ p, outlet? w n.1 socket = some p ∧ p.1.eval r s = Graph.outlet hg s n socket := by
  rw [Graph.outlet_eq]
  unfold outlet? NodeKind.leave
  cases hlookup : n.1.kind.outputs.lookup socket with
  | some t =>
    obtain ⟨i, hi, hr⟩ := h socket (by rw [hlookup]; rfl)
    exact ⟨(.var i, t), by simp only [hi, Option.map_some], hr⟩
  | none =>
    cases hhead : n.1.kind.outputs.head? with
    | none =>
      have hkind := n.2.kind_ne
      cases hk : n.1.kind <;> simp [hk, NodeKind.outputs] at hhead hkind
    | some primary =>
      obtain ⟨i, hi, hr⟩ := h primary.1 (by rw [lookup_of_head? hhead]; rfl)
      obtain ⟨name, t⟩ := primary
      simp only [hi, Option.map_some, Option.some.injEq, exists_eq_left']
      cases t with
      | scalar => exact hr
      | vector =>
        cases haxis : Axis.ofLetter? socket with
        | none => exact hr
        | some axis => exact congrArg (fun x => Signal.scalar (axis.of (Signal.toVector x))) hr

/-- In an acyclic graph no node waits that feeds the node being visited. -/
theorem not_mem_waiting (hg : g.Acyclic) {m n : g.LiveNode} (hfeeds : g.Feeds m.1 n.1)
    (hpath : ∀ x ∈ waiting, Relation.TransGen g.Feeds n.1 x) : m.1 ∉ n.1 :: waiting := by
  intro hmem
  rcases List.mem_cons.mp hmem with heq | hmem
  · have hcycle : Relation.TransGen g.Feeds m.1 n.1 := .single hfeeds
    rw [← heq] at hcycle
    exact hg m.1 m.2 hcycle
  · exact hg m.1 m.2 (.head hfeeds (hpath m.1 hmem))

/-- Visiting an output node adds nothing but its id. -/
theorem visit_settled_of_output {n : Node} (hn : g.node? n.id = some n)
    (hkind : n.kind = .output) (hw : w.Settled hg s r waiting) :
    (visit g fuel n w).Settled hg s r waiting := by
  by_cases hid : n.id ∈ w.visited
  · rw [visit_of_mem hid]
    exact hw
  cases fuel with
  | zero => exact hw
  | succ fuel =>
    rw [visit_of_not_mem hid, hkind]
    refine (hw.enter hn).leave hn List.mem_cons_self fun hlive => ?_
    exact absurd hkind hlive.kind_ne

variable {n : g.LiveNode}

/-- One input of a live node reads what enters it, and the walk stays settled, if the visits of the
nodes that feed it see to that. -/
theorem input_settled {socket : String} {t : SocketType}
    (ht : n.1.kind.inputType? socket = some t)
    (hpath : ∀ x ∈ waiting, Relation.TransGen g.Feeds n.1 x)
    (hvisit : ∀ (m : g.LiveNode) (w : Walk), g.Feeds m.1 n.1 → w.Enough g fuel →
      w.Settled hg s r (n.1 :: waiting) → (visit g fuel m.1 w).Solves s r →
      (visit g fuel m.1 w).Settled hg s r (n.1 :: waiting))
    (henough : w.Enough g fuel) (hw : w.Settled hg s r (n.1 :: waiting))
    (hsolves : (input (visit g fuel) g n.1.id socket t w).2.Solves s r) :
    (input (visit g fuel) g n.1.id socket t w).2.Settled hg s r (n.1 :: waiting) ∧
      (input (visit g fuel) g n.1.id socket t w).1.map (fun e => (e.eval r s).as t) =
        (Graph.enter hg s n socket).map (·.as t) := by
  have hfeeder := Graph.feeder?_of_mem (g := g) ht
  cases hsource : g.source? n.1.id socket with
  | none =>
    rw [hsource, Option.filter_none] at hfeeder
    rw [input_of_none hsource, Graph.enter_of_none hfeeder]
    exact ⟨hw, rfl⟩
  | some src =>
    obtain ⟨m, out⟩ := src
    have hm : g.node? m.id = some m := Graph.node?_source hsource
    rw [input_of_some hsource] at hsolves ⊢
    by_cases hkind : m.kind = .output
    · rw [hsource, Option.filter_some, if_neg (by simp [hkind])] at hfeeder
      rw [Graph.enter_of_none hfeeder]
      refine ⟨visit_settled_of_output hm hkind hw, ?_⟩
      simp [outlet?, hkind, NodeKind.outputs]
    · rw [hsource, Option.filter_some, if_pos (by simp [hkind])] at hfeeder
      have hfeeds : g.Feeds m n.1 := ⟨socket, out, hfeeder⟩
      let live := n.feeder hfeeder
      have hw' := hvisit live w hfeeds henough hw hsolves
      -- a feeder that was found visited may not be one that waits, or the graph had a cycle
      have hholds : (visit g fuel m w).Holds hg s r live :=
        (hw'.holds live (mem_visited_visit henough hm)).resolve_left
          (not_mem_waiting hg (m := live) hfeeds hpath)
      obtain ⟨p, hp, heval⟩ := eval_outlet? hholds out
      refine ⟨hw', ?_⟩
      rw [Graph.enter_of_some hfeeder]
      simp only [live, Graph.LiveNode.feeder] at hp
      simp only [hp, Option.map_some, Expr.eval_coerce, heval]
      rfl

/-- What a row of inputs reads comes under the names of the row. -/
theorem fst_mem_of_mem_inputs {visit : Node → Walk → Walk} {id : String}
    {sockets : List (String × SocketType)} {p : String × Expr}
    (h : p ∈ (inputs visit g id sockets w).1) : p.1 ∈ sockets.map (·.1) := by
  induction sockets generalizing w with
  | nil => simp [inputs] at h
  | cons q rest ih =>
    simp only [inputs] at h
    rw [List.map_cons]
    split at h
    next e _ =>
      rcases List.mem_cons.mp h with rfl | h
      · exact List.mem_cons_self
      · exact List.mem_cons_of_mem _ (ih h)
    next => exact List.mem_cons_of_mem _ (ih h)

/-- The inputs of a live node read what enters them, and the walk stays settled. -/
theorem inputs_settled (hpath : ∀ x ∈ waiting, Relation.TransGen g.Feeds n.1 x)
    (hvisit : ∀ (m : g.LiveNode) (w : Walk), g.Feeds m.1 n.1 → w.Enough g fuel →
      w.Settled hg s r (n.1 :: waiting) → (visit g fuel m.1 w).Solves s r →
      (visit g fuel m.1 w).Settled hg s r (n.1 :: waiting))
    {sockets : List (String × SocketType)} (hnodup : (sockets.map (·.1)).Nodup)
    (hsockets : ∀ p ∈ sockets, n.1.kind.inputType? p.1 = some p.2)
    (henough : w.Enough g fuel) (hw : w.Settled hg s r (n.1 :: waiting))
    (hsolves : (inputs (visit g fuel) g n.1.id sockets w).2.Solves s r) :
    (inputs (visit g fuel) g n.1.id sockets w).2.Settled hg s r (n.1 :: waiting) ∧
      ∀ p ∈ sockets, ((inputs (visit g fuel) g n.1.id sockets w).1.lookup p.1).map
        (fun e => (e.eval r s).as p.2) = (Graph.enter hg s n p.1).map (·.as p.2) := by
  induction sockets generalizing w with
  | nil => exact ⟨hw, by simp⟩
  | cons q rest ih =>
    obtain ⟨socket, t⟩ := q
    rw [List.map_cons, List.nodup_cons] at hnodup
    have hgrows := inputs_grows (g := g) n.1.id (visit_grows (g := g) fuel) rest
      (input (visit g fuel) g n.1.id socket t w).2
    have ht : n.1.kind.inputType? socket = some t := hsockets _ List.mem_cons_self
    have hhead := input_settled ht hpath hvisit henough hw
      (hsolves.of_grows hgrows)
    have henough' : (input (visit g fuel) g n.1.id socket t w).2.Enough g fuel := by
      cases hsource : g.source? n.1.id socket with
      | none =>
        rw [input_of_none hsource]
        exact henough
      | some src =>
        rw [input_of_some hsource]
        exact visit_enough henough (Graph.node?_source hsource)
    have hrest := ih hnodup.2 (fun p hp => hsockets p (List.mem_cons_of_mem _ hp)) henough'
      hhead.1 hsolves
    refine ⟨hrest.1, fun p hp => ?_⟩
    simp only [inputs]
    rcases List.mem_cons.mp hp with rfl | hp
    · rw [← hhead.2]
      split
      next e he => rw [List.lookup_cons_self, he]
      next he =>
        have hnone : List.lookup socket (inputs (visit g fuel) g n.1.id rest
            (input (visit g fuel) g n.1.id socket t w).2).1 = none := by
          rw [List.lookup_eq_none_iff]
          intro p hp
          have hne : socket ≠ p.1 := fun heq => hnodup.1 (heq ▸ fst_mem_of_mem_inputs hp)
          simpa using hne
        rw [hnone, he]
    · rw [← hrest.2 p hp]
      have hmem : p.1 ∈ rest.map (·.1) := List.mem_map_of_mem hp
      have hne : p.1 ≠ socket := fun heq => hnodup.1 (heq ▸ hmem)
      split
      next e _ => rw [List.lookup_cons, beq_false_of_ne hne]
      next => rfl

/-- The visit of a live node keeps the walk settled. -/
theorem visit_settled (hpath : ∀ x ∈ waiting, Relation.TransGen g.Feeds n.1 x)
    (henough : w.Enough g fuel) (hw : w.Settled hg s r waiting)
    (hsolves : (visit g fuel n.1 w).Solves s r) :
    (visit g fuel n.1 w).Settled hg s r waiting := by
  induction fuel generalizing n w waiting with
  | zero => exact hw
  | succ fuel ih =>
    have hn := n.2.node?_self
    by_cases hid : n.1.id ∈ w.visited
    · rw [visit_of_mem hid]
      exact hw
    rw [visit_of_not_mem hid] at hsolves ⊢
    simp only at hsolves ⊢
    -- the walk after the inputs, before the node's own definitions
    set found := inputs (visit g fuel) g n.1.id n.1.kind.operands (w.enter n.1.id) with hfound
    have hgrows : (w.enter n.1.id).Grows found.2 := inputs_grows n.1.id (visit_grows fuel) _ _
    have hentered : n.1.id ∈ found.2.visited := hgrows.visited.subset List.mem_cons_self
    have hpath' (m : g.LiveNode) (hm : g.Feeds m.1 n.1) :
        ∀ x ∈ n.1 :: waiting, Relation.TransGen g.Feeds m.1 x := by
      intro x hx
      rcases List.mem_cons.mp hx with rfl | hx
      · exact .single hm
      · exact .head hm (hpath x hx)
    -- a node that feeds this one starts with this one waiting, and leads to all that wait
    obtain ⟨hsettled, hreads⟩ := inputs_settled hpath
      (fun m w hm henough hw hsolves => ih (hpath' m hm) henough hw hsolves)
      (n.1.kind.nodup_inputs.sublist (n.1.kind.operands_sublist_inputs.map _))
      (fun p hp => NodeKind.inputType?_of_mem_operands hp) (henough.enter hid hn) (hw.enter hn)
      hsolves.of_defineAll
    refine hsettled.leave hn hentered fun hlive socket hsocket => ?_
    have hnone : found.2.bound? n.1.id socket = none := by
      rw [hgrows.bound? List.mem_cons_self]
      exact hw.bound?_eq_none hid socket
    obtain ⟨j, hj, hr⟩ := NodeKind.read_block
      (fun input t hmem => hreads (input, t) hmem) hsolves.defineAll hsocket
    refine ⟨j + found.2.slots.length, ?_, ?_⟩
    · rw [Walk.bound?_defineAll hnone, hj, Option.map_some]
    · rw [Nat.add_comm]
      exact hr

end Lowering

/-! ## The height -/

/-- The registers of a program solve the walk that it was made from. -/
theorem Walk.solves_run {w : Walk} {p : Program} (hp : p.WellFormed)
    (h : p.stmts = Slot.statements 0 w.slots) (s : Sample) : w.Solves s (p.run s) := by
  intro i slot hslot
  have hstmt : p.stmts[i]? = some ⟨0 + i, slot.expr⟩ := by
    rw [h, Slot.getElem?_statements, hslot, Option.map_some]
  exact hp.read_run hstmt

/-- Without a source for the sink, the height is 0. -/
theorem height?_lower_of_none {g : Graph} {sink : Node} (hsink : g.outputNode? = some sink)
    (h : g.source? sink.id "value" = none) (useWorldPos : Bool) (s : Sample) :
    (lower g useWorldPos).height? s = some 0 := by
  unfold lower
  simp only [hsink]
  cases hc : g.incoming? sink.id "value" with
  | none => rfl
  | some c =>
    rw [Graph.source?, hc, Option.bind_some, Option.map_eq_none_iff] at h
    simp only [Lowering.source, h]
    rfl

/-- The program of a sink with a source comes from the walk through the source. -/
theorem lower_of_source {g : Graph} {sink m : Node} {out : String}
    (hsink : g.outputNode? = some sink) (h : g.source? sink.id "value" = some (m, out))
    (useWorldPos : Bool) :
    (lower g useWorldPos).stmts =
        Slot.statements 0 (Lowering.visit g g.nodes.length m {}).slots ∧
      (lower g useWorldPos).result =
        match Lowering.outlet? (Lowering.visit g g.nodes.length m {}) m out with
        | some (e, t) => .value (e.coerce t .scalar)
        | none => .zero := by
  obtain ⟨c, hc, h⟩ := Option.bind_eq_some_iff.mp h
  obtain ⟨n, hn, heq⟩ := Option.map_eq_some_iff.mp h
  obtain ⟨rfl, rfl⟩ := Prod.mk.inj heq
  unfold lower
  simp only [hsink, hc, Lowering.source, hn]
  constructor <;> trivial

/-- A source that is no output node gives the height of the program: the number that leaves it. -/
theorem height?_lower_of_feeder {g : Graph} (hg : g.Acyclic) {sink m : Node} {out : String}
    (hsink : g.outputNode? = some sink) (h : g.source? sink.id "value" = some (m, out))
    (hlive : g.Live m) (useWorldPos : Bool) (s : Sample) :
    (lower g useWorldPos).height? s =
      some (Number.clampUnit (Graph.outlet hg s ⟨m, hlive⟩ out).toScalar) := by
  obtain ⟨hstmts, hresult⟩ := lower_of_source hsink h useWorldPos
  have hsettled := Lowering.visit_settled (n := ⟨m, hlive⟩) (fun _ hx => absurd hx List.not_mem_nil)
    (Walk.Enough.init g) (Walk.Settled.init hg s ((lower g useWorldPos).run s))
    (Walk.solves_run (wellFormed_lower g useWorldPos) hstmts s)
  have hvisited := Lowering.mem_visited_visit (Walk.Enough.init g) (Graph.node?_source h)
  have hholds := (hsettled.holds ⟨m, hlive⟩ hvisited).resolve_left List.not_mem_nil
  obtain ⟨p, hp, heval⟩ := Lowering.eval_outlet? hholds out
  have hview := Expr.eval_coerce ((lower g useWorldPos).run s) s p.1 p.2 .scalar
  simp only [heval, Signal.as, Signal.scalar.injEq] at hview
  rw [hp] at hresult
  rw [Program.height?, Program.resultOver?, hresult]
  simp only [hview]

/-- On an acyclic graph, the program computes what the graph means. -/
theorem height?_lower {g : Graph} (hg : g.Acyclic) (useWorldPos : Bool) (s : Sample) :
    (lower g useWorldPos).height? s = g.meaning hg s := by
  cases hsink : g.outputNode? with
  | none =>
    rw [Graph.meaning_of_no_sink hg s hsink]
    simp only [lower, hsink]
    rfl
  | some sink =>
    have htype : sink.kind.type = .output := by simpa using List.find?_some hsink
    have hkind : sink.kind = .output := by cases hk : sink.kind <;> simp_all [NodeKind.type]
    have hinput : sink.kind.inputType? "value" = some .scalar := by rw [hkind]; rfl
    have hfeeder := Graph.feeder?_of_mem (g := g) hinput
    cases hsource : g.source? sink.id "value" with
    | none =>
      rw [hsource, Option.filter_none] at hfeeder
      rw [height?_lower_of_none hsink hsource, Graph.meaning_of_no_feeder hg s hsink hfeeder]
    | some src =>
      obtain ⟨m, out⟩ := src
      by_cases hm : m.kind = .output
      · rw [hsource, Option.filter_some, if_neg (by simp [hm])] at hfeeder
        have hresult := (lower_of_source hsink hsource useWorldPos).2
        simp only [Lowering.outlet?, hm, NodeKind.outputs, List.lookup_nil, List.head?_nil]
          at hresult
        rw [Graph.meaning_of_no_feeder hg s hsink hfeeder, Program.height?, Program.resultOver?,
          hresult]
      · -- everything that is visited is live, because the source of the sink is
        rw [hsource, Option.filter_some, if_pos (by simp [hm])] at hfeeder
        have hlive : g.Live m := ⟨sink, hsink, .single ⟨_, _, hfeeder⟩⟩
        rw [height?_lower_of_feeder hg hsink hsource hlive,
          Graph.meaning_of_feeder hg s hsink hfeeder hlive]

/-- The product of the time with a component of a vector that is made of the time too. -/
def Graph.twiceTime : Graph where
  nodes := [⟨"t", .time 1, [], 0, 0⟩, ⟨"v", .combineXyz ⟨0, 0.25, 0⟩, [], 0, 0⟩,
    ⟨"m", .math .multiply 1, [], 0, 0⟩, ⟨"o", .output, [], 0, 0⟩]
  connections := [.between "t" "value" "v" "x", .between "v" "x" "m" "a",
    .between "t" "value" "m" "b", .between "m" "value" "o" "value"]

theorem height?_lower_twiceTime : ∃ hg : Graph.twiceTime.Acyclic,
    (lower .twiceTime false).height? ⟨0.5, Vec3.zero⟩ =
        Graph.twiceTime.meaning hg ⟨0.5, Vec3.zero⟩ ∧
      Graph.twiceTime.meaning hg ⟨0.5, Vec3.zero⟩ = some 0.25 := by
  have hg : Graph.twiceTime.Acyclic :=
    Graph.Acyclic.of_rank (fun id => ["t", "v", "m", "o"].idxOf id) (by decide)
  have h := height?_lower hg false ⟨0.5, Vec3.zero⟩
  refine ⟨hg, h, ?_⟩
  rw [← h]
  decide +kernel

end Heightfield
