import Heightfield.Program.Lowering
import Heightfield.Proofs.Graph.Source
import Mathlib.Data.List.Perm.Subperm

/-!
# The walk of the lowering

What holds of every walk, whatever the graph: it only grows, it never adds to an id that has been
visited before, and it has steps enough to visit what it reaches.

* `Walk.Grows` is what one visit, and so any number of them, does to a walk.
* `Lowering.inputs_rel` carries a relation of walks from one visit to a row of inputs.
* `Walk.Enough` says that the steps suffice: a walk without steps has visited every id.
* `lower_cases` says which walk the program of a graph comes from.
-/

namespace Heightfield

/-- What a slot binds, without its owner and its name. -/
def Slot.definition (slot : Slot) : Definition := ⟨slot.socket, slot.type, slot.expr⟩

namespace Walk

variable {w w' w'' : Walk} {id : String}

/-! ## Adding definitions -/

@[simp] theorem visited_enter (w : Walk) (id : String) : (w.enter id).visited = id :: w.visited :=
  rfl

@[simp] theorem visited_defineAll (w : Walk) (id : String) (ds : List Definition) :
    (w.defineAll id ds).visited = w.visited := by
  induction ds generalizing w with
  | nil => rfl
  | cons d rest ih => exact ih (w.define id d)

/-- Definitions become slots of their node, in order, behind the slots that are there. -/
theorem slots_defineAll (w : Walk) (id : String) (ds : List Definition) :
    ∃ added, (w.defineAll id ds).slots = w.slots ++ added ∧ added.map Slot.definition = ds ∧
      ∀ slot ∈ added, slot.node = id := by
  induction ds generalizing w with
  | nil => exact ⟨[], by simp [defineAll]⟩
  | cons d rest ih =>
    obtain ⟨added, hslots, hdefs, hnode⟩ := ih (w.define id d)
    let name := Identifier.fresh (w.slots.map (·.name)) (Identifier.base id d.socket)
    refine ⟨⟨id, d.socket, name, d.type, d.expr⟩ :: added, ?_, ?_, ?_⟩
    · have hcons : w.defineAll id (d :: rest) = (w.define id d).defineAll id rest := rfl
      rw [hcons, hslots, define, List.append_assoc, List.singleton_append]
    · rw [List.map_cons, hdefs]
      rfl
    · intro slot hslot
      rcases List.mem_cons.mp hslot with rfl | hslot
      · rfl
      · exact hnode slot hslot

/-! ## Growth -/

/-- A walk goes on to another: ids are only added, and so are slots, for ids that had not been
visited. -/
structure Grows (w w' : Walk) : Prop where
  visited : w.visited <:+ w'.visited
  slots : ∃ added, w'.slots = w.slots ++ added ∧ ∀ slot ∈ added, slot.node ∉ w.visited

theorem Grows.refl (w : Walk) : w.Grows w :=
  ⟨List.suffix_refl _, [], (List.append_nil _).symm, by simp⟩

theorem Grows.trans (h : w.Grows w') (h' : w'.Grows w'') : w.Grows w'' := by
  obtain ⟨added, hslots, hfresh⟩ := h.slots
  obtain ⟨added', hslots', hfresh'⟩ := h'.slots
  refine ⟨h.visited.trans h'.visited, added ++ added', ?_, ?_⟩
  · rw [hslots', hslots, List.append_assoc]
  · intro slot hslot
    rcases List.mem_append.mp hslot with hslot | hslot
    · exact hfresh slot hslot
    · exact fun hmem => hfresh' slot hslot (h.visited.subset hmem)

theorem Grows.enter (w : Walk) (id : String) : w.Grows (w.enter id) :=
  ⟨List.suffix_cons _ _, [], (List.append_nil _).symm, by simp⟩

/-- Between entering an id and adding its definitions, a walk may grow. -/
theorem Grows.leave (hid : id ∉ w.visited) (h : (w.enter id).Grows w') (ds : List Definition) :
    w.Grows (w'.defineAll id ds) := by
  obtain ⟨added, hslots, hfresh⟩ := ((Grows.enter w id).trans h).slots
  obtain ⟨new, hnew, -, hnode⟩ := slots_defineAll w' id ds
  refine ⟨?_, added ++ new, ?_, ?_⟩
  · rw [visited_defineAll]
    exact (List.suffix_cons _ _).trans h.visited
  · rw [hnew, hslots, List.append_assoc]
  · intro slot hslot
    rcases List.mem_append.mp hslot with hslot | hslot
    · exact hfresh slot hslot
    · rw [hnode slot hslot]
      exact hid

/-- Slots that are there stay where they are. -/
theorem Grows.getElem? (h : w.Grows w') {k : Nat} {slot : Slot} (hk : w.slots[k]? = some slot) :
    w'.slots[k]? = some slot := by
  obtain ⟨added, hslots, -⟩ := h.slots
  rw [hslots, List.getElem?_append_left (List.getElem?_eq_some_iff.mp hk).1, hk]

/-- Nothing is added to an id that has been visited. -/
theorem Grows.bound? (h : w.Grows w') (hid : id ∈ w.visited) (socket : String) :
    w'.bound? id socket = w.bound? id socket := by
  obtain ⟨added, hslots, hfresh⟩ := h.slots
  have hnone : added.findIdx? (fun slot => slot.node = id && slot.socket = socket) = none := by
    rw [List.findIdx?_eq_none_iff]
    intro slot hslot
    have hne : slot.node ≠ id := fun heq => hfresh slot hslot (by rw [heq]; exact hid)
    simp [hne]
  rw [Walk.bound?, hslots, List.findIdx?_append, hnone]
  simp [Walk.bound?]

/-! ## Steps enough -/

/-- The steps that are left suffice: the visited ids are distinct ids of the graph, and with the
steps they are as many as there are nodes. -/
structure Enough (g : Graph) (fuel : Nat) (w : Walk) : Prop where
  nodup : w.visited.Nodup
  known : ∀ id ∈ w.visited, id ∈ g.nodes.map (·.id)
  count : g.nodes.length ≤ fuel + w.visited.length

variable {g : Graph} {fuel : Nat}

theorem Enough.init (g : Graph) : Enough g g.nodes.length {} :=
  ⟨List.nodup_nil, by simp, Nat.le_refl _⟩

/-- Without a step left, every id has been visited. -/
theorem Enough.mem_visited (h : w.Enough g 0) {n : Node} (hn : g.node? id = some n) :
    id ∈ w.visited := by
  have hsub : w.visited.Subperm (g.nodes.map (·.id)) := List.subperm_of_subset h.nodup h.known
  have hlen : (g.nodes.map (·.id)).length ≤ w.visited.length := by
    have := h.count
    rw [List.length_map]
    omega
  have hmem : n.id ∈ g.nodes.map (·.id) := List.mem_map_of_mem (List.mem_of_find?_eq_some hn)
  rw [← Graph.node?_id hn]
  -- distinct ids of the graph, as many as it has nodes, are all of them
  exact (hsub.perm_of_length_le hlen).mem_iff.mpr hmem

/-- Entering a new id takes one step. -/
theorem Enough.enter (h : w.Enough g (fuel + 1)) (hid : id ∉ w.visited) {n : Node}
    (hn : g.node? id = some n) : (w.enter id).Enough g fuel := by
  refine ⟨List.nodup_cons.mpr ⟨hid, h.nodup⟩, ?_, ?_⟩
  · intro id' hmem
    rcases List.mem_cons.mp hmem with rfl | hmem
    · rw [← Graph.node?_id hn]
      exact List.mem_map_of_mem (List.mem_of_find?_eq_some hn)
    · exact h.known id' hmem
  · have := h.count
    rw [visited_enter, List.length_cons]
    omega

theorem Enough.defineAll (h : w.Enough g fuel) (id : String) (ds : List Definition) :
    (w.defineAll id ds).Enough g (fuel + 1) := by
  refine ⟨?_, ?_, ?_⟩ <;> rw [visited_defineAll]
  · exact h.nodup
  · exact h.known
  · have := h.count
    omega

end Walk

namespace Lowering

variable {g : Graph}

/-! ## Inputs -/

section Inputs

variable {visit : Node → Walk → Walk} {id socket : String}

/-- An input without a source reads nothing. -/
theorem input_of_none (h : g.source? id socket = none) (expected : SocketType) (w : Walk) :
    input visit g id socket expected w = (none, w) := by
  unfold input
  cases hc : g.incoming? id socket with
  | none => rfl
  | some c =>
    rw [Graph.source?, hc, Option.bind_some, Option.map_eq_none_iff] at h
    simp only [source, h, Option.map_none]

/-- An input with a source visits it and reads its output, in the type that is expected. -/
theorem input_of_some {n : Node} {out : String} (h : g.source? id socket = some (n, out))
    (expected : SocketType) (w : Walk) :
    input visit g id socket expected w =
      ((outlet? (visit n w) n out).map fun p => p.1.coerce p.2 expected, visit n w) := by
  unfold input
  obtain ⟨c, hc, h⟩ := Option.bind_eq_some_iff.mp h
  obtain ⟨m, hm, heq⟩ := Option.map_eq_some_iff.mp h
  obtain ⟨rfl, rfl⟩ := Prod.mk.inj heq
  simp only [hc, source, hm]

/-- What visits do to a walk, reading a row of inputs does. -/
theorem inputs_rel (id : String) {R : Walk → Walk → Prop} (refl : ∀ w, R w w)
    (trans : ∀ {a b c}, R a b → R b c → R a c)
    (hvisit : ∀ n w, g.node? n.id = some n → R w (visit n w))
    (sockets : List (String × SocketType)) (w : Walk) :
    R w (inputs visit g id sockets w).2 := by
  induction sockets generalizing w with
  | nil => exact refl w
  | cons p rest ih =>
    -- the first input, then the others over what it leaves behind
    refine trans ?_ (ih (input visit g id p.1 p.2 w).2)
    cases h : g.source? id p.1 with
    | none =>
      rw [input_of_none h]
      exact refl w
    | some src =>
      rw [input_of_some h]
      exact hvisit src.1 w (Graph.node?_source h)

/-- Reading a row of inputs only lets the walk grow, if visits do. -/
theorem inputs_grows (id : String) (hvisit : ∀ n w, Walk.Grows w (visit n w))
    (sockets : List (String × SocketType)) (w : Walk) :
    w.Grows (inputs visit g id sockets w).2 :=
  inputs_rel id Walk.Grows.refl Walk.Grows.trans (fun n w _ => hvisit n w) sockets w

end Inputs

/-! ## Visits -/

/-- A node whose id has been visited is left alone. -/
theorem visit_of_mem {n : Node} {w : Walk} (h : n.id ∈ w.visited) (fuel : Nat) :
    visit g fuel n w = w := by
  cases fuel with
  | zero => rfl
  | succ fuel => rw [visit, if_pos (List.contains_iff_mem.mpr h)]

/-- A node whose id is new is entered, its inputs are read, and its definitions are added. -/
theorem visit_of_not_mem {n : Node} {w : Walk} (h : n.id ∉ w.visited) (fuel : Nat) :
    visit g (fuel + 1) n w =
      let r := inputs (visit g fuel) g n.id n.kind.operands (w.enter n.id)
      r.2.defineAll n.id (n.kind.block r.2.slots.length fun socket => r.1.lookup socket) := by
  rw [visit, if_neg (by rwa [List.contains_iff_mem])]

theorem visit_grows (fuel : Nat) (n : Node) (w : Walk) : w.Grows (visit g fuel n w) := by
  induction fuel generalizing n w with
  | zero => exact Walk.Grows.refl w
  | succ fuel ih =>
    by_cases hid : n.id ∈ w.visited
    · rw [visit_of_mem hid]
      exact Walk.Grows.refl w
    · rw [visit_of_not_mem hid]
      exact Walk.Grows.leave hid (inputs_grows n.id ih _ _) _

/-- After its visit the id of a node has been visited. -/
theorem mem_visited_visit {fuel : Nat} {n : Node} {w : Walk} (h : w.Enough g fuel)
    (hn : g.node? n.id = some n) : n.id ∈ (visit g fuel n w).visited := by
  by_cases hid : n.id ∈ w.visited
  · rw [visit_of_mem hid]
    exact hid
  · cases fuel with
    | zero => exact absurd (h.mem_visited hn) hid
    | succ fuel =>
      rw [visit_of_not_mem hid, Walk.visited_defineAll]
      exact (inputs_grows n.id (visit_grows fuel) _ _).visited.subset List.mem_cons_self

/-- The steps that suffice before a visit suffice after it. -/
theorem visit_enough {fuel : Nat} {n : Node} {w : Walk} (h : w.Enough g fuel)
    (hn : g.node? n.id = some n) : (visit g fuel n w).Enough g fuel := by
  induction fuel generalizing n w with
  | zero => exact h
  | succ fuel ih =>
    by_cases hid : n.id ∈ w.visited
    · rw [visit_of_mem hid]
      exact h
    · have hvisit : ∀ m w, g.node? m.id = some m → w.Enough g fuel →
          (visit g fuel m w).Enough g fuel := fun m w hm hw => ih hw hm
      have hinputs := inputs_rel n.id (R := fun w w' => w.Enough g fuel → w'.Enough g fuel)
        (fun _ h => h) (fun h h' hw => h' (h hw)) hvisit n.kind.operands (w.enter n.id)
        (h.enter hid hn)
      rw [visit_of_not_mem hid]
      exact hinputs.defineAll _ _

end Lowering

/-! ## The program of a walk -/

/-- The program that a walk leaves behind. -/
def Walk.program (w : Walk) (result : ProgramResult) (useWorldPos : Bool) : Program where
  vars := w.slots.map fun slot => ⟨slot.name, slot.type⟩
  stmts := Slot.statements 0 w.slots
  result := result
  useWorldPos := useWorldPos

@[simp] theorem Walk.vars_program (w : Walk) (result : ProgramResult) (useWorldPos : Bool) :
    (w.program result useWorldPos).vars = w.slots.map fun slot => ⟨slot.name, slot.type⟩ := rfl

@[simp] theorem Walk.stmts_program (w : Walk) (result : ProgramResult) (useWorldPos : Bool) :
    (w.program result useWorldPos).stmts = Slot.statements 0 w.slots := rfl

/-- A graph is lowered to a constant, or else to what the visit of one of its nodes leaves behind,
with what a socket of the node holds as the result. -/
theorem lower_cases (g : Graph) (useWorldPos : Bool) :
    (∃ result, (∀ e, result ≠ .value e) ∧
      lower g useWorldPos = .constant result useWorldPos) ∨
    ∃ n result, g.node? n.id = some n ∧
      lower g useWorldPos =
        (Lowering.visit g g.nodes.length n {}).program result useWorldPos ∧
      ∀ e, result = .value e → ∃ socket p,
        Lowering.outlet? (Lowering.visit g g.nodes.length n {}) n socket = some p ∧
          e = p.1.coerce p.2 .scalar := by
  unfold lower
  cases g.outputNode? with
  | none => exact .inl ⟨.errorColor, by simp, rfl⟩
  | some out =>
    dsimp only
    cases g.incoming? out.id "value" with
    | none => exact .inl ⟨.zero, by simp, rfl⟩
    | some c =>
      cases hn : g.node? c.fromNode with
      | none =>
        simp only [Lowering.source, hn]
        exact .inl ⟨.zero, by simp, rfl⟩
      | some n =>
        simp only [Lowering.source, hn]
        refine .inr ⟨n, _, Graph.node?_self hn, rfl, fun e he => ⟨c.fromSocket, ?_⟩⟩
        split at he
        next e' t hp =>
          obtain rfl := ProgramResult.value.inj he
          exact ⟨(e', t), hp, rfl⟩
        next => cases he

theorem useWorldPos_lower (g : Graph) (useWorldPos : Bool) :
    (lower g useWorldPos).useWorldPos = useWorldPos := by
  obtain ⟨result, -, heq⟩ | ⟨n, result, -, heq, -⟩ := lower_cases g useWorldPos <;> rw [heq] <;> rfl

end Heightfield
