import Heightfield.Proofs.Program.BackEdge
import Heightfield.Proofs.Program.Result

/-!
# The socket table against the lowering

The table of outputs gives a type to a socket of any name, and the lowering reads a socket of any
name: both know the names in the table, the components of a vector and the primary output, but they
look for them in a different order. They agree, except about the names of components on an output
node. There the table speaks of a number, but nothing leaves the node.

* `Lowering.Reached` are the walks that a lowering comes through, with the nodes in progress.
* `Walk.Supplied` says that the nodes that are complete have a variable for each output socket, and
  `Lowering.Reached.supplied` that this is so in all of these walks.
* `Lowering.map_snd_outlet?` compares the table with what a socket holds.
* `Lowering.outputType?_source` is the result for connections.
-/

namespace Heightfield

/-! ## Complete nodes -/

/-- The nodes that have been visited and are not on the stack have a variable for each of their
output sockets. -/
def Walk.Supplied (g : Graph) (stack : List String) (w : Walk) : Prop :=
  ∀ n, g.node? n.id = some n → n.id ∈ w.visited → n.id ∉ stack →
    ∀ p ∈ n.kind.outputs, (w.bound? n.id p.1).isSome = true

/-- A socket that has a variable keeps one while another node is completed. -/
theorem Walk.isSome_bound?_of_complete {w : Walk} {id socket : String}
    (h : (w.bound? id socket).isSome = true) (n : Node) (found : List (String × Expr)) :
    ((w.complete n found).bound? id socket).isSome = true := by
  obtain ⟨block, hslots, -⟩ := w.exists_block n found
  rw [bound?, List.findIdx?_isSome] at h ⊢
  rw [hslots, List.any_append, h, Bool.true_or]

namespace Walk.Supplied

variable {g : Graph} {stack : List String} {w : Walk} {n : Node}

theorem init (g : Graph) : Supplied g [] {} := by
  intro n _ hvisited
  cases hvisited

/-- A node that is entered is in progress, and the others stay as they are. -/
theorem enter (h : w.Supplied g stack) (id : String) : (w.enter id).Supplied g (id :: stack) := by
  intro m hm hvisited hstack p hp
  obtain ⟨hne, hstack⟩ := not_or.mp (mt List.mem_cons.mpr hstack)
  exact h m hm ((List.mem_cons.mp hvisited).resolve_left hne) hstack p hp

/-- A node that is completed gets its variables. -/
theorem complete (h : w.Supplied g (n.id :: stack)) (hn : g.node? n.id = some n)
    (found : List (String × Expr)) : (w.complete n found).Supplied g stack := by
  intro m hm hvisited hstack p hp
  rw [visited_complete] at hvisited
  by_cases heq : m.id = n.id
  · obtain rfl : m = n := Option.some.inj (hm.symm.trans (heq ▸ hn))
    exact w.isSome_bound?_complete m found (m.kind.outputs_subset_bindings hp)
  · have hstack' : m.id ∉ n.id :: stack := fun hmem => (List.mem_cons.mp hmem).elim heq hstack
    exact isSome_bound?_of_complete (h m hm hvisited hstack' p hp) n found

end Walk.Supplied

namespace Lowering

variable {g : Graph} {stack : List String} {w : Walk} {n : Node} {fuel : Nat}

/-- A visit completes all that it enters: the nodes in progress are the same as before, and all
others have their variables. -/
theorem visit_supplied (fuel : Nat) (hn : g.node? n.id = some n)
    (h : w.InProgress stack ∧ w.Supplied g stack) :
    (visit g fuel n w).InProgress stack ∧ (visit g fuel n w).Supplied g stack := by
  induction fuel generalizing n w stack with
  | zero => exact h
  | succ fuel ih =>
    obtain ⟨hprogress, hsupplied⟩ := h
    by_cases hid : n.id ∈ w.visited
    · rw [visit_of_mem hid]
      exact ⟨hprogress, hsupplied⟩
    · have hinputs := inputs_rel n.id
        (R := fun w w' => w.InProgress (n.id :: stack) ∧ w.Supplied g (n.id :: stack) →
          w'.InProgress (n.id :: stack) ∧ w'.Supplied g (n.id :: stack))
        (fun _ h => h) (fun h h' hw => h' (h hw)) (fun m w hm => ih hm) n.kind.operands
        (w.enter n.id)
      obtain ⟨hprogress', hsupplied'⟩ :=
        hinputs ⟨inProgress_enter hprogress hid, hsupplied.enter n.id⟩
      have hoff : n.id ∉ stack := fun hmem => hid (hprogress.visited _ hmem)
      rw [visit_of_not_mem hid]
      exact ⟨inProgress_complete hprogress' hoff _, hsupplied'.complete hn _⟩

/-! ## The walks of a lowering -/

/-- The walks that a lowering comes through, with the ids of the nodes in progress: a node is
entered, or visited to its end. -/
inductive Reached (g : Graph) : List String → Walk → Prop
  | start : Reached g [] {}
  | enter {stack : List String} {w : Walk} {n : Node} (h : Reached g stack w)
      (hn : g.node? n.id = some n) (hnew : n.id ∉ w.visited) :
      Reached g (n.id :: stack) (w.enter n.id)
  | visit {stack : List String} {w : Walk} {n : Node} {fuel : Nat} (h : Reached g stack w)
      (hn : g.node? n.id = some n) (henough : w.Enough g fuel) :
      Reached g stack (visit g fuel n w)

namespace Reached

/-- Between the inputs of a node the walk is one of these, so every connection is read in one. -/
theorem inputs (h : Reached g stack w) (henough : w.Enough g fuel) (id : String)
    (row : List (String × SocketType)) :
    Reached g stack (Lowering.inputs (Lowering.visit g fuel) g id row w).2 := by
  have hvisit (n : Node) (w : Walk) (hn : g.node? n.id = some n)
      (hw : Reached g stack w ∧ w.Enough g fuel) :
      Reached g stack (Lowering.visit g fuel n w) ∧ (Lowering.visit g fuel n w).Enough g fuel :=
    ⟨hw.1.visit hn hw.2, visit_enough hw.2 hn⟩
  have hrel := inputs_rel id
    (R := fun w w' => Reached g stack w ∧ w.Enough g fuel → Reached g stack w' ∧ w'.Enough g fuel)
    (fun _ h => h) (fun h h' hw => h' (h hw)) hvisit row w
  exact (hrel ⟨h, henough⟩).1

theorem supplied (h : Reached g stack w) : w.InProgress stack ∧ w.Supplied g stack := by
  induction h with
  | start => exact ⟨inProgress_init, .init g⟩
  | enter _ _ hnew ih => exact ⟨inProgress_enter ih.1 hnew, ih.2.enter _⟩
  | visit _ hn _ ih => exact visit_supplied _ hn ih

theorem wellTyped (h : Reached g stack w) : w.WellTyped g := by
  induction h with
  | start => exact .init g
  | enter _ _ _ ih => exact ih.enter _
  | visit _ hn _ ih => exact visit_wellTyped _ hn ih

end Reached

/-! ## The table -/

/-- The names of components are the letters that the table looks for. -/
theorem isSome_ofLetter? (socket : String) :
    (Axis.ofLetter? socket).isSome = (socket = "x" || socket = "y" || socket = "z") := by
  unfold Axis.ofLetter?
  split <;> simp_all

/-- **The table gives the type of what a socket holds**, if the node has all its variables and is no
output node. -/
theorem map_snd_outlet? (hn : n.kind ≠ .output)
    (hbound : ∀ p ∈ n.kind.outputs, (w.bound? n.id p.1).isSome = true) (socket : String) :
    (outlet? w n socket).map (·.2) = n.kind.outputType? socket := by
  unfold outlet? NodeKind.outputType?
  rw [← isSome_ofLetter?]
  cases hlookup : n.kind.outputs.lookup socket with
  | some t =>
    obtain ⟨i, hi⟩ := Option.isSome_iff_exists.mp (hbound (socket, t) (mem_of_lookup hlookup))
    simp [hi]
  | none =>
    cases hhead : n.kind.outputs.head? with
    | none => cases hkind : n.kind <;> simp_all [NodeKind.outputs]
    | some primary =>
      obtain ⟨i, hi⟩ := Option.isSome_iff_exists.mp (hbound primary (List.mem_of_head? hhead))
      -- a letter selects a component of a vector, and stands for the number itself otherwise
      cases htype : primary.2 <;> cases haxis : Axis.ofLetter? socket <;> simp_all

/-- On an output node the table knows the names of components only. -/
theorem outputType?_output (hn : n.kind = .output) (socket : String) (t : SocketType) :
    n.kind.outputType? socket = some t ↔ (Axis.ofLetter? socket).isSome = true ∧ t = .scalar := by
  rw [NodeKind.outputType?, hn, ← isSome_ofLetter?]
  cases Axis.ofLetter? socket <;> simp [NodeKind.outputs, eq_comm]

/-! ## Connections -/

/-- A connection is read by visiting the node that it comes from. -/
theorem source_eq {c : Connection} (hn : g.node? c.fromNode = some n)
    (visit : Node → Walk → Walk) (w : Walk) :
    source visit g c w = (outlet? (visit n w) n c.fromSocket, visit n w) := by
  simp only [source, hn]

/-- **The table agrees with the lowering**, but for output nodes. In every walk that a lowering
comes through, and from every node that is not in progress, a connection gives a value of a type if
and only if the table has that type for the socket. The exception is the names of components on an
output node: the table has a type for them, but nothing is read from the node. The value has its
type over the variables that are there then. Nothing is read from a node in progress. -/
theorem outputType?_source (h : Reached g stack w) {c : Connection}
    (hn : g.node? c.fromNode = some n) (henough : w.Enough g fuel) :
    (n.id ∉ stack → ∀ t, n.kind.outputType? c.fromSocket = some t ↔
      (∃ e, (source (visit g fuel) g c w).1 = some (e, t)) ∨
        n.kind = .output ∧ (Axis.ofLetter? c.fromSocket).isSome = true ∧ t = .scalar) ∧
    (n.kind = .output ∨ n.id ∈ stack → (source (visit g fuel) g c w).1 = none) ∧
    ∀ e t, (source (visit g fuel) g c w).1 = some (e, t) →
      e.HasType (source (visit g fuel) g c w).2.types t := by
  have hself := Graph.node?_self hn
  have hafter : Reached g stack (visit g fuel n w) := h.visit hself henough
  obtain ⟨hprogress, hsupplied⟩ := hafter.supplied
  rw [source_eq hn]
  dsimp only
  refine ⟨fun hstack t => ?_, fun hnone => ?_, fun e t he => ?_⟩
  · by_cases hkind : n.kind = .output
    · rw [outputType?_output hkind, outlet?_of_output _ hkind]
      simp [hkind]
    · have hbound := hsupplied n hself (mem_visited_visit henough hself) hstack
      rw [← map_snd_outlet? hkind hbound, Option.map_eq_some_iff]
      simp [hkind]
  · rcases hnone with hkind | hstack
    · exact outlet?_of_output _ hkind _
    · exact Option.map_eq_none_iff.mp (read?_of_mem_stack hprogress hstack c.fromSocket .scalar)
  · exact outlet?_hasType hafter.wellTyped hself he

/-- The second operator is read while the first one is in progress. -/
theorem outputType?_source_knot :
    Reached Graph.knot ["p"] (({} : Walk).enter "p") ∧
    (∃ e, (source (visit .knot 2) .knot (.between "q" "x" "p" "a")
      (({} : Walk).enter "p")).1 = some (e, .scalar)) ∧
    (source (visit .knot 2) .knot (.between "p" "value" "q" "a")
      (({} : Walk).enter "p")).1 = none := by
  have hreached : Reached Graph.knot ["p"] (({} : Walk).enter "p") :=
    Reached.start.enter (n := ⟨"p", .math .add 1, [], 0, 0⟩) rfl (by decide)
  have henough : (({} : Walk).enter "p").Enough .knot 2 := ⟨by decide, by decide, by decide⟩
  obtain ⟨hagree, -⟩ := outputType?_source hreached (c := .between "q" "x" "p" "a") rfl henough
  obtain ⟨-, hnone, -⟩ :=
    outputType?_source hreached (c := .between "p" "value" "q" "a") rfl henough
  refine ⟨hreached, ?_, hnone (.inr (by decide))⟩
  exact ((hagree (by decide) .scalar).mp rfl).resolve_right (by decide)

/-- The table has a type for a socket of an output node, but nothing is read from it after its
visit is over. -/
theorem outputType?_output_ne_source :
    Graph.lone.node? "o" = some ⟨"o", .output, [], 0, 0⟩ ∧
    NodeKind.output.outputType? "x" = some .scalar ∧
    (visit .lone 1 ⟨"o", .output, [], 0, 0⟩ {}).visited = ["o"] ∧
    (source (visit .lone 1) .lone (.between "o" "x" "o" "value")
      (visit .lone 1 ⟨"o", .output, [], 0, 0⟩ {})).1 = none := by
  decide

end Lowering
end Heightfield
