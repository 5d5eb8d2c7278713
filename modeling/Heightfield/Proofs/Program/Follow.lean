import Heightfield.Proofs.Program.Walk

/-!
# Following the connections

The walk of the lowering as a relation, with the ids of the nodes that are still in progress in
sight and without a bound on the steps. Going through the inputs of a node, the walk finds that
nothing feeds an input, or that a node feeds it which is in progress, is complete, or is new.

* `Lowering.Follows` is the relation. It lists the inputs whose source is in progress when the walk
  comes to them.
* `Lowering.exists_follows` says that the walk ends, whatever the graph.
* `Lowering.Follows.inputs_eq` says that the lowering walks just so.
* `Lowering.Follows.decides` says which inputs may be listed.
* `Graph.Walks` is the walk of a graph, and `lower_eq_program` its program.
-/

namespace Heightfield

/-- Completes the visit of a node: adds its definitions over what its inputs read. -/
def Walk.complete (w : Walk) (n : Node) (found : List (String × Expr)) : Walk :=
  w.defineAll n.id (n.kind.block w.slots.length fun socket => found.lookup socket)

@[simp] theorem Walk.visited_complete (w : Walk) (n : Node) (found : List (String × Expr)) :
    (w.complete n found).visited = w.visited :=
  visited_defineAll _ _ _

/-- Between entering a node and completing it, a walk may grow. -/
theorem Walk.Grows.complete {w w' : Walk} {n : Node} (hid : n.id ∉ w.visited)
    (h : (w.enter n.id).Grows w') (found : List (String × Expr)) :
    w.Grows (w'.complete n found) :=
  Grows.leave hid h _

namespace Lowering

/-- What an input reads from a node that has been visited, in the type that is expected. -/
def read? (w : Walk) (n : Node) (out : String) (expected : SocketType) : Option Expr :=
  (outlet? w n out).map fun p => p.1.coerce p.2 expected

/-- What an input reads, if anything, under its name. -/
def listed (socket : String) (e? : Option Expr) (found : List (String × Expr)) :
    List (String × Expr) :=
  match e? with
  | some e => (socket, e) :: found
  | none => found

/-- Reading a row of inputs of the node `id` takes a walk to another and finds expressions. The
nodes on the stack are in progress, and the inputs that they feed are listed last. -/
inductive Follows (g : Graph) : List String → String → List (String × SocketType) → Walk →
    List (String × Expr) → Walk → List (String × String) → Prop
  | nil (stack : List String) (id : String) (w : Walk) : Follows g stack id [] w [] w []
  /-- nothing feeds the input -/
  | unfed {stack id socket t rest w found w' back}
      (hsource : g.source? id socket = none)
      (hrest : Follows g stack id rest w found w' back) :
      Follows g stack id ((socket, t) :: rest) w found w' back
  /-- the input is fed by a node in progress -/
  | back {stack id socket t rest w found w' back m out}
      (hsource : g.source? id socket = some (m, out)) (hvisited : m.id ∈ w.visited)
      (hstack : m.id ∈ stack)
      (hrest : Follows g stack id rest w found w' back) :
      Follows g stack id ((socket, t) :: rest) w (listed socket (read? w m out t) found) w'
        ((id, socket) :: back)
  /-- the input is fed by a node whose visit is over -/
  | known {stack id socket t rest w found w' back m out}
      (hsource : g.source? id socket = some (m, out)) (hvisited : m.id ∈ w.visited)
      (hstack : m.id ∉ stack)
      (hrest : Follows g stack id rest w found w' back) :
      Follows g stack id ((socket, t) :: rest) w (listed socket (read? w m out t) found) w' back
  /-- the input is fed by a node that is visited now -/
  | new {stack id socket t rest w inner w₁ found w' back₁ back₂ m out}
      (hsource : g.source? id socket = some (m, out)) (hnew : m.id ∉ w.visited)
      (hinner : Follows g (m.id :: stack) m.id m.kind.operands (w.enter m.id) inner w₁ back₁)
      (hrest : Follows g stack id rest (w₁.complete m inner) found w' back₂) :
      Follows g stack id ((socket, t) :: rest) w
        (listed socket (read? (w₁.complete m inner) m out t) found) w' (back₁ ++ back₂)

variable {g : Graph} {stack : List String} {id : String} {row : List (String × SocketType)}
  {w w' : Walk} {found : List (String × Expr)} {back : List (String × String)} {fuel : Nat}

/-! ## The walk of the lowering -/

theorem inputs_cons (visit : Node → Walk → Walk) (id socket : String) (t : SocketType)
    (rest : List (String × SocketType)) (w : Walk) :
    inputs visit g id ((socket, t) :: rest) w =
      let (e?, w) := input visit g id socket t w
      let (found, w) := inputs visit g id rest w
      (listed socket e? found, w) := by
  rw [inputs]
  cases (input visit g id socket t w).1 <;> rfl

theorem visit_eq_complete {n : Node} (h : n.id ∉ w.visited) (fuel : Nat)
    (hinputs : inputs (visit g fuel) g n.id n.kind.operands (w.enter n.id) = (found, w')) :
    visit g (fuel + 1) n w = w'.complete n found := by
  rw [visit_of_not_mem h, hinputs]
  rfl

/-- The lowering reads a row of inputs in this way, if its steps suffice. -/
theorem Follows.inputs_eq (h : Follows g stack id row w found w' back)
    (henough : w.Enough g fuel) : inputs (visit g fuel) g id row w = (found, w') := by
  induction h generalizing fuel with
  | nil => rfl
  | unfed hsource _ ih =>
    rw [inputs_cons, input_of_none hsource]
    simp only [ih henough]
    rfl
  | back hsource hvisited _ _ ih | known hsource hvisited _ _ ih =>
    rw [inputs_cons, input_of_some hsource, visit_of_mem hvisited]
    simp only [ih henough]
    rfl
  | new hsource hnew _ _ ihinner ihrest =>
    have hm := Graph.node?_source hsource
    cases fuel with
    | zero => exact absurd (henough.mem_visited hm) hnew
    | succ fuel =>
      have hvisit := visit_eq_complete hnew fuel (ihinner (henough.enter hnew hm))
      have henough' := visit_enough henough hm
      rw [hvisit] at henough'
      rw [inputs_cons, input_of_some hsource, hvisit]
      simp only [ihrest henough']
      rfl

/-- The walk ends: any row of inputs can be read to its end. -/
theorem exists_follows (stack : List String) (id : String) (row : List (String × SocketType))
    (henough : w.Enough g fuel) :
    ∃ found w' back, Follows g stack id row w found w' back ∧ w'.Enough g fuel := by
  induction fuel using Nat.strongRecOn generalizing stack id row w with
  | _ fuel ih =>
  induction row generalizing w with
  | nil => exact ⟨[], w, [], .nil _ _ _, henough⟩
  | cons p rest ihrest =>
    obtain ⟨socket, t⟩ := p
    cases hsource : g.source? id socket with
    | none =>
      obtain ⟨found, w', back, h, henough'⟩ := ihrest henough
      exact ⟨_, _, _, .unfed hsource h, henough'⟩
    | some src =>
      obtain ⟨m, out⟩ := src
      have hm := Graph.node?_source hsource
      by_cases hvisited : m.id ∈ w.visited
      · obtain ⟨found, w', back, h, henough'⟩ := ihrest henough
        by_cases hstack : m.id ∈ stack
        · exact ⟨_, _, _, .back hsource hvisited hstack h, henough'⟩
        · exact ⟨_, _, _, .known hsource hvisited hstack h, henough'⟩
      · -- a visit has one id more behind it, so that one step less is left
        cases fuel with
        | zero => exact absurd (henough.mem_visited hm) hvisited
        | succ fuel =>
          obtain ⟨inner, w₁, back₁, hinner, henough₁⟩ := ih fuel (Nat.lt_succ_self fuel)
            (m.id :: stack) m.id m.kind.operands (henough.enter hvisited hm)
          obtain ⟨found, w', back₂, hrest, henough'⟩ := ihrest (henough₁.defineAll m.id _)
          exact ⟨_, _, _, .new hsource hvisited hinner hrest, henough'⟩

/-! ## What is left behind -/

theorem Follows.grows (h : Follows g stack id row w found w' back) : w.Grows w' := by
  induction h with
  | nil => exact Walk.Grows.refl _
  | unfed _ _ ih | back _ _ _ _ ih | known _ _ _ _ ih => exact ih
  | new _ hnew _ _ ihinner ihrest => exact (ihinner.complete hnew _).trans ihrest

/-- The reading of a row decides about an input: it is of the row, or of a node that is visited
on the way. -/
def Decides (id : String) (row : List (String × SocketType)) (w w' : Walk)
    (input : String × String) : Prop :=
  (input.1 = id ∧ input.2 ∈ row.map (·.1)) ∨ (input.1 ∉ w.visited ∧ input.1 ∈ w'.visited)

/-- What a new node decides about its inputs is about nodes that are visited on the way. -/
theorem Decides.of_inner {n : Node} {input : String × String}
    (h : Decides n.id row (w.enter n.id) w' input) (hnew : n.id ∉ w.visited)
    (hgrows : (w.enter n.id).Grows w') : input.1 ∉ w.visited ∧ input.1 ∈ w'.visited := by
  rcases h with ⟨heq, -⟩ | ⟨hout, hin⟩
  · rw [heq]
    exact ⟨hnew, hgrows.visited.subset List.mem_cons_self⟩
  · exact ⟨fun hmem => hout (List.mem_cons_of_mem _ hmem), hin⟩

/-- What the rest of a row decides about, the row does. -/
theorem Decides.of_rest {p : String × SocketType} {w₁ : Walk} {input : String × String}
    (h : Decides id row w₁ w' input) (hgrows : w.Grows w₁) : Decides id (p :: row) w w' input := by
  rcases h with ⟨heq, hmem⟩ | ⟨hout, hin⟩
  · exact .inl ⟨heq, List.mem_cons_of_mem _ hmem⟩
  · exact .inr ⟨fun hmem => hout (hgrows.visited.subset hmem), hin⟩

/-- The inputs that are listed are among those that are decided about. -/
theorem Follows.decides (h : Follows g stack id row w found w' back) :
    ∀ input ∈ back, Decides id row w w' input := by
  induction h with
  | nil => simp
  | unfed _ _ ih | known _ _ _ _ ih =>
    intro input hinput
    exact (ih input hinput).of_rest (Walk.Grows.refl _)
  | back _ _ _ _ ih =>
    intro input hinput
    rcases List.mem_cons.mp hinput with rfl | hinput
    · exact .inl ⟨rfl, List.mem_cons_self⟩
    · exact (ih input hinput).of_rest (Walk.Grows.refl _)
  | new _ hnew hinner hrest ihinner ihrest =>
    intro input hinput
    rcases List.mem_append.mp hinput with hinput | hinput
    · obtain ⟨hout, hin⟩ := (ihinner input hinput).of_inner hnew hinner.grows
      rw [← Walk.visited_complete] at hin
      exact .inr ⟨hout, hrest.grows.visited.subset hin⟩
    · exact (ihrest input hinput).of_rest (hinner.grows.complete hnew _)

/-- A node reads no input of the name "value" while it is visited: only output nodes have one. -/
theorem ne_value_of_mem_operands {k : NodeKind} : ∀ p ∈ k.operands, p.1 ≠ "value" := by
  cases k <;> simp [NodeKind.operands, NodeKind.inputs]

/-- No input of the name "value" is listed. -/
theorem Follows.snd_ne_value (h : Follows g stack id row w found w' back)
    (hrow : ∀ p ∈ row, p.1 ≠ "value") : ∀ input ∈ back, input.2 ≠ "value" := by
  induction h with
  | nil => simp
  | unfed _ _ ih | known _ _ _ _ ih => exact ih fun p hp => hrow p (List.mem_cons_of_mem _ hp)
  | back _ _ _ _ ih =>
    intro input hinput
    rcases List.mem_cons.mp hinput with rfl | hinput
    · exact hrow _ List.mem_cons_self
    · exact ih (fun p hp => hrow p (List.mem_cons_of_mem _ hp)) input hinput
  | new _ _ _ _ ihinner ihrest =>
    intro input hinput
    rcases List.mem_append.mp hinput with hinput | hinput
    · exact ihinner ne_value_of_mem_operands input hinput
    · exact ihrest (fun p hp => hrow p (List.mem_cons_of_mem _ hp)) input hinput

end Lowering

/-! ## The walk of a graph -/

/-- The walk of a graph reads the input of the sink, if there is one. -/
def Graph.Walks (g : Graph) (found : List (String × Expr)) (w : Walk)
    (back : List (String × String)) : Prop :=
  match g.outputNode? with
  | none => found = [] ∧ w = {} ∧ back = []
  | some sink => Lowering.Follows g [] sink.id [("value", .scalar)] {} found w back

/-- What the program of a graph returns, given what its sink reads. -/
def Graph.resultOf (g : Graph) (found : List (String × Expr)) : ProgramResult :=
  match g.outputNode?, found.lookup "value" with
  | none, _ => .errorColor
  | some _, some e => .value e
  | some _, none => .zero

/-- Every graph is walked to an end. -/
theorem Graph.exists_walks (g : Graph) : ∃ found w back, g.Walks found w back := by
  unfold Walks
  cases g.outputNode? with
  | none => exact ⟨[], {}, [], rfl, rfl, rfl⟩
  | some sink =>
    obtain ⟨found, w, back, h, -⟩ := Lowering.exists_follows [] sink.id [("value", .scalar)]
      (Walk.Enough.init g)
    exact ⟨found, w, back, h⟩

/-- A graph is lowered to what its walk leaves behind. -/
theorem lower_eq_program {g : Graph} {found : List (String × Expr)} {w : Walk}
    {back : List (String × String)} (h : g.Walks found w back) (useWorldPos : Bool) :
    lower g useWorldPos = w.program (g.resultOf found) useWorldPos := by
  unfold Graph.Walks at h
  unfold lower Graph.resultOf
  cases hsink : g.outputNode? with
  | none =>
    rw [hsink] at h
    obtain ⟨rfl, rfl, -⟩ := h
    rfl
  | some sink =>
    rw [hsink] at h
    have hinputs := h.inputs_eq (Walk.Enough.init g)
    rw [Lowering.inputs_cons] at hinputs
    simp only [Lowering.inputs, Prod.mk.injEq] at hinputs
    obtain ⟨rfl, rfl⟩ := hinputs
    simp only [Lowering.input]
    cases hc : g.incoming? sink.id "value" with
    | none =>
      dsimp only
      rfl
    | some c =>
      dsimp only
      cases (Lowering.source (Lowering.visit g g.nodes.length) g c {}).1 <;> rfl

end Heightfield
