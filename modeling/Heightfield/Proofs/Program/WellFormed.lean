import Heightfield.Proofs.Program.Typing
import Heightfield.Proofs.Program.Walk

/-!
# Lowered programs are well formed

Every graph lowers to well-typed single-assignment code, however its nodes and connections are
tangled: a node that is reached again while its own inputs are being read has no slot yet, so the
read finds nothing, and what it finds otherwise is a slot that stands already.

* `Definition.Chain` says that definitions are typed in turn, each over the variables before it.
* `Walk.WellTyped` is the invariant of the walk: its slots are such a chain, and each slot has the
  type that the table of its node gives for its socket.
* `Program.Closed` says that a program refers to its own variables only.
* `lower_wellFormed` is the result for programs.
-/

namespace Heightfield

/-! ## Rows of named things -/

section Rows

variable {α : Type} {row : List (String × α)}

/-- What is found under a name stands in the row. -/
theorem mem_of_lookup {name : String} {a : α} (h : row.lookup name = some a) :
    (name, a) ∈ row := by
  obtain ⟨before, after, rfl, -⟩ := List.lookup_eq_some_iff.mp h
  simp

/-- If the names are distinct, what stands in the row is found under its name. -/
theorem lookup_eq_some_of_mem (h : (row.map (·.1)).Nodup) {p : String × α} (hp : p ∈ row) :
    row.lookup p.1 = some p.2 := by
  induction row with
  | nil => simp at hp
  | cons q rest ih =>
    rw [List.map_cons, List.nodup_cons] at h
    rcases List.mem_cons.mp hp with rfl | hp
    · exact List.lookup_cons_self
    · have hne : p.1 ≠ q.1 := fun heq => h.1 (heq ▸ List.mem_map_of_mem hp)
      rw [List.lookup_cons, beq_false_of_ne hne]
      exact ih h.2 hp

/-- What stands first is found under its name. -/
theorem lookup_of_head? {p : String × α} (h : row.head? = some p) : row.lookup p.1 = some p.2 := by
  cases row with
  | nil => simp at h
  | cons q rest =>
    obtain rfl := Option.some.inj h
    exact List.lookup_cons_self

end Rows

/-! ## Chains of definitions -/

namespace Definition

/-- Definitions in turn: each is typed over the variables before it. -/
inductive Chain : List SocketType → List Definition → Prop where
  | nil (types : List SocketType) : Chain types []
  | cons {types : List SocketType} {d : Definition} {ds : List Definition}
      (h : d.expr.HasType types d.type) (rest : Chain (types ++ [d.type]) ds) :
      Chain types (d :: ds)

variable {types : List SocketType} {d : Definition} {ds ds' : List Definition}

theorem Chain.single (h : d.expr.HasType types d.type) : Chain types [d] :=
  .cons h (.nil _)

theorem Chain.append (h : Chain types ds) (h' : Chain (types ++ ds.map (·.type)) ds') :
    Chain types (ds ++ ds') := by
  induction h with
  | nil => simpa using h'
  | cons hd _ ih =>
    refine .cons hd (ih ?_)
    rw [List.append_assoc]
    exact h'

/-- A definition of a chain is typed over the variables before it. -/
theorem Chain.hasType (h : Chain types ds) {k : Nat} (hk : ds[k]? = some d) :
    d.expr.HasType (types ++ (ds.take k).map (·.type)) d.type := by
  induction h generalizing k with
  | nil => simp at hk
  | cons hd _ ih =>
    cases k with
    | zero =>
      obtain rfl := Option.some.inj hk
      simpa using hd
    | succ k =>
      have := ih hk
      rwa [List.append_assoc, List.singleton_append, ← List.map_cons, ← List.take_succ_cons] at this

end Definition

/-! ## The definitions of a node -/

namespace NodeKind

/-- The names in the table of inputs are distinct. -/
theorem nodup_inputs (k : NodeKind) : (k.inputs.map (·.1)).Nodup := by
  cases k <;> simp [inputs]

theorem operands_sublist_inputs (k : NodeKind) : k.operands.Sublist k.inputs := by
  cases k with
  | output => exact List.nil_sublist _
  | _ => exact List.Sublist.refl _

theorem operands_of_ne {k : NodeKind} (h : k ≠ .output) : k.operands = k.inputs := by
  cases k with
  | output => exact absurd rfl h
  | _ => rfl

/-- A node that reads an input is no output node. -/
theorem ne_output_of_mem_operands {k : NodeKind} {p : String × SocketType} (h : p ∈ k.operands) :
    k ≠ .output := by
  rintro rfl
  cases h

/-- The inputs that are read have distinct names. -/
theorem nodup_operands (k : NodeKind) : (k.operands.map (·.1)).Nodup :=
  k.nodup_inputs.sublist (k.operands_sublist_inputs.map _)

/-- The input table gives the type of an input that is read. -/
theorem inputType?_of_mem_operands {k : NodeKind} {p : String × SocketType} (h : p ∈ k.operands) :
    k.inputType? p.1 = some p.2 :=
  lookup_eq_some_of_mem k.nodup_inputs (k.operands_sublist_inputs.subset h)

/-- The definition of a socket has the type that the table of outputs gives for it. -/
theorem type_of_mem_block {k : NodeKind} {next : Nat} {read : String → Option Expr}
    {d : Definition} (hd : d ∈ k.block next read) {t : SocketType}
    (ht : k.outputs.lookup d.socket = some t) : d.type = t := by
  cases k with
  | vectorMath op scale =>
    simp only [block] at hd
    split at hd <;> simp only [List.mem_cons, List.not_mem_nil, or_false] at hd <;>
      rcases hd with rfl | rfl <;> exact Option.some.inj ht
  | separateXyz =>
    simp only [block, List.mem_cons, List.not_mem_nil, or_false] at hd
    rcases hd with rfl | rfl | rfl | rfl
    · exact absurd ht (by simp [outputs, List.lookup_cons])
    all_goals exact Option.some.inj ht
  | output => simp [block] at hd
  | _ =>
    simp only [block, List.mem_singleton] at hd
    subst hd
    exact Option.some.inj ht

variable {types : List SocketType} {read : String → Option Expr}

/-- An input, or what stands in for it, has the type that is expected. -/
theorem hasType_getD {e? : Option Expr} {fallback : Expr} {t : SocketType}
    (h : ∀ e, e? = some e → e.HasType types t) (h' : fallback.HasType types t) :
    (e?.getD fallback).HasType types t := by
  cases e? with
  | none => exact h'
  | some e => exact h e rfl

/-- The definitions of a node are a chain, if the expressions read have the types expected. -/
theorem chain_block (k : NodeKind)
    (hread : ∀ socket t e, (socket, t) ∈ k.operands → read socket = some e → e.HasType types t) :
    Definition.Chain types (k.block types.length read) := by
  have hnext (t : SocketType) : (Expr.var types.length).HasType (types ++ [t]) t :=
    .var List.getElem?_concat_length
  cases k with
  | time => exact .single .time
  | value a => exact .single (.scalar a)
  | parameter p => exact .single (.scalar p.value)
  | vector v => exact .single (.vector v)
  | position => exact .single .position
  | combineXyz v =>
    exact .single (.combine (hasType_getD (fun e => hread "x" _ e (by simp [operands, inputs]))
        (.scalar _))
      (hasType_getD (fun e => hread "y" _ e (by simp [operands, inputs])) (.scalar _))
      (hasType_getD (fun e => hread "z" _ e (by simp [operands, inputs])) (.scalar _)))
  | separateXyz =>
    have hv := hasType_getD (fun e => hread "vector" _ e (by simp [operands, inputs]))
      (.vector Vec3.zero)
    exact .cons hv (.cons (.component .x (hnext _)) (.cons (.component .y (hnext _).append)
      (.cons (.component .z (hnext _).append.append) (.nil _))))
  | math op second =>
    exact .single (.math op (hasType_getD (fun e => hread "a" _ e (by simp [operands, inputs]))
        (.scalar _))
      (hasType_getD (fun e => hread "b" _ e (by simp [operands, inputs])) (.scalar _)))
  | vectorMath op scale =>
    have hop := Expr.HasType.vectorMath op
      (hasType_getD (fun e => hread "a" _ e (by simp [operands, inputs])) (.vector Vec3.zero))
      (hasType_getD (fun e => hread "b" _ e (by simp [operands, inputs])) (.vector Vec3.zero))
      (hasType_getD (fun e => hread "scale" _ e (by simp [operands, inputs])) (.scalar scale))
    simp only [block]
    split
    next hs =>
      rw [VectorOperation.resultType, if_pos hs] at hop
      exact .cons hop (.single (.broadcast (hnext _)))
    next hs =>
      rw [VectorOperation.resultType, if_neg hs] at hop
      exact .cons hop (.single (.component .x (hnext _)))
  | waveTexture settings =>
    exact .single (.wave settings
      (hasType_getD (fun e => hread "vector" _ e (by simp [operands, inputs])) .position)
      (hasType_getD (fun e => hread "phase" _ e (by simp [operands, inputs])) (.scalar _)))
  | noiseTexture scale =>
    exact .single (.noise
      (hasType_getD (fun e => hread "vector" _ e (by simp [operands, inputs])) .position)
      (hasType_getD (fun e => hread "scale" _ e (by simp [operands, inputs])) (.scalar _)))
  | output => exact .nil _

end NodeKind

/-! ## The invariant of the walk -/

namespace Walk

/-- The types of the variables. -/
def types (w : Walk) : List SocketType := w.slots.map (·.type)

/-- Every slot is typed over the slots before it, and has the type of its socket. -/
structure WellTyped (g : Graph) (w : Walk) : Prop where
  chain : Definition.Chain [] (w.slots.map Slot.definition)
  owned : ∀ slot ∈ w.slots, ∃ n, g.node? slot.node = some n ∧
    ∀ t, n.kind.outputs.lookup slot.socket = some t → slot.type = t

variable {g : Graph} {w w' : Walk}

theorem WellTyped.init (g : Graph) : WellTyped g {} :=
  ⟨.nil _, by simp⟩

@[simp] theorem length_types (w : Walk) : w.types.length = w.slots.length :=
  List.length_map _

theorem types_definition (w : Walk) : (w.slots.map Slot.definition).map (·.type) = w.types := by
  rw [List.map_map]
  rfl

/-- Types of variables stay as they are. -/
theorem Grows.types (h : w.Grows w') : ∃ more, w'.types = w.types ++ more := by
  obtain ⟨added, hslots, -⟩ := h.slots
  exact ⟨added.map (·.type), by rw [Walk.types, hslots, List.map_append, Walk.types]⟩

/-- What is typed in a walk is typed as it grows. -/
theorem Grows.hasType (h : w.Grows w') {e : Expr} {t : SocketType} (he : e.HasType w.types t) :
    e.HasType w'.types t := by
  obtain ⟨more, hmore⟩ := h.types
  rw [hmore]
  exact he.append

theorem WellTyped.enter (h : w.WellTyped g) (id : String) : (w.enter id).WellTyped g :=
  ⟨h.chain, h.owned⟩

/-- A chain of definitions with the types of a node's sockets keeps the walk well typed. -/
theorem WellTyped.defineAll (h : w.WellTyped g) {n : Node} (hn : g.node? n.id = some n)
    {ds : List Definition} (hds : Definition.Chain w.types ds)
    (ht : ∀ d ∈ ds, ∀ t, n.kind.outputs.lookup d.socket = some t → d.type = t) :
    (w.defineAll n.id ds).WellTyped g := by
  obtain ⟨added, hslots, hdefs, hnode⟩ := slots_defineAll w n.id ds
  refine ⟨?_, ?_⟩
  · rw [hslots, List.map_append, hdefs]
    refine h.chain.append ?_
    rw [types_definition, List.nil_append]
    exact hds
  · rw [hslots]
    intro slot hslot
    rcases List.mem_append.mp hslot with hslot | hslot
    · exact h.owned slot hslot
    · refine ⟨n, by rw [hnode slot hslot, hn], fun t hlookup => ?_⟩
      have hmem : slot.definition ∈ ds := hdefs ▸ List.mem_map_of_mem hslot
      exact ht slot.definition hmem t hlookup

/-- The variable of a socket has the type of the socket. -/
theorem WellTyped.hasType_var (h : w.WellTyped g) {n : Node} (hn : g.node? n.id = some n)
    {socket : String} {i : Nat} (hi : w.bound? n.id socket = some i) {t : SocketType}
    (ht : n.kind.outputs.lookup socket = some t) : (Expr.var i).HasType w.types t := by
  obtain ⟨hlt, hp, -⟩ := List.findIdx?_eq_some_iff_getElem.mp hi
  rw [Bool.and_eq_true, decide_eq_true_eq, decide_eq_true_eq] at hp
  obtain ⟨m, hm, htype⟩ := h.owned _ (List.getElem_mem hlt)
  rw [hp.1, hn] at hm
  obtain rfl := Option.some.inj hm
  rw [hp.2] at htype
  refine .var ?_
  rw [types, List.getElem?_map, List.getElem?_eq_getElem hlt, Option.map_some, htype t ht]

end Walk

namespace Lowering

variable {g : Graph} {w : Walk}

/-- What a socket holds has the type that comes with it. -/
theorem outlet?_hasType (hw : w.WellTyped g) {n : Node} (hn : g.node? n.id = some n)
    {socket : String} {p : Expr × SocketType} (h : outlet? w n socket = some p) :
    p.1.HasType w.types p.2 := by
  unfold outlet? at h
  cases hlookup : n.kind.outputs.lookup socket with
  | some t =>
    simp only [hlookup] at h
    obtain ⟨i, hi, rfl⟩ := Option.map_eq_some_iff.mp h
    exact hw.hasType_var hn hi hlookup
  | none =>
    simp only [hlookup] at h
    cases hhead : n.kind.outputs.head? with
    | none => simp [hhead] at h
    | some primary =>
      simp only [hhead] at h
      obtain ⟨i, hi, rfl⟩ := Option.map_eq_some_iff.mp h
      have hvar := hw.hasType_var hn hi (lookup_of_head? hhead)
      split
      next axis htype _ =>
        rw [htype] at hvar
        exact .component axis hvar
      next => exact hvar

/-- What one input reads has the type that is expected. -/
theorem input_hasType {visit : Node → Walk → Walk} {id socket : String} {expected : SocketType}
    (hvisit : ∀ n w, g.node? n.id = some n → w.WellTyped g → (visit n w).WellTyped g)
    (hw : w.WellTyped g) {e : Expr} (h : (input visit g id socket expected w).1 = some e) :
    e.HasType (input visit g id socket expected w).2.types expected := by
  cases hsource : g.source? id socket with
  | none => simp [input_of_none hsource] at h
  | some src =>
    have hn := Graph.node?_source hsource
    rw [input_of_some hsource] at h ⊢
    obtain ⟨p, hp, rfl⟩ := Option.map_eq_some_iff.mp h
    exact (outlet?_hasType (hvisit src.1 w hn hw) hn hp).coerce

/-- Reading one input keeps the walk well typed, if visits do. -/
theorem input_wellTyped {visit : Node → Walk → Walk} (id socket : String) (expected : SocketType)
    (hvisit : ∀ n w, g.node? n.id = some n → w.WellTyped g → (visit n w).WellTyped g)
    (hw : w.WellTyped g) : (input visit g id socket expected w).2.WellTyped g := by
  cases hsource : g.source? id socket with
  | none =>
    rw [input_of_none hsource]
    exact hw
  | some src =>
    rw [input_of_some hsource]
    exact hvisit src.1 w (Graph.node?_source hsource) hw

/-- What a row of inputs reads has the types that are expected. -/
theorem inputs_hasType {visit : Node → Walk → Walk} (id : String)
    (hgrows : ∀ n w, Walk.Grows w (visit n w))
    (hvisit : ∀ n w, g.node? n.id = some n → w.WellTyped g → (visit n w).WellTyped g)
    (sockets : List (String × SocketType)) (hw : w.WellTyped g) :
    ∀ p ∈ (inputs visit g id sockets w).1, ∃ t, (p.1, t) ∈ sockets ∧
      p.2.HasType (inputs visit g id sockets w).2.types t := by
  induction sockets generalizing w with
  | nil => simp [inputs]
  | cons s rest ih =>
    obtain ⟨socket, expected⟩ := s
    have hhead := input_wellTyped id socket expected hvisit hw
    have hgrow := inputs_grows (g := g) id hgrows rest
      (input visit g id socket expected w).2
    intro p hp
    simp only [inputs] at hp ⊢
    cases he : (input visit g id socket expected w).1 with
    | none =>
      rw [he] at hp
      obtain ⟨t, hmem, ht⟩ := ih hhead p hp
      exact ⟨t, List.mem_cons_of_mem _ hmem, ht⟩
    | some e =>
      rw [he] at hp
      rcases List.mem_cons.mp hp with rfl | hp
      · exact ⟨expected, List.mem_cons_self, hgrow.hasType (input_hasType hvisit hw he)⟩
      · obtain ⟨t, hmem, ht⟩ := ih hhead p hp
        exact ⟨t, List.mem_cons_of_mem _ hmem, ht⟩

/-- A visit keeps the walk well typed. -/
theorem visit_wellTyped (fuel : Nat) {n : Node} (hn : g.node? n.id = some n)
    (hw : w.WellTyped g) : (visit g fuel n w).WellTyped g := by
  induction fuel generalizing n w with
  | zero => exact hw
  | succ fuel ih =>
    by_cases hid : n.id ∈ w.visited
    · rw [visit_of_mem hid]
      exact hw
    · have hvisit : ∀ m w, g.node? m.id = some m → w.WellTyped g →
          (visit g fuel m w).WellTyped g := fun m w hm hw => ih hm hw
      have hinputs := inputs_rel n.id (R := fun w w' => w.WellTyped g → w'.WellTyped g)
        (fun _ h => h) (fun h h' hw => h' (h hw)) hvisit n.kind.operands (w.enter n.id)
        (hw.enter n.id)
      have hread := inputs_hasType n.id (visit_grows fuel) hvisit n.kind.operands
        (hw.enter n.id)
      rw [visit_of_not_mem hid]
      -- the inputs have been read over the walk that the node is defined in
      refine hinputs.defineAll hn ?_ fun d hd t ht => NodeKind.type_of_mem_block hd ht
      rw [← Walk.length_types]
      refine NodeKind.chain_block n.kind fun socket t e hmem he => ?_
      obtain ⟨u, hu, htyped⟩ := hread (socket, e) (mem_of_lookup he)
      have huniq := NodeKind.inputType?_of_mem_operands hmem
      rw [NodeKind.inputType?_of_mem_operands hu] at huniq
      obtain rfl : u = t := Option.some.inj huniq
      exact htyped

end Lowering

/-! ## The program of a graph -/

theorem Slot.getElem?_statements (slots : List Slot) (i k : Nat) :
    (Slot.statements i slots)[k]? = slots[k]?.map fun slot => ⟨i + k, slot.expr⟩ := by
  induction slots generalizing i k with
  | nil => simp [Slot.statements]
  | cons slot rest ih =>
    cases k with
    | zero => simp [Slot.statements]
    | succ k =>
      rw [Slot.statements, List.getElem?_cons_succ, List.getElem?_cons_succ, ih]
      simp only [Nat.add_assoc, Nat.add_comm 1]

theorem Slot.map_var_statements (slots : List Slot) :
    (Slot.statements 0 slots).map (·.var) = List.range slots.length := by
  refine List.ext_getElem? fun k => ?_
  rw [List.getElem?_map, Slot.getElem?_statements]
  by_cases hk : k < slots.length
  · rw [List.getElem?_eq_getElem hk, List.getElem?_range hk]
    simp
  · rw [List.getElem?_eq_none (by omega), List.getElem?_eq_none (by simpa using hk)]
    rfl

theorem Walk.types_program (w : Walk) (result : ProgramResult) (useWorldPos : Bool) :
    (w.program result useWorldPos).types = w.types := by
  rw [Program.types, vars_program, List.map_map]
  rfl

/-- The program of a walk that is well typed is well formed, if its result is a number. -/
theorem Walk.WellTyped.wellFormed {g : Graph} {w : Walk} (hw : w.WellTyped g)
    {result : ProgramResult} (hresult : ∀ e, result = .value e → e.HasType w.types .scalar)
    (useWorldPos : Bool) : (w.program result useWorldPos).WellFormed := by
  have htypes := w.types_program result useWorldPos
  -- a statement is the definition of a slot, so it is typed over the slots before it
  have hstmt (k : Nat) (stmt : Stmt) (h : (Slot.statements 0 w.slots)[k]? = some stmt) :
      ∃ slot, w.slots[k]? = some slot ∧ stmt.expr = slot.expr ∧
        slot.expr.HasType (w.types.take k) slot.type := by
    rw [Slot.getElem?_statements] at h
    obtain ⟨slot, hslot, rfl⟩ := Option.map_eq_some_iff.mp h
    refine ⟨slot, hslot, rfl, ?_⟩
    have := hw.chain.hasType (k := k) (d := slot.definition) (by rw [List.getElem?_map, hslot]; rfl)
    rwa [List.nil_append, List.map_take, types_definition] at this
  refine ⟨?_, ?_, ?_, ?_, ?_⟩
  · simpa using Slot.map_var_statements w.slots
  · intro k stmt h i hi
    obtain ⟨slot, -, hexpr, ht⟩ := hstmt k stmt h
    have := ht.lt_of_mem_vars i (hexpr ▸ hi)
    rw [List.length_take] at this
    omega
  · intro k stmt v h hv
    obtain ⟨slot, hslot, hexpr, ht⟩ := hstmt k stmt h
    rw [vars_program, List.getElem?_map, hslot] at hv
    obtain rfl := Option.some.inj hv
    have happend : slot.expr.HasType (w.types.take k ++ w.types.drop k) slot.type := ht.append
    rwa [List.take_append_drop, ← htypes, ← hexpr] at happend
  · intro e he i hi
    have := (hresult e he).lt_of_mem_vars i hi
    simpa using this
  · intro e he
    rw [htypes]
    exact hresult e he

/-- A program without variables whose result is a constant is well formed. -/
theorem Program.WellFormed.constant {result : ProgramResult} (h : ∀ e, result ≠ .value e)
    (useWorldPos : Bool) : (Program.constant result useWorldPos).WellFormed := by
  refine ⟨rfl, ?_, ?_, fun e he => absurd he (h e), fun e he => absurd he (h e)⟩ <;>
    simp [Program.constant]

theorem wellFormed_lower (g : Graph) (useWorldPos : Bool) : (lower g useWorldPos).WellFormed := by
  obtain ⟨result, hresult, heq⟩ | ⟨n, result, hn, heq, hresult⟩ := lower_cases g useWorldPos
  · rw [heq]
    exact .constant hresult useWorldPos
  · rw [heq]
    have hw := Lowering.visit_wellTyped g.nodes.length hn (Walk.WellTyped.init g)
    refine hw.wellFormed (fun e he => ?_) useWorldPos
    obtain ⟨socket, p, hp, rfl⟩ := hresult e he
    exact (Lowering.outlet?_hasType hw hn hp).coerce

/-- All variables that a program refers to are its own, so their names and types are there when it
is written. -/
structure Program.Closed (p : Program) : Prop where
  /-- a statement binds and reads variables of the program -/
  statements : ∀ stmt ∈ p.stmts, ∀ i ∈ stmt.var :: stmt.expr.vars,
    p.vars[i]? = some ⟨p.varName i, p.varType i⟩
  /-- and so does the result -/
  result : ∀ e, p.result = .value e → ∀ i ∈ e.vars, p.vars[i]? = some ⟨p.varName i, p.varType i⟩

theorem Program.getElem?_vars {p : Program} {i : Nat} (h : i < p.vars.length) :
    p.vars[i]? = some ⟨p.varName i, p.varType i⟩ := by
  simp only [varName, varType, List.getElem?_eq_getElem h, Option.getD_some]

theorem Program.WellFormed.closed {p : Program} (hp : p.WellFormed) : p.Closed := by
  refine ⟨fun stmt hstmt i hi => p.getElem?_vars ?_,
    fun e he i hi => p.getElem?_vars (hp.resultReads e he i hi)⟩
  obtain ⟨k, hk⟩ := List.mem_iff_getElem?.mp hstmt
  have hlt : k < p.vars.length := by
    rw [← hp.length_stmts]
    exact (List.getElem?_eq_some_iff.mp hk).1
  rcases List.mem_cons.mp hi with rfl | hread
  · rwa [hp.var_eq hk]
  · exact Nat.lt_trans (hp.reads k stmt hk i hread) hlt

/-- Every graph lowers to well-typed single-assignment code, which is written and evaluated without
a variable that is not there. In each evaluation every register ends up with a value of its declared
type. -/
theorem lower_wellFormed (g : Graph) (useWorldPos : Bool) :
    (lower g useWorldPos).WellFormed ∧ (lower g useWorldPos).Closed ∧
      ∀ (s : Sample) (k : Nat) (v : Var), (lower g useWorldPos).vars[k]? = some v →
        ∃ x, ((lower g useWorldPos).run s)[k]? = some x ∧ x.type = v.type :=
  ⟨wellFormed_lower g useWorldPos, (wellFormed_lower g useWorldPos).closed, fun s _ _ h =>
    (wellFormed_lower g useWorldPos).exists_register s h⟩

/-- The position and the time, as a vector, multiplied by one another. -/
def Graph.drift : Graph where
  nodes := [⟨"p", .position, [], 0, 0⟩, ⟨"t", .time 1, [], 0, 0⟩,
    ⟨"m", .vectorMath .dotProduct 1, [], 0, 0⟩, ⟨"o", .output, [], 0, 0⟩]
  connections := [.between "p" "vector" "m" "a", .between "t" "value" "m" "b",
    .between "m" "value" "o" "value"]

/-- The program of that graph has vectors and numbers, in statements and in registers. -/
theorem lower_wellFormed_drift :
    let p := lower .drift false
    p.types = [.vector, .scalar, .scalar, .vector] ∧
      p.stmts.map (·.expr) = [.position, .time,
        .vectorMath .dotProduct (.var 0) (.broadcast (.var 1)) (.scalar 1), .broadcast (.var 2)] ∧
      p.result = .value (.var 2) ∧ p.WellFormed ∧ p.Closed ∧
      ∀ s, ∃ v x, (p.run s)[0]? = some (.vector v) ∧ (p.run s)[2]? = some (.scalar x) := by
  intro p
  obtain ⟨hformed, hclosed, hregisters⟩ := lower_wellFormed .drift false
  have hvars : p.vars[0]? = some ⟨"n_p_vector", .vector⟩ ∧
      p.vars[2]? = some ⟨"n_m_value", .scalar⟩ := by decide +kernel
  refine ⟨by decide +kernel, by decide +kernel, by decide +kernel, hformed, hclosed, fun s => ?_⟩
  obtain ⟨first, hfirst, htype⟩ := hregisters s 0 _ hvars.1
  obtain ⟨third, hthird, htype'⟩ := hregisters s 2 _ hvars.2
  cases first with
  | scalar x => cases htype
  | vector v =>
    cases third with
    | scalar x => exact ⟨v, x, hfirst, hthird⟩
    | vector w => cases htype'

end Heightfield
