import Heightfield.Program.Eval
import Mathlib.Tactic.Set

/-!
# Typed programs

The typing rules of expressions, and what a program must satisfy so that its text is well typed and
its evaluation reads nothing that has not been bound.

* `Expr.HasType` are the typing rules; evaluation respects them (`Expr.HasType.type_eval`).
* `Program.WellFormed` says that a program is well-typed single-assignment code.
* `Program.WellFormed.read_run`: in a well-formed program every register ends up with the value that
  its statement has *over the final registers*, so the order of evaluation can be forgotten.
* `Program.WellFormed.type_run`: every register ends up with a value of the declared type.
-/

namespace Heightfield

/-- The type of the natural outcome of an operator on vectors. -/
def VectorOperation.resultType (op : VectorOperation) : SocketType :=
  if op.isScalar then .scalar else .vector

namespace Expr

/-! ## Typing rules -/

/-- The typing rules: over variables of the given types, an expression has a type. -/
inductive HasType (types : List SocketType) : Expr → SocketType → Prop where
  | scalar (a : Float32) : HasType types (.scalar a) .scalar
  | vector (v : Vec3) : HasType types (.vector v) .vector
  | time : HasType types .time .scalar
  | position : HasType types .position .vector
  | var {i : Nat} {t : SocketType} (h : types[i]? = some t) : HasType types (.var i) t
  | broadcast {e : Expr} (h : HasType types e .scalar) : HasType types (.broadcast e) .vector
  | component {e : Expr} (axis : Axis) (h : HasType types e .vector) :
      HasType types (.component e axis) .scalar
  | combine {x y z : Expr} (hx : HasType types x .scalar) (hy : HasType types y .scalar)
      (hz : HasType types z .scalar) : HasType types (.combine x y z) .vector
  | math (op : ScalarOperation) {a b : Expr} (ha : HasType types a .scalar)
      (hb : HasType types b .scalar) : HasType types (.math op a b) .scalar
  | vectorMath (op : VectorOperation) {a b factor : Expr} (ha : HasType types a .vector)
      (hb : HasType types b .vector) (hf : HasType types factor .scalar) :
      HasType types (.vectorMath op a b factor) op.resultType
  | wave (settings : WaveSettings) {point phase : Expr} (hp : HasType types point .vector)
      (hq : HasType types phase .scalar) : HasType types (.wave settings point phase) .scalar
  | noise {point factor : Expr} (hp : HasType types point .vector)
      (hf : HasType types factor .scalar) : HasType types (.noise point factor) .scalar

/-- The variables that an expression reads, from left to right. -/
def vars : Expr → List Nat
  | .scalar _ => []
  | .vector _ => []
  | .time => []
  | .position => []
  | .var i => [i]
  | .broadcast e => e.vars
  | .component e _ => e.vars
  | .combine x y z => x.vars ++ y.vars ++ z.vars
  | .math _ a b => a.vars ++ b.vars
  | .vectorMath _ a b factor => a.vars ++ b.vars ++ factor.vars
  | .wave _ point phase => point.vars ++ phase.vars
  | .noise point factor => point.vars ++ factor.vars

variable {types more : List SocketType} {e : Expr} {t : SocketType}

/-- A typed expression reads declared variables only. -/
theorem HasType.lt_of_mem_vars (h : e.HasType types t) :
    ∀ i ∈ e.vars, i < types.length := by
  induction h with
  | scalar | vector | time | position => simp [vars]
  | var h =>
    intro i hi
    obtain rfl := List.mem_singleton.mp hi
    exact (List.getElem?_eq_some_iff.mp h).1
  | broadcast _ ih => exact ih
  | component _ _ ih => exact ih
  | combine _ _ _ ihx ihy ihz =>
    intro i hi
    simp only [vars, List.mem_append] at hi
    rcases hi with (hi | hi) | hi
    · exact ihx i hi
    · exact ihy i hi
    · exact ihz i hi
  | vectorMath _ _ _ _ iha ihb ihf =>
    intro i hi
    simp only [vars, List.mem_append] at hi
    rcases hi with (hi | hi) | hi
    · exact iha i hi
    · exact ihb i hi
    · exact ihf i hi
  | math _ _ _ iha ihb | wave _ _ _ iha ihb | noise _ _ iha ihb =>
    intro i hi
    simp only [vars, List.mem_append] at hi
    rcases hi with hi | hi
    · exact iha i hi
    · exact ihb i hi

/-- More variables do not change the type of an expression. -/
theorem HasType.append (h : e.HasType types t) : e.HasType (types ++ more) t := by
  induction h with
  | scalar a => exact .scalar a
  | vector v => exact .vector v
  | time => exact .time
  | position => exact .position
  | var h =>
    refine .var ?_
    rw [List.getElem?_append_left (List.getElem?_eq_some_iff.mp h).1]
    exact h
  | broadcast _ ih => exact .broadcast ih
  | component axis _ ih => exact .component axis ih
  | combine _ _ _ ihx ihy ihz => exact .combine ihx ihy ihz
  | math op _ _ iha ihb => exact .math op iha ihb
  | vectorMath op _ _ _ iha ihb ihf => exact .vectorMath op iha ihb ihf
  | wave settings _ _ ihp ihq => exact .wave settings ihp ihq
  | noise _ _ ihp ihf => exact .noise ihp ihf

/-- A coerced expression has the type it is coerced to. -/
theorem HasType.coerce {source target : SocketType} (h : e.HasType types source) :
    (e.coerce source target).HasType types target := by
  cases source <;> cases target
  · exact h
  · exact .broadcast h
  · exact .component .x h
  · exact h

/-! ## Typing and evaluation -/

/-- The value of an expression depends only on the variables that it reads. -/
theorem eval_congr {r r' : Registers} {s : Sample}
    (h : ∀ i ∈ e.vars, r.read i = r'.read i) : e.eval r s = e.eval r' s := by
  induction e with
  | scalar | vector | time | position => rfl
  | var i => exact h i (List.mem_singleton.mpr rfl)
  | broadcast e ih => simp only [eval, ih h]
  | component e axis ih => simp only [eval, ih h]
  | combine x y z ihx ihy ihz =>
    simp only [vars, List.mem_append] at h
    simp only [eval, ihx fun i hi => h i (.inl (.inl hi)), ihy fun i hi => h i (.inl (.inr hi)),
      ihz fun i hi => h i (.inr hi)]
  | vectorMath op a b factor iha ihb ihf =>
    simp only [vars, List.mem_append] at h
    simp only [eval, iha fun i hi => h i (.inl (.inl hi)), ihb fun i hi => h i (.inl (.inr hi)),
      ihf fun i hi => h i (.inr hi)]
  | math op a b iha ihb | wave op a b iha ihb | noise a b iha ihb =>
    simp only [vars, List.mem_append] at h
    simp only [eval, iha fun i hi => h i (.inl hi), ihb fun i hi => h i (.inr hi)]

/-- A typed expression has a value of its type, if the variables that it reads have. -/
theorem HasType.type_eval (h : e.HasType types t) {r : Registers} (s : Sample)
    (hr : ∀ i ∈ e.vars, ∀ u, types[i]? = some u → (r.read i).type = u) :
    (e.eval r s).type = t := by
  cases h with
  | var h => exact hr _ (List.mem_singleton.mpr rfl) _ h
  | vectorMath op =>
    simp only [eval, VectorOperation.resultType]
    split <;> rfl
  | _ => rfl

end Expr

namespace Program

/-! ## Well-formed programs -/

/-- The types of the variables. -/
def types (p : Program) : List SocketType := p.vars.map (·.type)

/-- Well-typed single-assignment code. -/
structure WellFormed (p : Program) : Prop where
  /-- there is one statement for each variable, in the order of the variables -/
  single : p.stmts.map (·.var) = List.range p.vars.length
  /-- a statement reads only variables that are bound before it -/
  reads : ∀ (k : Nat) (stmt : Stmt), p.stmts[k]? = some stmt → ∀ i ∈ stmt.expr.vars, i < k
  /-- a statement has the type declared for its variable -/
  typed : ∀ (k : Nat) (stmt : Stmt) (v : Var), p.stmts[k]? = some stmt → p.vars[k]? = some v →
    stmt.expr.HasType p.types v.type
  /-- the result reads only declared variables -/
  resultReads : ∀ e, p.result = .value e → ∀ i ∈ e.vars, i < p.vars.length
  /-- the result is a number -/
  resultTyped : ∀ e, p.result = .value e → e.HasType p.types .scalar

/-! ## The registers of a well-formed program

A statement writes one register, and the statements behind it write others. So what an expression
reads when it is evaluated is what the registers hold in the end. -/

theorem size_foldl_step (s : Sample) (stmts : List Stmt) (r : Registers) :
    (stmts.foldl (step s) r).size = r.size := by
  induction stmts generalizing r with
  | nil => rfl
  | cons stmt rest ih =>
    rw [List.foldl_cons, ih, step, Array.size_setIfInBounds]

/-- There is a register for each variable. -/
theorem size_run (p : Program) (s : Sample) : (p.run s).size = p.vars.length := by
  rw [run, size_foldl_step, Array.size_replicate]

/-- Statements that bind other variables leave a register alone. -/
theorem read_foldl_step {s : Sample} {stmts : List Stmt} {i : Nat}
    (h : ∀ stmt ∈ stmts, stmt.var ≠ i) (r : Registers) :
    (stmts.foldl (step s) r).read i = r.read i := by
  induction stmts generalizing r with
  | nil => rfl
  | cons stmt rest ih =>
    rw [List.foldl_cons, ih fun stmt h' => h stmt (List.mem_cons_of_mem _ h')]
    have hne : stmt.var ≠ i := h stmt List.mem_cons_self
    simp only [Registers.read, step, Array.getElem?_setIfInBounds_ne hne]

/-- A statement leaves the value of its expression in its register, if there is one. -/
theorem read_step {s : Sample} {stmt : Stmt} {r : Registers} (h : stmt.var < r.size) :
    (step s r stmt).read stmt.var = stmt.expr.eval r s := by
  simp [Registers.read, step, h]

namespace WellFormed

variable {p : Program} {s : Sample} {k : Nat} {stmt : Stmt} {v : Var}

/-- The statement at a place binds the variable of that place. -/
theorem var_eq (hp : p.WellFormed) (h : p.stmts[k]? = some stmt) : stmt.var = k := by
  have hk : (p.stmts.map (·.var))[k]? = some stmt.var := by rw [List.getElem?_map, h]; rfl
  rw [hp.single] at hk
  obtain ⟨hlt, hk⟩ := List.getElem?_eq_some_iff.mp hk
  rw [← hk, List.getElem_range]

theorem length_stmts (hp : p.WellFormed) : p.stmts.length = p.vars.length := by
  have h := congrArg List.length hp.single
  rwa [List.length_map, List.length_range] at h

/-- A register holds the value of its statement over the final registers. -/
theorem read_run (hp : p.WellFormed) (h : p.stmts[k]? = some stmt) :
    (p.run s).read k = stmt.expr.eval (p.run s) s := by
  obtain ⟨hk, hstmt⟩ := List.getElem?_eq_some_iff.mp h
  have hsplit : p.stmts = p.stmts.take k ++ stmt :: p.stmts.drop (k + 1) := by
    rw [← hstmt, List.getElem_cons_drop, List.take_append_drop]
  -- statements from `k` on bind variables from `k` on
  have hlater : ∀ i ≤ k, ∀ later ∈ p.stmts.drop (k + 1), later.var ≠ i := by
    intro i hi later hmem
    obtain ⟨j, hj⟩ := List.mem_iff_getElem?.mp hmem
    rw [List.getElem?_drop] at hj
    have := hp.var_eq hj
    omega
  set before := (p.stmts.take k).foldl (step s) (Array.replicate p.vars.length (.scalar 0))
    with hbefore
  have hrun : p.run s = (p.stmts.drop (k + 1)).foldl (step s) (step s before stmt) := by
    rw [run, hbefore]
    conv => lhs; rw [hsplit]
    rw [List.foldl_append, List.foldl_cons]
  have hvar : stmt.var = k := hp.var_eq h
  have hsize : k < before.size := by
    rw [hbefore, size_foldl_step, Array.size_replicate, ← hp.length_stmts]
    exact hk
  calc (p.run s).read k
      = (step s before stmt).read stmt.var := by
        rw [hrun, read_foldl_step (hlater k (Nat.le_refl k)), hvar]
    _ = stmt.expr.eval before s := read_step (by rw [hvar]; exact hsize)
    _ = stmt.expr.eval (p.run s) s := by
        refine Expr.eval_congr fun i hi => ?_
        have hik : i < k := hp.reads k stmt h i hi
        have hstep : ([stmt].foldl (step s) before).read i = before.read i :=
          read_foldl_step (by simp; omega) before
        rw [hrun, read_foldl_step (hlater i (Nat.le_of_lt hik)), ← hstep]
        rfl

/-- A register holds a value of the type declared for its variable. -/
theorem type_run (hp : p.WellFormed) (h : p.vars[k]? = some v) :
    ((p.run s).read k).type = v.type := by
  induction k using Nat.strongRecOn generalizing v with
  | _ k ih =>
    have hk : k < p.stmts.length := by
      rw [hp.length_stmts]
      exact (List.getElem?_eq_some_iff.mp h).1
    have hstmt : p.stmts[k]? = some p.stmts[k] := List.getElem?_eq_getElem hk
    rw [hp.read_run hstmt]
    refine (hp.typed k _ v hstmt h).type_eval s fun i hi u hu => ?_
    rw [types, List.getElem?_map] at hu
    obtain ⟨w, hw, rfl⟩ := Option.map_eq_some_iff.mp hu
    exact ih i (hp.reads k _ hstmt i hi) hw

/-- Reading a declared variable finds its register, with a value of the declared type. -/
theorem exists_register (hp : p.WellFormed) (s : Sample) (h : p.vars[k]? = some v) :
    ∃ x, (p.run s)[k]? = some x ∧ x.type = v.type := by
  have hk : k < (p.run s).size := by
    rw [size_run]
    exact (List.getElem?_eq_some_iff.mp h).1
  refine ⟨(p.run s)[k], Array.getElem?_eq_getElem hk, ?_⟩
  have := hp.type_run (s := s) h
  rwa [Registers.read, Array.getElem?_eq_getElem hk, Option.getD_some] at this

end WellFormed
end Program
end Heightfield
