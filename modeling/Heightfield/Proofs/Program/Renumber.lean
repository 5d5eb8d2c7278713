import Heightfield.Proofs.Pattern.Congruence
import Heightfield.Proofs.Program.Legible

/-!
# Programs with other numbers

A program is more than its numbers: when these are replaced, its variables, its types and what its
statements read stay as they are. And if each number is replaced by one that is alike, what the
program computes stays alike, statement by statement.

* `Program.mapNumbers` replaces the numbers of a program.
* `Program.Spelled.mapNumbers` says what stays, and what holds of the new numbers.
* `Program.run_alike` compares the registers, and `Program.height?_alike` the heights.
-/

namespace Heightfield

open Number

variable {P Q : Float32 → Prop} (f : Float32 → Float32)

/-! ## Other numbers -/

/-- The settings with other numbers. -/
def WaveSettings.mapNumbers (w : WaveSettings) : WaveSettings :=
  { w with
    waveScale := f w.waveScale
    distortion := f w.distortion
    detailScale := f w.detailScale
    detailRoughness := f w.detailRoughness }

/-- The expression with other numbers. -/
def Expr.mapNumbers : Expr → Expr
  | .scalar a => .scalar (f a)
  | .vector v => .vector (v.map f)
  | .time => .time
  | .position => .position
  | .var i => .var i
  | .broadcast e => .broadcast e.mapNumbers
  | .component e axis => .component e.mapNumbers axis
  | .combine x y z => .combine x.mapNumbers y.mapNumbers z.mapNumbers
  | .math op a b => .math op a.mapNumbers b.mapNumbers
  | .vectorMath op a b factor => .vectorMath op a.mapNumbers b.mapNumbers factor.mapNumbers
  | .wave settings point phase =>
    .wave (settings.mapNumbers f) point.mapNumbers phase.mapNumbers
  | .noise point factor => .noise point.mapNumbers factor.mapNumbers

/-- The result with other numbers. -/
def ProgramResult.mapNumbers : ProgramResult → ProgramResult
  | .value e => .value (e.mapNumbers f)
  | .zero => .zero
  | .errorColor => .errorColor

/-- The statement with other numbers. -/
def Stmt.mapNumbers (stmt : Stmt) : Stmt := ⟨stmt.var, stmt.expr.mapNumbers f⟩

/-- The program with other numbers. -/
def Program.mapNumbers (p : Program) : Program :=
  { p with stmts := p.stmts.map (·.mapNumbers f), result := p.result.mapNumbers f }

theorem ProgramResult.eq_value_of_mapNumbers {result : ProgramResult} {e : Expr}
    (h : result.mapNumbers f = .value e) :
    ∃ e', result = .value e' ∧ e = e'.mapNumbers f := by
  cases result with
  | value e' =>
    obtain rfl := ProgramResult.value.inj h
    exact ⟨e', rfl, rfl⟩
  | zero => cases h
  | errorColor => cases h

namespace Expr

theorem numbers_mapNumbers (e : Expr) : (e.mapNumbers f).numbers = e.numbers.map f := by
  induction e with
  | scalar | vector | time | position | var => rfl
  | broadcast e ih => exact ih
  | component e axis ih => exact ih
  | combine x y z ihx ihy ihz => simp only [mapNumbers, numbers, ihx, ihy, ihz, List.map_append]
  | math op a b iha ihb => simp only [mapNumbers, numbers, iha, ihb, List.map_append]
  | vectorMath op a b factor iha ihb ihf =>
    simp only [mapNumbers, numbers, iha, ihb, ihf, List.map_append]
  | wave settings point phase ihp ihq =>
    simp only [mapNumbers, numbers, ihp, ihq, List.map_append]
    rfl
  | noise point factor ihp ihf => simp only [mapNumbers, numbers, ihp, ihf, List.map_append]

theorem vars_mapNumbers (e : Expr) : (e.mapNumbers f).vars = e.vars := by
  induction e with
  | scalar | vector | time | position | var => rfl
  | broadcast e ih => exact ih
  | component e axis ih => exact ih
  | combine x y z ihx ihy ihz => simp only [mapNumbers, vars, ihx, ihy, ihz]
  | vectorMath op a b factor iha ihb ihf => simp only [mapNumbers, vars, iha, ihb, ihf]
  | math op a b iha ihb | wave op a b iha ihb | noise a b iha ihb =>
    simp only [mapNumbers, vars, iha, ihb]

theorem isAtom_mapNumbers (e : Expr) : (e.mapNumbers f).isAtom = e.isAtom := by
  cases e <;> rfl

theorem HasType.mapNumbers {types : List SocketType} {e : Expr} {t : SocketType}
    (h : e.HasType types t) : (e.mapNumbers f).HasType types t := by
  induction h with
  | scalar a => exact .scalar (f a)
  | vector v => exact .vector (v.map f)
  | time => exact .time
  | position => exact .position
  | var hi => exact .var hi
  | broadcast _ ih => exact .broadcast ih
  | component axis _ ih => exact .component axis ih
  | combine _ _ _ ihx ihy ihz => exact .combine ihx ihy ihz
  | math op _ _ iha ihb => exact .math op iha ihb
  | vectorMath op _ _ _ iha ihb ihf => exact .vectorMath op iha ihb ihf
  | wave settings _ _ ihp ihq => exact .wave (settings.mapNumbers f) ihp ihq
  | noise _ _ ihp ihf => exact .noise ihp ihf

theorem forall_numbers_mapNumbers (hf : ∀ x, P x → Q (f x)) {e : Expr}
    (he : ∀ x ∈ e.numbers, P x) : ∀ x ∈ (e.mapNumbers f).numbers, Q x := by
  rw [numbers_mapNumbers, List.forall_mem_map]
  exact fun x hx => hf x (he x hx)

end Expr

namespace Program

variable {p : Program} {f}

theorem WellFormed.mapNumbers (h : p.WellFormed) : (p.mapNumbers f).WellFormed := by
  have hstmt {k : Nat} {stmt : Stmt} (hk : (p.mapNumbers f).stmts[k]? = some stmt) :
      ∃ stmt', p.stmts[k]? = some stmt' ∧ stmt'.mapNumbers f = stmt := by
    rw [Program.mapNumbers, List.getElem?_map] at hk
    exact Option.map_eq_some_iff.mp hk
  refine ⟨?_, ?_, ?_, ?_, ?_⟩
  · have hvars : (p.mapNumbers f).stmts.map (·.var) = p.stmts.map (·.var) := by
      rw [Program.mapNumbers, List.map_map]
      rfl
    exact hvars.trans h.single
  · intro k stmt hk
    obtain ⟨stmt', hk', rfl⟩ := hstmt hk
    rw [Stmt.mapNumbers, Expr.vars_mapNumbers]
    exact h.reads k stmt' hk'
  · intro k stmt v hk hv
    obtain ⟨stmt', hk', rfl⟩ := hstmt hk
    exact (h.typed k stmt' v hk' hv).mapNumbers f
  · intro e he
    obtain ⟨e', he', rfl⟩ := ProgramResult.eq_value_of_mapNumbers f he
    rw [Expr.vars_mapNumbers]
    exact h.resultReads e' he'
  · intro e he
    obtain ⟨e', he', rfl⟩ := ProgramResult.eq_value_of_mapNumbers f he
    exact (h.resultTyped e' he').mapNumbers f

/-- The variables stay, and what holds of the new numbers follows from what held of the old. -/
theorem Spelled.mapNumbers (hf : ∀ x, P x → Q (f x)) (h : p.Spelled P) :
    (p.mapNumbers f).Spelled Q := by
  refine ⟨h.wellFormed.mapNumbers, h.names, h.plain, ?_, ?_⟩
  · intro stmt hstmt
    obtain ⟨stmt', hstmt', rfl⟩ := List.mem_map.mp hstmt
    exact Expr.forall_numbers_mapNumbers f hf (h.numbers stmt' hstmt')
  · intro e he
    obtain ⟨e', he', rfl⟩ := ProgramResult.eq_value_of_mapNumbers f he
    exact Expr.forall_numbers_mapNumbers f hf (h.resultNumbers e' he')

end Program

/-! ## Values that are alike -/

/-- Values of one type whose numbers are alike. -/
inductive Signal.Alike : Signal → Signal → Prop where
  | scalar {a b : Float32} (h : Number.Alike a b) : Alike (.scalar a) (.scalar b)
  | vector {v w : Vec3} (h : v.Alike w) : Alike (.vector v) (.vector w)

namespace Signal.Alike

variable {x y : Signal}

theorem refl (x : Signal) : x.Alike x := by
  cases x with
  | scalar a => exact .scalar (.refl a)
  | vector v => exact .vector (.refl v)

theorem toScalar (h : x.Alike y) : Number.Alike x.toScalar y.toScalar := by
  cases h with
  | scalar h => exact h
  | vector h => exact h.x

theorem toVector (h : x.Alike y) : x.toVector.Alike y.toVector := by
  cases h with
  | scalar h => exact .splat h
  | vector h => exact h

end Signal.Alike

/-- Registers that hold values that are alike. -/
structure Registers.Alike (r r' : Registers) : Prop where
  size : r.size = r'.size
  read : ∀ i, (r.read i).Alike (r'.read i)

theorem Vec3.Alike.of {v w : Vec3} (h : v.Alike w) (axis : Axis) :
    Number.Alike (axis.of v) (axis.of w) := by
  cases axis
  · exact h.x
  · exact h.y
  · exact h.z

variable {f}

/-- Numbers that are alike, in registers that are alike, give an expression a value that is
alike. -/
theorem Expr.eval_alike {r r' : Registers} (hr : r.Alike r') (s : Sample) {e : Expr}
    (he : ∀ x ∈ e.numbers, Alike x (f x)) :
    (e.eval r s).Alike ((e.mapNumbers f).eval r' s) := by
  induction e with
  | scalar a => exact .scalar (he a (List.mem_singleton.mpr rfl))
  | vector v =>
    simp only [numbers, Vec3.numbers, List.forall_mem_cons] at he
    exact .vector ⟨he.1, he.2.1, he.2.2.1⟩
  | time | position => exact .refl _
  | var i => exact hr.read i
  | broadcast e ih => exact .vector (ih he).toVector
  | component e axis ih => exact .scalar ((ih he).toVector.of axis)
  | combine x y z ihx ihy ihz =>
    simp only [numbers, List.forall_mem_append] at he
    exact .vector ⟨(ihx he.1.1).toScalar, (ihy he.1.2).toScalar, (ihz he.2).toScalar⟩
  | math op a b iha ihb =>
    simp only [numbers, List.forall_mem_append] at he
    exact .scalar (op.apply_alike (iha he.1).toScalar (ihb he.2).toScalar)
  | vectorMath op a b factor iha ihb ihf =>
    simp only [numbers, List.forall_mem_append] at he
    have houtcome := op.apply_alike (iha he.1.1).toVector (ihb he.1.2).toVector (ihf he.2).toScalar
    simp only [eval, mapNumbers]
    split
    · exact .scalar houtcome.value
    · exact .vector houtcome.vector
  | wave settings point phase ihp ihq =>
    simp only [numbers, WaveSettings.numbers, List.forall_mem_append, List.forall_mem_cons] at he
    obtain ⟨⟨⟨hscale, hdistortion, hdetailScale, hroughness, -⟩, hp⟩, hq⟩ := he
    have hsettings : settings.Alike (settings.mapNumbers f) :=
      ⟨rfl, rfl, rfl, rfl, hscale, hdistortion, hdetailScale, hroughness⟩
    exact .scalar (WaveSettings.texture_alike hsettings (ihp hp).toVector (ihq hq).toScalar)
  | noise point factor ihp ihf =>
    simp only [numbers, List.forall_mem_append] at he
    exact .scalar (Simplex.texture_alike (ihp he.1).toVector (ihf he.2).toScalar)

namespace Program

variable {p : Program}

/-- A statement leaves registers alike. -/
theorem step_alike {r r' : Registers} (hr : r.Alike r') (s : Sample) {stmt : Stmt}
    (hstmt : ∀ x ∈ stmt.expr.numbers, Alike x (f x)) :
    (step s r stmt).Alike (step s r' (stmt.mapNumbers f)) := by
  have hvalue := Expr.eval_alike hr s hstmt
  refine ⟨by simp [step, hr.size], fun i => ?_⟩
  have hread := hr.read i
  simp only [Registers.read] at hread
  simp only [Registers.read, step, Stmt.mapNumbers, Array.getElem?_setIfInBounds, hr.size]
  by_cases hi : stmt.var = i
  · by_cases hlt : i < r'.size
    · simpa [hi, hlt] using hvalue
    · simpa [hi, hlt] using .refl _
  · simpa [hi] using hread

/-- A run over numbers that are alike fills the registers alike. -/
theorem run_alike (h : p.Spelled fun x => Alike x (f x)) (s : Sample) :
    (p.run s).Alike ((p.mapNumbers f).run s) := by
  have hfold {stmts : List Stmt} {r r' : Registers} (hr : r.Alike r')
      (hstmts : ∀ stmt ∈ stmts, ∀ x ∈ stmt.expr.numbers, Alike x (f x)) :
      (stmts.foldl (step s) r).Alike ((stmts.map (·.mapNumbers f)).foldl (step s) r') := by
    induction stmts generalizing r r' with
    | nil => exact hr
    | cons stmt rest ih =>
      rw [List.forall_mem_cons] at hstmts
      exact ih (step_alike hr s hstmts.1) hstmts.2
  exact hfold ⟨rfl, fun i => .refl _⟩ h.numbers

/-- The height over numbers that are alike is alike. -/
theorem height?_alike (h : p.Spelled fun x => Alike x (f x)) (s : Sample) :
    Option.Rel Alike (p.height? s) ((p.mapNumbers f).height? s) := by
  have hrun := run_alike h s
  have hresult : (p.mapNumbers f).result = p.result.mapNumbers f := rfl
  rw [height?, height?, resultOver?, resultOver?, hresult]
  cases hp : p.result with
  | value e => exact .some (Expr.eval_alike hrun s (h.resultNumbers e hp)).toScalar.clampUnit
  | zero => exact .some (.refl 0)
  | errorColor => exact .none

end Program
end Heightfield
