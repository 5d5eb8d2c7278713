import Heightfield.Proofs.Program.Identifier
import Heightfield.Proofs.Program.WellFormed
import Heightfield.Proofs.Shader.Literal

/-!
# Programs whose text can be read

The text of a program says everything about it, if its variables have distinct plain names and its
numbers have texts of their own. The lowering gives such names to every graph; the numbers are the
settings of its nodes, with zeros where a setting is missing.

* `Graph.Regular` graphs have only numbers with texts of their own.
* `Program.Spelled` says how the variables of a program are named and what holds of its numbers;
  `spelled_lower` derives it from the settings of the graph.
* `Program.Legible` programs can be read, and `legible_lower` says that regular graphs are lowered
  to them.
-/

namespace Heightfield

open Number

/-! ## Numbers in expressions and graphs -/

/-- The numbers of a vector. -/
def Vec3.numbers (v : Vec3) : List Float32 := [v.x, v.y, v.z]

/-- The numbers that a wave texture is set by. -/
def WaveSettings.numbers (w : WaveSettings) : List Float32 :=
  [w.waveScale, w.distortion, w.detailScale, w.detailRoughness]

/-- The numbers that are written in an expression. -/
def Expr.numbers : Expr → List Float32
  | .scalar a => [a]
  | .vector v => v.numbers
  | .time => []
  | .position => []
  | .var _ => []
  | .broadcast e => e.numbers
  | .component e _ => e.numbers
  | .combine x y z => x.numbers ++ y.numbers ++ z.numbers
  | .math _ a b => a.numbers ++ b.numbers
  | .vectorMath _ a b factor => a.numbers ++ b.numbers ++ factor.numbers
  | .wave settings point phase => settings.numbers ++ point.numbers ++ phase.numbers
  | .noise point factor => point.numbers ++ factor.numbers

/-- All numbers that are written in an expression are regular. -/
def Expr.Regular (e : Expr) : Prop := ∀ x ∈ e.numbers, Number.Regular x

instance (e : Expr) : Decidable e.Regular := inferInstanceAs (Decidable (∀ x ∈ e.numbers, _))

/-- The settings of a node that become numbers of its program. The speed of time and the range of a
parameter do not. -/
def NodeKind.numbers : NodeKind → List Float32
  | .value a => [a]
  | .parameter p => [p.value]
  | .vector v => v.numbers
  | .combineXyz v => v.numbers
  | .math _ second => [second]
  | .vectorMath _ scale => [scale]
  | .waveTexture settings => settings.numbers
  | .noiseTexture scale => [scale]
  | .time _ => []
  | .position => []
  | .separateXyz => []
  | .output => []

/-- All numbers of a graph are finite and not the negative zero. -/
def Graph.Regular (g : Graph) : Prop := ∀ n ∈ g.nodes, ∀ x ∈ n.kind.numbers, Number.Regular x

instance (g : Graph) : Decidable g.Regular := inferInstanceAs (Decidable (∀ n ∈ g.nodes, _))

theorem Expr.numbers_coerce (e : Expr) (source target : SocketType) :
    (e.coerce source target).numbers = e.numbers := by
  cases source <;> cases target <;> rfl

/-! ## The definitions of a node -/

namespace NodeKind

/-- A definition is for one of a few sockets. -/
theorem socket_of_mem_block {k : NodeKind} {next : Nat} {read : String → Option Expr}
    {d : Definition} (hd : d ∈ k.block next read) :
    d.socket ∈ ["value", "vector", "in", "x", "y", "z"] := by
  cases k with
  | vectorMath op =>
    simp only [block] at hd
    split at hd <;> simp only [List.mem_cons, List.not_mem_nil, or_false] at hd <;>
      rcases hd with rfl | rfl <;> simp
  | separateXyz =>
    simp only [block, List.mem_cons, List.not_mem_nil, or_false] at hd
    rcases hd with rfl | rfl | rfl | rfl <;> simp
  | output => simp [block] at hd
  | _ =>
    simp only [block, List.mem_singleton] at hd
    subst hd
    simp

/-- Sockets are named by letters. -/
theorem isAlphanum_socket {k : NodeKind} {next : Nat} {read : String → Option Expr}
    {d : Definition} (hd : d ∈ k.block next read) : ∀ c ∈ d.socket.toList, c.isAlphanum = true := by
  have hnames : ∀ name ∈ ["value", "vector", "in", "x", "y", "z"],
      name.toList.all Char.isAlphanum = true := by decide
  exact List.all_eq_true.mp (hnames d.socket (socket_of_mem_block hd))

variable {P : Float32 → Prop}

theorem numbers_getD {e? : Option Expr} {fallback : Expr}
    (h : ∀ e, e? = some e → ∀ x ∈ e.numbers, P x) (h' : ∀ x ∈ fallback.numbers, P x) :
    ∀ x ∈ (e?.getD fallback).numbers, P x := by
  cases e? with
  | none => exact h'
  | some e => exact h e rfl

/-- The numbers in the definitions of a node are its settings, zeros, and those of the expressions
that are read. -/
theorem numbers_of_mem_block (hzero : P 0) {k : NodeKind} (hk : ∀ x ∈ k.numbers, P x) {next : Nat}
    {read : String → Option Expr} (hread : ∀ socket e, read socket = some e → ∀ x ∈ e.numbers, P x)
    {d : Definition} (hd : d ∈ k.block next read) : ∀ x ∈ d.expr.numbers, P x := by
  have hscalar {a : Float32} (ha : P a) : ∀ x ∈ (Expr.scalar a).numbers, P x := by
    simpa [Expr.numbers] using ha
  have horigin : ∀ x ∈ (Expr.vector Vec3.zero).numbers, P x := by
    simp [Expr.numbers, Vec3.numbers, Vec3.zero, hzero]
  have hposition : ∀ x ∈ Expr.position.numbers, P x := by simp [Expr.numbers]
  have hselected (e : Expr) (he : e.numbers = []) : ∀ x ∈ e.numbers, P x := by simp [he]
  cases k with
  | time | position =>
    obtain rfl := List.mem_singleton.mp hd
    exact hselected _ rfl
  | value a | parameter p | vector v =>
    obtain rfl := List.mem_singleton.mp hd
    exact hk
  | combineXyz v =>
    obtain rfl := List.mem_singleton.mp hd
    simp only [numbers, Vec3.numbers, List.forall_mem_cons] at hk
    simp only [Expr.numbers, List.forall_mem_append]
    exact ⟨⟨numbers_getD (hread "x") (hscalar hk.1), numbers_getD (hread "y") (hscalar hk.2.1)⟩,
      numbers_getD (hread "z") (hscalar hk.2.2.1)⟩
  | separateXyz =>
    simp only [block, List.mem_cons, List.not_mem_nil, or_false] at hd
    rcases hd with rfl | rfl | rfl | rfl
    · exact numbers_getD (hread "vector") horigin
    all_goals exact hselected _ rfl
  | math op second =>
    obtain rfl := List.mem_singleton.mp hd
    simp only [Expr.numbers, List.forall_mem_append]
    exact ⟨numbers_getD (hread "a") (hscalar hzero),
      numbers_getD (hread "b") (hscalar (hk second (List.mem_singleton.mpr rfl)))⟩
  | vectorMath op scale =>
    have hop : ∀ x ∈ (Expr.vectorMath op ((read "a").getD (.vector Vec3.zero))
        ((read "b").getD (.vector Vec3.zero)) ((read "scale").getD (.scalar scale))).numbers,
        P x := by
      simp only [Expr.numbers, List.forall_mem_append]
      exact ⟨⟨numbers_getD (hread "a") horigin, numbers_getD (hread "b") horigin⟩,
        numbers_getD (hread "scale") (hscalar (hk scale (List.mem_singleton.mpr rfl)))⟩
    simp only [block] at hd
    split at hd <;> simp only [List.mem_cons, List.not_mem_nil, or_false] at hd <;>
      rcases hd with rfl | rfl
    · exact hop
    · exact hselected _ rfl
    · exact hop
    · exact hselected _ rfl
  | waveTexture settings =>
    obtain rfl := List.mem_singleton.mp hd
    simp only [Expr.numbers, List.forall_mem_append]
    exact ⟨⟨hk, numbers_getD (hread "vector") hposition⟩,
      numbers_getD (hread "phase") (hscalar hzero)⟩
  | noiseTexture scale =>
    obtain rfl := List.mem_singleton.mp hd
    simp only [Expr.numbers, List.forall_mem_append]
    exact ⟨numbers_getD (hread "vector") hposition,
      numbers_getD (hread "scale") (hscalar (hk scale (List.mem_singleton.mpr rfl)))⟩
  | output => simp [block] at hd

end NodeKind

/-! ## The walk -/

namespace Walk

/-- The slots of a walk have distinct plain names, and something holds of their numbers. -/
structure Spelled (P : Float32 → Prop) (w : Walk) : Prop where
  names : (w.slots.map (·.name)).Nodup
  plain : ∀ slot ∈ w.slots, Identifier.Plain slot.name
  numbers : ∀ slot ∈ w.slots, ∀ x ∈ slot.expr.numbers, P x

variable {P : Float32 → Prop} {w : Walk}

theorem Spelled.init : Spelled P {} := ⟨List.nodup_nil, by simp, by simp⟩

theorem Spelled.define (h : w.Spelled P) (node : String) {d : Definition}
    (hsocket : ∀ c ∈ d.socket.toList, c.isAlphanum = true) (hnumbers : ∀ x ∈ d.expr.numbers, P x) :
    (w.define node d).Spelled P := by
  let name := Identifier.fresh (w.slots.map (·.name)) (Identifier.base node d.socket)
  have hslots : (w.define node d).slots = w.slots ++ [⟨node, d.socket, name, d.type, d.expr⟩] := rfl
  have hnew : name ∉ w.slots.map (·.name) := Identifier.fresh_not_mem _ _
  refine ⟨?_, ?_, ?_⟩
  · rw [hslots, List.map_append, List.map_singleton, List.nodup_append]
    refine ⟨h.names, List.nodup_singleton _, ?_⟩
    rintro a ha b hb rfl
    obtain rfl := List.mem_singleton.mp hb
    exact hnew ha
  · rw [hslots, List.forall_mem_append, List.forall_mem_singleton]
    exact ⟨h.plain, Identifier.plain_fresh (Identifier.plain_base node hsocket)⟩
  · rw [hslots, List.forall_mem_append, List.forall_mem_singleton]
    exact ⟨h.numbers, hnumbers⟩

theorem Spelled.defineAll (h : w.Spelled P) (node : String) {ds : List Definition}
    (hsocket : ∀ d ∈ ds, ∀ c ∈ d.socket.toList, c.isAlphanum = true)
    (hnumbers : ∀ d ∈ ds, ∀ x ∈ d.expr.numbers, P x) : (w.defineAll node ds).Spelled P := by
  induction ds generalizing w with
  | nil => exact h
  | cons d rest ih =>
    rw [List.forall_mem_cons] at hsocket hnumbers
    exact ih (h.define node hsocket.1 hnumbers.1) hsocket.2 hnumbers.2

end Walk

namespace Lowering

variable {g : Graph} {w : Walk}

/-- What a socket holds is a variable or a component of one. -/
theorem numbers_outlet? {n : Node} {socket : String} {p : Expr × SocketType}
    (h : outlet? w n socket = some p) : p.1.numbers = [] := by
  unfold outlet? at h
  split at h
  · obtain ⟨i, -, rfl⟩ := Option.map_eq_some_iff.mp h
    rfl
  · split at h
    · cases h
    · obtain ⟨i, -, rfl⟩ := Option.map_eq_some_iff.mp h
      split <;> rfl

/-- What is read has no numbers of its own. -/
theorem numbers_input {visit : Node → Walk → Walk} {id socket : String} {expected : SocketType}
    {e : Expr} (h : (input visit g id socket expected w).1 = some e) : e.numbers = [] := by
  cases hsource : g.source? id socket with
  | none => simp [input_of_none hsource] at h
  | some src =>
    rw [input_of_some hsource] at h
    obtain ⟨p, hp, rfl⟩ := Option.map_eq_some_iff.mp h
    rw [Expr.numbers_coerce, numbers_outlet? hp]

theorem numbers_inputs {visit : Node → Walk → Walk} {id : String}
    (sockets : List (String × SocketType)) :
    ∀ p ∈ (inputs visit g id sockets w).1, p.2.numbers = [] := by
  induction sockets generalizing w with
  | nil => simp [inputs]
  | cons s rest ih =>
    obtain ⟨socket, expected⟩ := s
    intro p hp
    simp only [inputs] at hp
    cases he : (input visit g id socket expected w).1 with
    | none =>
      rw [he] at hp
      exact ih p hp
    | some e =>
      rw [he] at hp
      rcases List.mem_cons.mp hp with rfl | hp
      · exact numbers_input he
      · exact ih p hp

/-- What holds of the settings of a graph and of zero holds of the numbers of its walk. -/
theorem visit_spelled {P : Float32 → Prop} (hzero : P 0)
    (hg : ∀ n ∈ g.nodes, ∀ x ∈ n.kind.numbers, P x) (fuel : Nat) {n : Node} (hn : n ∈ g.nodes)
    (hw : w.Spelled P) : (visit g fuel n w).Spelled P := by
  induction fuel generalizing n w with
  | zero => exact hw
  | succ fuel ih =>
    by_cases hid : n.id ∈ w.visited
    · rw [visit_of_mem hid]
      exact hw
    · have hvisit : ∀ m w, g.node? m.id = some m → w.Spelled P → (visit g fuel m w).Spelled P :=
        fun m w hm => ih (List.mem_of_find?_eq_some hm)
      have hinputs := inputs_rel n.id (R := fun w w' => w.Spelled P → w'.Spelled P)
        (fun _ h => h) (fun h h' hw => h' (h hw)) hvisit n.kind.operands (w.enter n.id)
        ⟨hw.names, hw.plain, hw.numbers⟩
      rw [visit_of_not_mem hid]
      -- what is read has no numbers, so those of the definitions are settings of the node
      refine hinputs.defineAll n.id (fun d => NodeKind.isAlphanum_socket) fun d =>
        NodeKind.numbers_of_mem_block hzero (hg n hn) fun socket e he => ?_
      rw [numbers_inputs n.kind.operands (socket, e) (mem_of_lookup he)]
      simp

end Lowering

/-! ## The program of a graph -/

namespace Program

/-- A well-formed program whose variables have distinct plain names; something holds of its
numbers. -/
structure Spelled (P : Float32 → Prop) (p : Program) : Prop where
  wellFormed : p.WellFormed
  names : (p.vars.map (·.name)).Nodup
  plain : ∀ v ∈ p.vars, Identifier.Plain v.name
  numbers : ∀ stmt ∈ p.stmts, ∀ x ∈ stmt.expr.numbers, P x
  resultNumbers : ∀ e, p.result = .value e → ∀ x ∈ e.numbers, P x

/-- A program whose text says everything about it. -/
abbrev Legible (p : Program) : Prop := p.Spelled Number.Regular

/-- What holds of the numbers may be weakened. -/
theorem Spelled.mono {P Q : Float32 → Prop} {p : Program} (hPQ : ∀ x, P x → Q x)
    (h : p.Spelled P) : p.Spelled Q :=
  ⟨h.wellFormed, h.names, h.plain, fun stmt hstmt x hx => hPQ x (h.numbers stmt hstmt x hx),
    fun e he x hx => hPQ x (h.resultNumbers e he x hx)⟩

theorem Spelled.constant {P : Float32 → Prop} {result : ProgramResult}
    (h : ∀ e, result ≠ .value e) (useWorldPos : Bool) :
    (Program.constant result useWorldPos).Spelled P := by
  refine ⟨.constant h useWorldPos, List.nodup_nil, ?_, ?_, fun e he => absurd he (h e)⟩ <;>
    simp [Program.constant]

end Program

/-- The program of a walk is spelled as the walk is, if it is well formed and its result is. -/
theorem Walk.Spelled.program {P : Float32 → Prop} {w : Walk} (hw : w.Spelled P)
    {result : ProgramResult} (hresult : ∀ e, result = .value e → ∀ x ∈ e.numbers, P x)
    {useWorldPos : Bool} (h : (w.program result useWorldPos).WellFormed) :
    (w.program result useWorldPos).Spelled P := by
  refine ⟨h, ?_, ?_, ?_, hresult⟩
  · rw [Walk.vars_program, List.map_map]
    exact hw.names
  · intro v hv
    obtain ⟨slot, hslot, rfl⟩ := List.mem_map.mp hv
    exact hw.plain slot hslot
  · intro stmt hstmt
    obtain ⟨k, hk⟩ := List.mem_iff_getElem?.mp hstmt
    rw [Walk.stmts_program, Slot.getElem?_statements] at hk
    obtain ⟨slot, hslot, rfl⟩ := Option.map_eq_some_iff.mp hk
    exact hw.numbers slot (List.mem_of_getElem? hslot)

/-- Every graph is lowered to a program with distinct plain names. What holds of the settings of the
graph and of zero holds of the numbers of the program. -/
theorem spelled_lower {P : Float32 → Prop} (hzero : P 0) {g : Graph}
    (hg : ∀ n ∈ g.nodes, ∀ x ∈ n.kind.numbers, P x) (useWorldPos : Bool) :
    (lower g useWorldPos).Spelled P := by
  have hwellFormed := wellFormed_lower g useWorldPos
  obtain ⟨result, hresult, heq⟩ | ⟨n, result, hn, heq, hresult⟩ := lower_cases g useWorldPos
  · rw [heq]
    exact .constant hresult useWorldPos
  · rw [heq] at hwellFormed ⊢
    have hw := Lowering.visit_spelled hzero hg g.nodes.length (List.mem_of_find?_eq_some hn)
      Walk.Spelled.init
    refine hw.program (fun e he => ?_) hwellFormed
    -- the result is a variable or a component of one, so it has no numbers
    obtain ⟨socket, p, hp, rfl⟩ := hresult e he
    rw [Expr.numbers_coerce, Lowering.numbers_outlet? hp]
    simp

/-- A regular graph is lowered to a program that can be read. -/
theorem legible_lower {g : Graph} (hg : g.Regular) (useWorldPos : Bool) :
    (lower g useWorldPos).Legible :=
  spelled_lower regular_zero hg useWorldPos

end Heightfield
