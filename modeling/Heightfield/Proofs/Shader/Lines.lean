import Heightfield.Proofs.Shader.OneLine
import Heightfield.Shader.Source

/-!
# Equal sources mean equal heights

A source is, in either dialect, a text of lines, and its lines say which variables there are, what
their values are and what the result is. Two programs that can be read and have one source therefore
compute the same heights, though they may differ as programs: a missing result is written like a
zero, and so are phrases that come about in two ways.

* `Shader.unlines_inj` takes a text apart into lines, and `Shader.eq_of_statement_eq` a line into
  the name of a variable and its value.
* `Program.Legible.read_run_eq` says that the registers of two such programs agree.
* `Program.Legible.height?_eq` is the result.
-/

namespace Heightfield

namespace Shader

variable {d : Dialect}

/-! ## Lines -/

/-- What stands before the first occurrence of an element, and what stands behind it. -/
theorem eq_of_append_cons_eq {α : Type} {a : α} {l l' rest rest' : List α} (hl : a ∉ l)
    (hl' : a ∉ l') (h : l ++ a :: rest = l' ++ a :: rest') : l = l' ∧ rest = rest' := by
  induction l generalizing l' with
  | nil =>
    cases l' with
    | nil => exact ⟨rfl, (List.cons.inj h).2⟩
    | cons b l' => exact absurd (List.cons.inj h).1 fun heq => hl' (heq ▸ List.mem_cons_self)
  | cons b l ih =>
    cases l' with
    | nil => exact absurd (List.cons.inj h).1 fun heq => hl (heq ▸ List.mem_cons_self)
    | cons b' l' =>
      obtain ⟨rfl, htail⟩ := List.cons.inj h
      obtain ⟨rfl, hrest⟩ := ih (fun hmem => hl (List.mem_cons_of_mem _ hmem))
        (fun hmem => hl' (List.mem_cons_of_mem _ hmem)) htail
      exact ⟨rfl, hrest⟩

theorem toList_unlines (ls : List String) :
    (unlines ls).toList = ls.flatMap fun l => l.toList ++ ['\n'] := by
  rw [unlines, String.toList_join, List.flatMap_map]
  congr 1
  funext l
  simp

theorem unlines_append (ls ls' : List String) :
    unlines (ls ++ ls') = unlines ls ++ unlines ls' := by
  rw [← String.toList_inj, String.toList_append]
  simp only [toList_unlines, List.flatMap_append]

/-- A text that goes on as lines do has lines that it goes on in. -/
theorem exists_append_of_unlines {ls ls' : List String} {text : String}
    (hls : ∀ l ∈ ls, '\n' ∉ l.toList) (hls' : ∀ l ∈ ls', '\n' ∉ l.toList)
    (h : unlines ls ++ text = unlines ls') : ∃ rest, ls' = ls ++ rest ∧ text = unlines rest := by
  have hlists := congrArg String.toList h
  rw [String.toList_append, toList_unlines, toList_unlines] at hlists
  clear h
  induction ls generalizing ls' with
  | nil => exact ⟨ls', rfl, String.toList_inj.mp (by rw [toList_unlines]; exact hlists)⟩
  | cons l rest ih =>
    cases ls' with
    | nil => simp at hlists
    | cons l' rest' =>
      rw [List.forall_mem_cons] at hls hls'
      simp only [List.flatMap_cons, List.append_assoc, List.singleton_append] at hlists
      obtain ⟨hline, hrest⟩ := eq_of_append_cons_eq hls.1 hls'.1 hlists
      obtain ⟨more, rfl, htext⟩ := ih hls.2 hls'.2 hrest
      exact ⟨more, by rw [String.toList_inj.mp hline, List.cons_append], htext⟩

theorem eq_nil_of_unlines {ls : List String} (h : unlines ls = "") : ls = [] := by
  cases ls with
  | nil => rfl
  | cons l rest =>
    have hlists := congrArg String.toList h
    simp [toList_unlines] at hlists

/-- A text determines its lines. -/
theorem unlines_inj {ls ls' : List String} (hls : ∀ l ∈ ls, '\n' ∉ l.toList)
    (hls' : ∀ l ∈ ls', '\n' ∉ l.toList) (h : unlines ls = unlines ls') : ls = ls' := by
  have hnothing : unlines ls ++ "" = unlines ls' := by rw [String.append_empty, h]
  obtain ⟨rest, rfl, hrest⟩ := exists_append_of_unlines hls hls' hnothing
  rw [eq_nil_of_unlines hrest.symm, List.append_nil]

/-! ## Statements -/

/-- The characters of a WGSL statement. -/
theorem toList_statement_wgsl (p : Program) (stmt : Stmt) :
    (statement .wgsl p stmt).toList = "  let ".toList ++ ((p.varName stmt.var).toList ++
      ':' :: ' ' :: (((typeToken (p.varType stmt.var)).spell .wgsl).toList ++ [' '] ++
        '=' :: ' ' :: (chars .wgsl (stmt.expr.tokens p.varName) ++ [';']))) := by
  simp [statement, ← toList_spellAll, toString]

/-- The characters of a GLSL statement. -/
theorem toList_statement_glsl (p : Program) (stmt : Stmt) :
    (statement .glsl p stmt).toList =
      ' ' :: ' ' :: (((typeToken (p.varType stmt.var)).spell .glsl).toList ++
        ' ' :: ((p.varName stmt.var).toList ++
          ' ' :: '=' :: ' ' :: (chars .glsl (stmt.expr.tokens p.varName) ++ [';']))) := by
  simp [statement, ← toList_spellAll, toString]

/-- A statement says what the name of its variable is and how its value is written. -/
theorem eq_of_statement_eq {p q : Program} {stmt stmt' : Stmt}
    (hp : ∀ c, ¬ Identifier.IsPlain c → c ∉ (p.varName stmt.var).toList)
    (hq : ∀ c, ¬ Identifier.IsPlain c → c ∉ (q.varName stmt'.var).toList)
    (h : statement d p stmt = statement d q stmt') :
    p.varName stmt.var = q.varName stmt'.var ∧
      chars d (stmt.expr.tokens p.varName) = chars d (stmt'.expr.tokens q.varName) := by
  have hlists := congrArg String.toList h
  cases d with
  | wgsl =>
    have htype (t : SocketType) : '=' ∉ ((typeToken t).spell .wgsl).toList ++ [' '] := by
      cases t <;> decide
    have hcolon : ¬ Identifier.IsPlain ':' := by decide
    rw [toList_statement_wgsl, toList_statement_wgsl, List.append_cancel_left_eq] at hlists
    obtain ⟨hname, hrest⟩ := eq_of_append_cons_eq (hp _ hcolon) (hq _ hcolon) hlists
    obtain ⟨-, hvalue⟩ := eq_of_append_cons_eq (htype _) (htype _) (List.cons.inj hrest).2
    exact ⟨String.toList_inj.mp hname, List.append_cancel_right (List.cons.inj hvalue).2⟩
  | glsl =>
    -- the type comes first, and a blank ends it
    have htype (t : SocketType) : ' ' ∉ ((typeToken t).spell .glsl).toList := by
      cases t <;> decide
    have hblank : ¬ Identifier.IsPlain ' ' := by decide
    rw [toList_statement_glsl, toList_statement_glsl] at hlists
    have htail := (List.cons.inj (List.cons.inj hlists).2).2
    obtain ⟨-, hrest⟩ := eq_of_append_cons_eq (htype _) (htype _) htail
    obtain ⟨hname, hvalue⟩ := eq_of_append_cons_eq (hp _ hblank) (hq _ hblank) hrest
    have hvalue := (List.cons.inj (List.cons.inj hvalue).2).2
    exact ⟨String.toList_inj.mp hname, List.append_cancel_right hvalue⟩

/-! ## Endings -/

/-- The expression that a program ends with; without anything that feeds the output it is zero. -/
def resultOf? : ProgramResult → Option Expr
  | .value e => some e
  | .zero => some (.scalar 0)
  | .errorColor => none

theorem eq_of_resultOf? {result : ProgramResult} {e : Expr} (h : resultOf? result = some e) :
    result = .value e ∨ e = .scalar 0 := by
  cases result with
  | value e' =>
    obtain rfl := Option.some.inj h
    exact .inl rfl
  | zero =>
    obtain rfl := Option.some.inj h
    exact .inr rfl
  | errorColor => cases h

theorem ending_eq (d : Dialect) (p : Program) :
    ending d p = match resultOf? p.result with
      | none => [writeColor d "1.0, 0.0, 1.0, 1.0"]
      | some e => writeHeight d (spellAll d (e.tokens p.varName)) := by
  have hzero : spellAll d (literal 0) = "0.0" := by cases d <;> decide
  cases hresult : p.result with
  | value e => simp only [ending, hresult, resultOf?]
  | zero => simp only [ending, hresult, resultOf?, Expr.tokens, hzero]
  | errorColor => simp only [ending, hresult, resultOf?]

/-- A result is not written like a missing output. -/
theorem writeHeight_ne (d : Dialect) (value : String) :
    writeHeight d value ≠ [writeColor d "1.0, 0.0, 1.0, 1.0"] := by
  cases d <;> simp [writeHeight]

/-- The line of a result says what stands in it. -/
theorem writeHeight_inj {value value' : String} (h : writeHeight d value = writeHeight d value') :
    value = value' := by
  cases d <;>
  · have hline := congrArg String.toList (List.cons.inj h).1
    simp only [String.toList_append, toString] at hline
    have hvalue := List.append_cancel_right hline
    rw [List.append_cancel_left_eq] at hvalue
    exact String.toList_inj.mp hvalue

/-- The end of a program says how its result is written. -/
theorem eq_of_ending_eq {p q : Program} (h : ending d p = ending d q) :
    (resultOf? p.result).map (fun e => chars d (e.tokens p.varName)) =
      (resultOf? q.result).map fun e => chars d (e.tokens q.varName) := by
  rw [ending_eq, ending_eq] at h
  cases hp : resultOf? p.result with
  | none =>
    cases hq : resultOf? q.result with
    | none => rfl
    | some e' =>
      rw [hp, hq] at h
      exact absurd h.symm (writeHeight_ne d _)
  | some e =>
    cases hq : resultOf? q.result with
    | none =>
      rw [hp, hq] at h
      exact absurd h (writeHeight_ne d _)
    | some e' =>
      rw [hp, hq] at h
      have hvalue := congrArg String.toList (writeHeight_inj h)
      rw [toList_spellAll, toList_spellAll] at hvalue
      rw [Option.map_some, Option.map_some, hvalue]

end Shader

open Shader

/-- A source is the lines up to the statements and the lines from them on. -/
theorem Program.source_eq_unlines (p : Program) (d : Dialect) :
    p.source d = unlines (header d p.useWorldPos ++ opening d p.useWorldPos) ++
      unlines (p.stmts.map (statement d p) ++ (ending d p ++ ["\x7d"])) := by
  rw [← unlines_append, Program.source, body]
  simp only [List.append_assoc]

namespace Program.Legible

variable {d : Dialect} {p q : Program}

/-! ## The lines of a program -/

/-- The names of the variables. -/
theorem naming (hp : p.Legible) : Naming (p.vars.map (·.name)) :=
  ⟨hp.names, fun name hname => by
    obtain ⟨v, hv, rfl⟩ := List.mem_map.mp hname
    exact hp.plain v hv⟩

theorem plain_varName (hp : p.Legible) {k : Nat} (hk : k < p.vars.length) :
    Identifier.Plain (p.varName k) :=
  hp.naming.plain _ (List.mem_of_getElem? (getElem?_names hk))

/-- A character that stands in no plain name stands in no name. -/
theorem not_mem_varName (hp : p.Legible) {c : Char} (hc : ¬ Identifier.IsPlain c) (k : Nat) :
    c ∉ (p.varName k).toList := by
  by_cases hk : k < p.vars.length
  · exact fun hmem => hc ((hp.plain_varName hk).chars c hmem)
  · rw [varName, List.getElem?_eq_none (Nat.le_of_not_lt hk)]
    exact List.not_mem_nil

theorem oneLine_statement (hp : p.Legible) {stmt : Stmt} (hstmt : stmt ∈ p.stmts) :
    '\n' ∉ (statement d p stmt).toList := by
  have hname := hp.not_mem_varName (c := '\n') (by decide)
  have htype (t : SocketType) : '\n' ∉ ((typeToken t).spell d).toList := by
    cases d <;> cases t <;> decide
  have hvalue : '\n' ∉ chars d (stmt.expr.tokens p.varName) :=
    Expr.oneLine hname (hp.numbers stmt hstmt)
  cases d with
  | wgsl =>
    rw [toList_statement_wgsl]
    simp [hname, htype, hvalue]
  | glsl =>
    rw [toList_statement_glsl]
    simp [hname, htype, hvalue]

/-- The result of a program has only regular numbers. -/
theorem regular_resultOf? (hp : p.Legible) {e : Expr} (he : resultOf? p.result = some e) :
    e.Regular := by
  rcases eq_of_resultOf? he with hvalue | rfl
  · exact hp.resultNumbers e hvalue
  · exact List.forall_mem_singleton.mpr Number.regular_zero

theorem oneLine_ending (hp : p.Legible) : ∀ l ∈ ending d p, '\n' ∉ l.toList := by
  have hname := hp.not_mem_varName (c := '\n') (by decide)
  rw [ending_eq]
  cases he : resultOf? p.result with
  | none =>
    dsimp only
    cases d <;> decide
  | some e =>
    have hvalue : '\n' ∉ chars d (e.tokens p.varName) :=
      Expr.oneLine hname (hp.regular_resultOf? he)
    cases d <;>
    · simp only [writeHeight, List.forall_mem_cons]
      refine ⟨?_, by decide, by simp⟩
      simp [toString, toList_spellAll, hvalue]

/-- What a line that declares the variable of a node starts with. -/
def statementStarts : Dialect → List String
  | .wgsl => ["  let n_"]
  | .glsl => ["  float n_", "  vec3 n_"]

/-- A line that declares the variable of a node. -/
def isStatement (d : Dialect) (l : String) : Bool :=
  (statementStarts d).any fun start => start.toList.isPrefixOf l.toList

theorem isStatement_statement (hp : p.Legible) {stmt : Stmt} (hstmt : stmt ∈ p.stmts) :
    isStatement d (statement d p stmt) = true := by
  obtain ⟨k, hk⟩ := List.mem_iff_getElem?.mp hstmt
  have hlt : k < p.vars.length := by
    rw [← hp.wellFormed.length_stmts]
    exact (List.getElem?_eq_some_iff.mp hk).1
  obtain ⟨rest, hrest⟩ := (hp.plain_varName hlt).starts
  rw [isStatement, List.any_eq_true]
  simp only [List.isPrefixOf_iff_prefix]
  cases d with
  | wgsl =>
    rw [toList_statement_wgsl, hp.wellFormed.var_eq hk, ← hrest]
    exact ⟨_, List.mem_singleton.mpr rfl, _, rfl⟩
  | glsl =>
    rw [toList_statement_glsl, hp.wellFormed.var_eq hk, ← hrest]
    cases p.varType k with
    | scalar => exact ⟨_, List.mem_cons_self, _, rfl⟩
    | vector => exact ⟨_, List.mem_cons_of_mem _ List.mem_cons_self, _, rfl⟩

/-- The end of a program starts otherwise. -/
theorem takeWhile_ending (d : Dialect) (p : Program) :
    (ending d p ++ ["\x7d"]).takeWhile (isStatement d) = [] := by
  rw [ending_eq]
  cases resultOf? p.result with
  | none =>
    dsimp only
    cases d <;> decide
  | some e => cases d <;> simp [writeHeight, isStatement, statementStarts, toString]

theorem oneLine_lines (hp : p.Legible) :
    ∀ l ∈ p.stmts.map (statement d p) ++ (ending d p ++ ["\x7d"]), '\n' ∉ l.toList := by
  simp only [List.forall_mem_append, List.forall_mem_map, List.forall_mem_singleton]
  exact ⟨fun stmt => hp.oneLine_statement, hp.oneLine_ending, by decide⟩

/-- The lines of a source that say what the program is. -/
theorem lines_eq (hp : p.Legible) (hq : q.Legible) (hworld : p.useWorldPos = q.useWorldPos)
    (h : p.source d = q.source d) :
    p.stmts.map (statement d p) = q.stmts.map (statement d q) ∧
      ending d p = ending d q := by
  have hstatements {p : Program} (hp : p.Legible) :
      ∀ l ∈ p.stmts.map (statement d p), isStatement d l = true :=
    List.forall_mem_map.mpr fun stmt => hp.isStatement_statement
  -- the lines before the statements are the same
  have htext : unlines (p.stmts.map (statement d p) ++ (ending d p ++ ["\x7d"])) =
      unlines (q.stmts.map (statement d q) ++ (ending d q ++ ["\x7d"])) := by
    rw [source_eq_unlines, source_eq_unlines, hworld, ← String.toList_inj, String.toList_append,
      String.toList_append, List.append_cancel_left_eq] at h
    exact String.toList_inj.mp h
  have hrows := unlines_inj hp.oneLine_lines hq.oneLine_lines htext
  have hmap := congrArg (List.takeWhile (isStatement d)) hrows
  rw [List.takeWhile_append_of_pos (hstatements hp), takeWhile_ending,
    List.takeWhile_append_of_pos (hstatements hq), takeWhile_ending, List.append_nil,
    List.append_nil] at hmap
  refine ⟨hmap, ?_⟩
  rw [hmap, List.append_cancel_left_eq] at hrows
  exact List.append_cancel_right hrows

/-! ## What the lines mean -/

/-- A run leaves values of the declared types. -/
theorem type_read_run (hp : p.Legible) (s : Sample) {k : Nat} {u : SocketType}
    (hu : p.types[k]? = some u) : ((p.run s).read k).type = u := by
  rw [types, List.getElem?_map] at hu
  obtain ⟨v, hv, rfl⟩ := Option.map_eq_some_iff.mp hu
  exact hp.wellFormed.type_run hv

/-- The statements of programs with one source bind the same name, and write the value alike. -/
theorem statements_eq (hp : p.Legible) (hq : q.Legible)
    (h : p.stmts.map (statement d p) = q.stmts.map (statement d q)) {k : Nat} {stmt : Stmt}
    (hk : p.stmts[k]? = some stmt) :
    ∃ stmt', q.stmts[k]? = some stmt' ∧ p.varName k = q.varName k ∧
      chars d (stmt.expr.tokens p.varName) = chars d (stmt'.expr.tokens q.varName) := by
  have hline := congrArg (·[k]?) h
  simp only [List.getElem?_map, hk, Option.map_some] at hline
  obtain ⟨stmt', hk', heq⟩ := Option.map_eq_some_iff.mp hline.symm
  obtain ⟨hname, htext⟩ := eq_of_statement_eq (fun _ hc => hp.not_mem_varName hc _)
    (fun _ hc => hq.not_mem_varName hc _) heq.symm
  rw [hp.wellFormed.var_eq hk, hq.wellFormed.var_eq hk'] at hname
  exact ⟨stmt', hk', hname, htext⟩

/-- Programs with one source have variables of the same names. -/
theorem names_eq (hp : p.Legible) (hq : q.Legible)
    (h : p.stmts.map (statement d p) = q.stmts.map (statement d q)) :
    p.vars.map (·.name) = q.vars.map (·.name) := by
  have hlength : p.vars.length = q.vars.length := by
    rw [← hp.wellFormed.length_stmts, ← hq.wellFormed.length_stmts]
    simpa using congrArg List.length h
  refine List.ext_getElem? fun k => ?_
  by_cases hk : k < p.vars.length
  · rw [getElem?_names hk, getElem?_names (hlength ▸ hk)]
    have hstmt := List.getElem?_eq_getElem (hp.wellFormed.length_stmts ▸ hk)
    obtain ⟨-, -, hname, -⟩ := hp.statements_eq hq h hstmt
    rw [hname]
  · rw [List.getElem?_eq_none (by simpa using hk),
      List.getElem?_eq_none (by simpa [← hlength] using hk)]

/-- Expressions with one text have one value, if the variables that are read agree. -/
theorem eval_eq (hp : p.Legible) (hq : q.Legible) {s : Sample} {e e' : Expr} {t t' : SocketType}
    (hnames : p.vars.map (·.name) = q.vars.map (·.name)) (ht : e.HasType p.types t)
    (ht' : e'.HasType q.types t') (he : e.Regular) (he' : e'.Regular)
    (hread : ∀ i ∈ e'.vars, (p.run s).read i = (q.run s).read i)
    (htext : chars d (e.tokens p.varName) = chars d (e'.tokens q.varName)) :
    e.eval (p.run s) s = e'.eval (q.run s) s := by
  -- both are read over the registers of the first program
  have hfirst : e.eval (p.run s) s = e'.eval (p.run s) s := by
    refine ht.eval_eq ht' hp.naming ht.getElem?_names (hnames ▸ ht'.getElem?_names)
      (fun i _ u hu => hp.type_read_run s hu) (fun i hi u hu => ?_) he he' htext
    rw [hread i hi]
    exact hq.type_read_run s hu
  rw [hfirst, Expr.eval_congr hread]

/-- The registers of programs with one source agree. -/
theorem read_run_eq (hp : p.Legible) (hq : q.Legible)
    (h : p.stmts.map (statement d p) = q.stmts.map (statement d q)) (s : Sample) (k : Nat) :
    (p.run s).read k = (q.run s).read k := by
  have hnames := hp.names_eq hq h
  have hlength : p.vars.length = q.vars.length := by simpa using congrArg List.length hnames
  induction k using Nat.strongRecOn with
  | _ k ih =>
    by_cases hk : k < p.vars.length
    · have hstmt := List.getElem?_eq_getElem (hp.wellFormed.length_stmts ▸ hk)
      obtain ⟨stmt', hstmt', -, htext⟩ := hp.statements_eq hq h hstmt
      rw [hp.wellFormed.read_run hstmt, hq.wellFormed.read_run hstmt']
      refine hp.eval_eq hq hnames
        (hp.wellFormed.typed k _ _ hstmt (List.getElem?_eq_getElem hk))
        (hq.wellFormed.typed k _ _ hstmt' (List.getElem?_eq_getElem (hlength ▸ hk)))
        (hp.numbers _ (List.mem_of_getElem? hstmt)) (hq.numbers _ (List.mem_of_getElem? hstmt'))
        (fun i hi => ih i (hq.wellFormed.reads k _ hstmt' i hi)) htext
    · have hsize := p.size_run s
      have hsize' := q.size_run s
      rw [Registers.read, Registers.read, Array.getElem?_eq_none (by omega),
        Array.getElem?_eq_none (by omega)]

theorem height?_eq_map (p : Program) (s : Sample) :
    p.height? s = (resultOf? p.result).map fun e =>
      Number.clampUnit (e.eval (p.run s) s).toScalar := by
  have hzero : Number.clampUnit 0 = 0 := by decide
  cases hresult : p.result with
  | value e => simp only [height?, resultOver?, hresult, resultOf?, Option.map_some]
  | zero =>
    simp only [height?, resultOver?, hresult, resultOf?, Option.map_some, Expr.eval,
      Signal.toScalar, hzero]
  | errorColor => simp only [height?, resultOver?, hresult, resultOf?, Option.map_none]

theorem typed_resultOf? (hp : p.Legible) {e : Expr} (he : resultOf? p.result = some e) :
    e.HasType p.types .scalar := by
  rcases eq_of_resultOf? he with hvalue | rfl
  · exact hp.wellFormed.resultTyped e hvalue
  · exact .scalar 0

/-- Programs that can be read compute the same heights if they have one source. -/
theorem height?_eq (hp : p.Legible) (hq : q.Legible) (hworld : p.useWorldPos = q.useWorldPos)
    (h : p.source d = q.source d) (s : Sample) : p.height? s = q.height? s := by
  obtain ⟨hstatements, hending⟩ := hp.lines_eq hq hworld h
  have hresult := eq_of_ending_eq hending
  rw [height?_eq_map, height?_eq_map]
  cases he : resultOf? p.result with
  | none =>
    rw [he, Option.map_none] at hresult
    rw [Option.map_eq_none_iff.mp hresult.symm, Option.map_none, Option.map_none]
  | some e =>
    rw [he, Option.map_some] at hresult
    obtain ⟨e', he', htext⟩ := Option.map_eq_some_iff.mp hresult.symm
    have heval := hp.eval_eq hq (hp.names_eq hq hstatements) (hp.typed_resultOf? he)
      (hq.typed_resultOf? he') (hp.regular_resultOf? he) (hq.regular_resultOf? he')
      (fun i _ => hp.read_run_eq hq hstatements s i) htext.symm
    rw [he', Option.map_some, Option.map_some, heval]

end Program.Legible
end Heightfield
