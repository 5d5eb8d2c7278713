import Heightfield.Proofs.Program.Naming
import Heightfield.Proofs.Program.Rename
import Heightfield.Proofs.Shader.Written

/-!
# Names in shader text

Besides the names of variables a shader text holds words of its own: keywords, functions, variables
of the fixed lines. The names of a lowered program are none of them, nor a part of one, so a node
cannot be called in a way that breaks the shader. How nodes are called has no other effect either.

* `Shader.Quiet` text holds nothing that a name starts with, and stays so if it is put together.
* `Program.quiet_unnamed` says that the source of a program without names is quiet.
* `lower_hygienic` puts together what holds of the names of a lowered program.
-/

namespace Heightfield

open Identifier

namespace Shader

/-! ## Quiet text -/

/-- The text goes on as a name does: `n_` stands first, and what follows, if anything, may stand in
a name. -/
def StartsName (cs : List Char) : Prop :=
  ['n', '_'] <+: cs ∧ (cs.drop 2).head?.all (IsPlain ·) = true

instance (cs : List Char) : Decidable (StartsName cs) := inferInstanceAs (Decidable (_ ∧ _))

/-- No name stands in the text, and none comes about with what stands before it or behind it. -/
structure Quiet (cs : List Char) : Prop where
  start : cs.head? ≠ some '_'
  rests : ∀ rest, rest <:+ cs → ¬ StartsName rest

instance (cs : List Char) : Decidable (Quiet cs) :=
  decidable_of_iff (cs.head? ≠ some '_' ∧ ∀ rest ∈ cs.tails, ¬ StartsName rest)
    ⟨fun h => ⟨h.1, fun rest hrest => h.2 rest ((List.mem_tails rest cs).mpr hrest)⟩,
      fun h => ⟨h.start, fun rest hrest => h.rests rest ((List.mem_tails rest cs).mp hrest)⟩⟩

variable {cs tail : List Char}

theorem quiet_nil : Quiet [] := by decide

/-- Text without underscores is quiet. -/
theorem quiet_of_not_mem (h : '_' ∉ cs) : Quiet cs := by
  refine ⟨fun hhead => h (List.mem_of_head? hhead), fun rest hrest hname => h ?_⟩
  exact hrest.subset (hname.1.subset (by simp))

/-- A name does not start across the border to a text that starts otherwise than with an
underscore. -/
theorem StartsName.of_append (h : StartsName (cs ++ tail)) (hne : cs ≠ [])
    (htail : tail.head? ≠ some '_') : StartsName cs := by
  obtain ⟨⟨rest, hrest⟩, hplain⟩ := h
  match cs with
  | [a] =>
    simp only [List.cons_append, List.nil_append, List.cons.injEq] at hrest
    obtain ⟨-, rfl⟩ := hrest
    exact absurd rfl htail
  | a :: b :: more =>
    simp only [List.cons_append, List.nil_append, List.cons.injEq] at hrest
    obtain ⟨rfl, rfl, -⟩ := hrest
    refine ⟨⟨more, rfl⟩, ?_⟩
    cases more with
    | nil => rfl
    | cons => exact hplain

theorem Quiet.append (h : Quiet cs) (htail : Quiet tail) : Quiet (cs ++ tail) := by
  obtain ⟨hstart, hrests⟩ := h
  refine ⟨?_, ?_⟩
  · cases cs with
    | nil => exact htail.start
    | cons => exact hstart
  · clear hstart
    induction cs with
    | nil => exact htail.rests
    | cons c rest ih =>
      intro text htext hname
      rcases List.suffix_cons_iff.mp htext with rfl | htext
      · exact hrests _ List.suffix_rfl (hname.of_append (List.cons_ne_nil _ _) htail.start)
      · exact ih (fun text h => hrests text (h.trans (List.suffix_cons _ _))) text htext hname

/-- Whether a literal is quiet can be decided from its characters; to get them back from the literal
would take long. -/
theorem quiet_ofList (h : Quiet cs) : Quiet (String.ofList cs).toList := by
  rwa [String.toList_ofList]

/-- Text that is put together of quiet pieces is quiet. -/
theorem quiet_flatten {pieces : List (List Char)} (h : ∀ piece ∈ pieces, Quiet piece) :
    Quiet pieces.flatten := by
  induction pieces with
  | nil => exact quiet_nil
  | cons piece rest ih =>
    rw [List.forall_mem_cons] at h
    exact h.1.append (ih h.2)

theorem quiet_join {pieces : List String} (h : ∀ piece ∈ pieces, Quiet piece.toList) :
    Quiet (String.join pieces).toList := by
  rw [String.toList_join]
  exact quiet_flatten (List.forall_mem_map.mpr h)

theorem quiet_unlines {ls : List String} (h : ∀ l ∈ ls, Quiet l.toList) :
    Quiet (unlines ls).toList := by
  refine quiet_join (List.forall_mem_map.mpr fun l hl => ?_)
  rw [String.toList_append]
  exact (h l hl).append (by decide)

/-- No tidy name stands in quiet text. -/
theorem Quiet.not_occurs (h : Quiet cs) {name : String} (hname : Tidy name) :
    ¬ name.toList <:+: cs := by
  intro hinfix
  obtain ⟨rest, ⟨behind, rfl⟩, hsuffix⟩ := List.infix_iff_prefix_suffix.mp hinfix
  refine h.rests _ hsuffix ⟨hname.starts.trans (List.prefix_append _ _), ?_⟩
  -- something plain follows `n_`, as the underscore does not stand last
  obtain ⟨more, hmore⟩ := hname.starts
  have hplain := hname.chars
  have hstop := hname.stop
  rw [← hmore] at hplain hstop ⊢
  cases more with
  | nil => exact absurd rfl hstop
  | cons c more => exact decide_eq_true (hplain c (by simp))

/-! ## Tokens -/

variable {d : Dialect}

theorem quiet_whole (n : Nat) : Quiet ((Token.whole n).spell d).toList := by
  refine quiet_of_not_mem fun hmem => ?_
  simp only [Token.spell, Nat.toString_eq_repr, Nat.toList_repr] at hmem
  exact absurd (Number.isDigit_toDigits hmem) (by decide)

theorem quiet_number (x : Float32) : Quiet ((Token.number x).spell d).toList := by
  refine quiet_of_not_mem fun hmem => ?_
  rw [Token.spell, ← formatFloat_written] at hmem
  rcases forall_mem_formatFloat (regular_written x) _ hmem with h | h | h <;>
    exact absurd h (by decide)

theorem quiet_vocabulary (d : Dialect) : Vocabulary fun t => Quiet (t.spell d).toList :=
  ⟨by cases d <;> decide, quiet_whole, quiet_number _⟩

end Shader

open Shader

/-- An expression is written quietly but for the names of its variables. -/
theorem Expr.quiet {d : Dialect} {name : Nat → String} (hname : ∀ i, Quiet (name i).toList)
    (e : Expr) : Quiet (spellAll d (e.tokens name)).toList :=
  quiet_join (List.forall_mem_map.mpr
    (e.forall_tokens (quiet_vocabulary d) hname fun x _ => quiet_number x))

namespace Shader

/-! ## Lines -/

variable {d : Dialect} {p : Program}

theorem quiet_statement (hname : ∀ i, Quiet (p.varName i).toList) (stmt : Stmt) :
    Quiet (statement d p stmt).toList := by
  have htype (d : Dialect) (t : SocketType) : Quiet ((typeToken t).spell d).toList := by
    cases d <;> cases t <;> decide
  have hvalue (d : Dialect) : Quiet (spellAll d (stmt.expr.tokens p.varName)).toList :=
    stmt.expr.quiet hname
  cases d with
  | wgsl =>
    have htext : statement .wgsl p stmt = String.join
        ["  let ", p.varName stmt.var, ": ", (typeToken (p.varType stmt.var)).spell .wgsl, " = ",
          spellAll .wgsl (stmt.expr.tokens p.varName), ";"] := by
      simp [statement, String.join, toString]
    rw [htext]
    refine quiet_join ?_
    simp only [List.forall_mem_cons]
    exact ⟨by decide, hname _, by decide, htype _ _, by decide, hvalue _, by decide,
      List.forall_mem_nil _⟩
  | glsl =>
    have htext : statement .glsl p stmt = String.join
        ["  ", (typeToken (p.varType stmt.var)).spell .glsl, " ", p.varName stmt.var, " = ",
          spellAll .glsl (stmt.expr.tokens p.varName), ";"] := by
      simp [statement, String.join, toString]
    rw [htext]
    refine quiet_join ?_
    simp only [List.forall_mem_cons]
    exact ⟨by decide, htype _ _, by decide, hname _, by decide, hvalue _, by decide,
      List.forall_mem_nil _⟩

set_option maxRecDepth 4000 in
/-- The lines that are the same in all shaders of a dialect are quiet. -/
theorem quiet_fixedLines : ∀ ls ∈ [Wgsl.preludeLines, Wgsl.libraryLines, Glsl.preludeLines,
    Glsl.libraryLines], ∀ l ∈ ls, Quiet l.toList := by
  repeat' refine List.forall_mem_cons.mpr ⟨?_, ?_⟩
  all_goals first
    | exact List.forall_mem_nil _
    | exact quiet_ofList (by decide +kernel)

/-- The lines up to the statements are quiet. -/
theorem quiet_header (d : Dialect) (useWorldPos : Bool) :
    ∀ l ∈ header d useWorldPos ++ opening d useWorldPos, Quiet l.toList := by
  cases d with
  | wgsl =>
    have hprelude := quiet_fixedLines Wgsl.preludeLines (by simp)
    have hlibrary := quiet_fixedLines Wgsl.libraryLines (by simp)
    simp only [header, List.forall_mem_append, and_assoc]
    refine ⟨hprelude, by decide, hlibrary, by decide +kernel, ?_⟩
    cases useWorldPos <;> decide +kernel
  | glsl =>
    have hprelude := quiet_fixedLines Glsl.preludeLines (by simp)
    have hlibrary := quiet_fixedLines Glsl.libraryLines (by simp)
    simp only [header, List.forall_mem_append, and_assoc]
    refine ⟨by decide +kernel, ?_, by decide +kernel, hprelude, by decide, hlibrary, by decide, ?_⟩
    all_goals cases useWorldPos <;> decide +kernel

theorem quiet_writeHeight {value : String} (h : Quiet value.toList) :
    ∀ l ∈ writeHeight d value, Quiet l.toList := by
  have hline {start : String} (hstart : Quiet start.toList) :
      Quiet (start ++ value ++ ", 0.0, 1.0);").toList := by
    rw [String.toList_append, String.toList_append]
    exact (hstart.append h).append (quiet_ofList (by decide))
  cases d with
  | wgsl =>
    refine List.forall_mem_cons.mpr ⟨hline (quiet_ofList (by decide)), ?_⟩
    exact List.forall_mem_singleton.mpr (by decide +kernel)
  | glsl =>
    refine List.forall_mem_cons.mpr ⟨hline (quiet_ofList (by decide)), ?_⟩
    exact List.forall_mem_singleton.mpr (by decide +kernel)

theorem quiet_ending (hname : ∀ i, Quiet (p.varName i).toList) :
    ∀ l ∈ ending d p, Quiet l.toList := by
  rw [ending_eq]
  cases resultOf? p.result with
  | none =>
    dsimp only
    cases d <;> decide
  | some e => exact quiet_writeHeight (e.quiet hname)

end Shader

namespace Program

/-- If the names are quiet, so is the whole source. -/
theorem quiet_source {p : Program} (hname : ∀ i, Quiet (p.varName i).toList) (d : Dialect) :
    Quiet (p.source d).toList := by
  rw [source_eq_unlines, String.toList_append]
  refine (quiet_unlines (quiet_header d _)).append (quiet_unlines ?_)
  simp only [List.forall_mem_append, List.forall_mem_map, List.forall_mem_singleton]
  exact ⟨fun stmt _ => quiet_statement hname stmt, quiet_ending hname, by decide⟩

/-- The program without names for its variables. -/
def unnamed (p : Program) : Program :=
  { p with vars := p.vars.map fun v => { v with name := "" } }

theorem varName_unnamed (p : Program) (i : Nat) : p.unnamed.varName i = "" := by
  rw [varName, unnamed, List.getElem?_map]
  cases p.vars[i]? <;> rfl

/-- Without the names, nothing in the source of a program looks like one. -/
theorem quiet_unnamed (p : Program) (d : Dialect) : Quiet (p.unnamed.source d).toList :=
  quiet_source (fun i => by rw [varName_unnamed]; exact quiet_nil) d

end Program

/-! ## Lowered programs -/

/-- **Names are hygienic.** Whatever the ids of the nodes are, the variables of a program have
distinct and tidy names, no name stands anywhere in the fixed text of a shader, and a name leads
back to its variable. Under other ids, if they are told apart as the old ones are, the program is
the same but for the names of its variables. -/
theorem lower_hygienic (g : Graph) (useWorldPos : Bool) :
    ((lower g useWorldPos).vars.map (·.name)).Nodup ∧
      (∀ v ∈ (lower g useWorldPos).vars, Tidy v.name ∧
        ∀ (q : Program) (d : Dialect), ¬ v.name.toList <:+: (q.unnamed.source d).toList) ∧
      (∀ k v, (lower g useWorldPos).vars[k]? = some v →
        (lower g useWorldPos).varNamed? v.name = some k) ∧
      ∀ r, g.ToldApart r →
        (lower (g.rename r) useWorldPos).vars.map (·.type) =
            (lower g useWorldPos).vars.map (·.type) ∧
          (lower (g.rename r) useWorldPos).stmts = (lower g useWorldPos).stmts ∧
          (lower (g.rename r) useWorldPos).result = (lower g useWorldPos).result ∧
          (lower (g.rename r) useWorldPos).useWorldPos = (lower g useWorldPos).useWorldPos := by
  have hnames : ((lower g useWorldPos).vars.map (·.name)).Nodup :=
    (spelled_lower (P := fun _ => True) trivial (by simp) useWorldPos).names
  refine ⟨hnames, fun v hv => ?_, fun k v => Program.varNamed?_eq hnames,
    fun r hr => lower_rename hr useWorldPos⟩
  have htidy := tidy_lower g useWorldPos v hv
  exact ⟨htidy, fun q d => (q.quiet_unnamed d).not_occurs htidy⟩

/-- Two values whose ids become one name, and nodes whose ids hold no letters at all. -/
def Graph.lookalikes : Graph where
  nodes := [⟨"a-b", .value 1, [], 0, 0⟩, ⟨"a_b", .value 2, [], 0, 0⟩, ⟨"", .math .add 0, [], 0, 0⟩,
    ⟨"é", .output, [], 0, 0⟩]
  connections := [.between "a-b" "value" "" "a", .between "a_b" "value" "" "b",
    .between "" "value" "é" "value"]

theorem lower_hygienic_lookalikes :
    ((lower Graph.lookalikes false).vars.map (·.name)) =
      ["n_a_b_value", "n_a_b_value_2", "n_node_value"] ∧
    (lower Graph.lookalikes false).varNamed? "n_a_b_value_2" = some 1 ∧
    Graph.lookalikes.ToldApart ("node 7" ++ ·) ∧
    (lower (Graph.lookalikes.rename ("node 7" ++ ·)) false).stmts =
      (lower Graph.lookalikes false).stmts := by
  obtain ⟨-, -, hnamed, hrename⟩ := lower_hygienic Graph.lookalikes false
  have hr : Graph.lookalikes.ToldApart ("node 7" ++ ·) := by
    intro a _ b _ h
    simpa using h
  exact ⟨by decide, hnamed 1 ⟨"n_a_b_value_2", .scalar⟩ (by decide), hr, (hrename _ hr).2.1⟩

end Heightfield
