import Heightfield.Proofs.Heightmap.Sampling
import Heightfield.Proofs.Shader.Written

/-!
# Refusing a graph's own shader

A generator refuses the source that failed last without trying it again. A graph's own shader never
fails, since its source is that of its program; but it is refused if its source has failed under
another program before. Nothing else stands in its way.

* `Operation.Mislabels` submissions bring a source and another program, and
  `Generator.rejectedSource_run` says that no other source is remembered as failed.
* `Operation.not_mislabels_append` says that a compiled shader with more text behind it has the
  source of no graph.
* `Generator.run_update_own` says when a graph's own shader takes effect, and
  `Generator.update_own_of_appends` that compiled shaders with more text are never in its way.
* `Generator.run_update_refused` is an own shader that is refused.
-/

namespace Heightfield

/-! ## Sources that go on -/

section Append

variable {p q : Program} {text : String}

/-- The lines of statements and of the result start with a blank. -/
theorem Program.head?_line (p : Program) :
    ∀ l ∈ p.stmts.map (Shader.statement .wgsl p) ++ Shader.ending .wgsl p,
      l.toList.head? = some ' ' := by
  rw [List.forall_mem_append, List.forall_mem_map]
  refine ⟨fun stmt _ => ?_, ?_⟩
  · rw [Shader.toList_statement_wgsl]
    rfl
  · rw [Shader.ending_eq]
    cases Shader.resultOf? p.result with
    | none =>
      dsimp only
      decide
    | some e =>
      simp only [Shader.writeHeight, List.forall_mem_cons]
      refine ⟨?_, by decide, by simp⟩
      simp only [String.toList_append, toString]
      rfl

/-- No source is the beginning of another one. -/
theorem Program.Legible.eq_empty_of_source_append (hp : p.Legible) (hq : q.Legible)
    (h : p.source .wgsl ++ text = q.source .wgsl) : text = "" := by
  have hworld : p.useWorldPos = q.useWorldPos := by
    obtain ⟨rest, hrest⟩ := Shader.scales_source p
    refine Shader.Scales.unique ⟨rest ++ text, ?_⟩ (Shader.scales_source q)
    rw [← h, hrest, String.append_assoc]
  rw [source_eq_unlines, source_eq_unlines, hworld, ← String.toList_inj, String.toList_append,
    String.toList_append, String.toList_append, List.append_assoc, List.append_cancel_left_eq,
    ← String.toList_append, String.toList_inj] at h
  -- the brace that closes a program stands in no line before
  have hbrace (p : Program) :
      "\x7d" ∉ p.stmts.map (Shader.statement .wgsl p) ++ Shader.ending .wgsl p := fun hmem =>
    absurd (p.head?_line _ hmem) (by decide)
  obtain ⟨rest, hrows, htext⟩ :=
    Shader.exists_append_of_unlines hp.oneLine_lines hq.oneLine_lines h
  rw [← List.append_assoc, ← List.append_assoc, List.append_assoc _ _ rest] at hrows
  obtain ⟨-, hrest⟩ := Shader.eq_of_append_cons_eq (hbrace q) (hbrace p) hrows
  rw [htext, (List.append_eq_nil_iff.mp hrest.symm).2]
  rfl

/-- No source of a graph is the beginning of another one. -/
theorem eq_empty_of_source_lower_append {g h : Graph} {a b : Bool}
    (heq : (lower g a).source .wgsl ++ text = (lower h b).source .wgsl) : text = "" := by
  have hg : (lower g a).Spelled fun _ => True := spelled_lower trivial (by simp) a
  have hh : (lower h b).Spelled fun _ => True := spelled_lower trivial (by simp) b
  rw [← Program.source_written, ← Program.source_written (lower h b)] at heq
  exact hg.legible_written.eq_empty_of_source_append hh.legible_written heq

end Append

namespace Generator

variable {g : Generator} {c : HeightmapConfig} {adapter : Adapter} {source : String}

/-! ## What is remembered as failed -/

/-- The operation submits the source together with a program that it is not the source of. -/
def Operation.Mislabels (source : String) : Operation → Prop
  | .update _ (some shader) =>
    shader.dialect = .wgsl ∧ shader.source = source ∧ shader.program.source .wgsl ≠ source
  | _ => False

/-- A compiled shader with more text behind it, or without, mislabels the source of no graph. -/
theorem Operation.not_mislabels_append (graph shader own : Graph) (o : CompileOptions)
    (text : String) (useWorldPos : Bool) :
    ¬ (update graph (some { compile shader o with
      source := (compile shader o).source ++ text })).Mislabels
        (compile own ⟨useWorldPos, .wgsl⟩).source := by
  rintro ⟨hdialect, hsource, hne⟩
  simp only [compile] at hdialect hsource hne
  rw [hdialect] at hsource
  obtain rfl := eq_empty_of_source_lower_append hsource
  rw [String.append_empty] at hsource
  exact hne hsource

/-- A shader that a submission stands for and whose source is not that of its program was
submitted as it is. -/
theorem mislabels_of_submitted {graph : Graph} {precompiled : Option CompiledShader}
    (hsource : (g.submitted graph precompiled).source = source)
    (hne : (g.submitted graph precompiled).program.source .wgsl ≠ source) :
    (Operation.update graph precompiled).Mislabels source := by
  have hown := source_own graph g.config.useWorldPos
  cases precompiled with
  | none => exact absurd (hown.trans hsource) hne
  | some shader =>
    rw [submitted] at hsource hne
    split at hsource
    next hdialect =>
      rw [if_pos hdialect] at hne
      exact ⟨hdialect, hsource, hne⟩
    next hdialect =>
      rw [if_neg hdialect] at hne
      exact absurd (hown.trans hsource) hne

theorem rejectedSource_perform {operation : Operation}
    (h : (g.perform operation).rejectedSource = some source) :
    g.rejectedSource = some source ∨ operation.Mislabels source := by
  cases operation with
  | update graph precompiled =>
    obtain ⟨_, hupdate⟩ := g.update_eq_submit graph precompiled
    rw [perform, hupdate] at h
    obtain hbefore | ⟨hsource, hne⟩ := rejectedSource_submit h
    · exact .inl hbefore
    · exact .inr (mislabels_of_submitted hsource hne)
  | setTime time => exact .inl h
  | render =>
    obtain ⟨registers, pixels, heq⟩ := g.render_keeps
    rw [perform, heq] at h
    exact .inl h

/-- A source that is remembered as failed was remembered before or has been submitted with another
program. -/
theorem rejectedSource_run {operations : List Operation}
    (h : (g.run operations).rejectedSource = some source) :
    g.rejectedSource = some source ∨ ∃ operation ∈ operations, operation.Mislabels source := by
  induction operations generalizing g with
  | nil => exact .inl h
  | cons operation rest ih =>
    obtain hbefore | ⟨operation', hmem, hlabel⟩ := ih h
    · obtain hbefore | hlabel := rejectedSource_perform hbefore
      · exact .inl hbefore
      · exact .inr ⟨operation, List.mem_cons_self, hlabel⟩
    · exact .inr ⟨operation', List.mem_cons_of_mem _ hmem, hlabel⟩

/-! ## A graph's own shader -/

/-- A graph's own shader is refused if its source is not installed and failed last, and for no other
reason; otherwise its source is installed afterwards. -/
theorem update_own (g : Generator) (graph : Graph) :
    let own := compile graph ⟨g.config.useWorldPos, .wgsl⟩
    ((g.update graph none).1 = .rejected ↔
      own.source ≠ g.installedSource ∧ g.rejectedSource = some own.source) ∧
    ((g.update graph none).1 ≠ .rejected →
      (g.update graph none).2.1.installedSource = own.source) := by
  intro own
  obtain ⟨_, hupdate⟩ := g.update_eq_submit graph none
  have hsubmitted : g.submitted graph none = own := rfl
  rw [hupdate, hsubmitted]
  obtain ⟨hsame, heq⟩ | ⟨hne, hfailed, heq⟩ | ⟨-, hfailed, -, _, heq⟩ | ⟨-, -, hsource, -⟩ :=
    g.submit_outcomes own
  · rw [heq]
    exact ⟨iff_of_false nofun fun h => h.1 hsame, fun _ => hsame.symm⟩
  · rw [heq]
    exact ⟨iff_of_true rfl ⟨hne, hfailed⟩, fun h => absurd rfl h⟩
  · rw [heq]
    exact ⟨iff_of_false nofun fun h => hfailed h.2, fun _ => by simp only [install]⟩
  · exact absurd (source_own graph g.config.useWorldPos) hsource

/-- A graph's own shader takes effect if and only if its source is installed or did not fail
last. -/
theorem update_own_iff (hconfig : g.config = c) (graph : Graph) :
    let own := compile graph ⟨c.useWorldPos, .wgsl⟩
    let outcome := g.update graph none
    (outcome.1 = .installed ∨ outcome.1 = .unchanged) ∧
        outcome.2.1.installedSource = own.source ↔
      own.source = g.installedSource ∨ g.rejectedSource ≠ some own.source := by
  intro own outcome
  subst hconfig
  obtain ⟨hrejected, hsource⟩ := g.update_own graph
  constructor
  · rintro ⟨houtcome, -⟩
    by_contra hnot
    rw [not_or, not_not] at hnot
    have heq : outcome.1 = .rejected := hrejected.mpr hnot
    rw [heq] at houtcome
    exact houtcome.elim nofun nofun
  · intro hnot
    have haccepted : outcome.1 ≠ .rejected := by
      intro heq
      obtain ⟨hne, hfailed⟩ := hrejected.mp heq
      exact hnot.elim hne fun h => h hfailed
    refine ⟨?_, hsource haccepted⟩
    cases heq : outcome.1 with
    | unchanged => exact .inr rfl
    | installed => exact .inl rfl
    | rejected => exact absurd heq haccepted

/-- A new generator remembers no source as failed, so a source that it remembers later has been
submitted with another program. -/
theorem mislabels_of_rejectedSource_run (h : (create c adapter).2 = .ok g)
    {operations : List Operation} (hfailed : (g.run operations).rejectedSource = some source) :
    ∃ operation ∈ operations, operation.Mislabels source := by
  obtain hbefore | hlabel := rejectedSource_run hfailed
  · obtain ⟨-, rfl⟩ := eq_blank_of_create h
    cases hbefore
  · exact hlabel

/-- Whatever a new generator has been through, a graph's own shader takes effect if and only if its
source is installed or did not fail last. It is refused otherwise, and it can only have failed with
a program that it is not the source of. -/
theorem run_update_own (h : (create c adapter).2 = .ok g) (operations : List Operation)
    (graph : Graph) :
    let g' := g.run operations
    let own := compile graph ⟨c.useWorldPos, .wgsl⟩
    let outcome := g'.update graph none
    ((outcome.1 = .installed ∨ outcome.1 = .unchanged) ∧
        outcome.2.1.installedSource = own.source ↔
      own.source = g'.installedSource ∨ g'.rejectedSource ≠ some own.source) ∧
    (g'.rejectedSource = some own.source →
      ∃ operation ∈ operations, operation.Mislabels own.source) := by
  intro g' own outcome
  have hconfig : g'.config = c := ((Sized.of_create h).run operations).config
  exact ⟨update_own_iff hconfig graph, mislabels_of_rejectedSource_run h⟩

/-- Each shader that the operation brings is a compiled one, with or without more text behind it. -/
def Operation.Appends : Operation → Prop
  | .update _ (some shader) => ∃ graph o text, shader =
      { compile graph o with source := (compile graph o).source ++ text }
  | _ => True

theorem Operation.Appends.not_mislabels {operation : Operation} (h : operation.Appends)
    (own : Graph) (useWorldPos : Bool) :
    ¬ operation.Mislabels (compile own ⟨useWorldPos, .wgsl⟩).source := by
  match operation, h with
  | .update graph (some _), ⟨shader, o, text, rfl⟩ =>
    exact not_mislabels_append graph shader own o text useWorldPos
  | .update _ none, _ | .setTime _, _ | .render, _ => exact id

/-- Compiled shaders with more text behind them are never in the way of a graph's own shader. -/
theorem update_own_of_appends (h : (create c adapter).2 = .ok g) {operations : List Operation}
    (ho : ∀ operation ∈ operations, operation.Appends) (graph : Graph) :
    let outcome := (g.run operations).update graph none
    (outcome.1 = .installed ∨ outcome.1 = .unchanged) ∧
      outcome.2.1.installedSource = (compile graph ⟨c.useWorldPos, .wgsl⟩).source := by
  intro outcome
  have hconfig := ((Sized.of_create h).run operations).config
  refine (update_own_iff hconfig graph).mpr (.inr fun hfailed => ?_)
  obtain ⟨operation, hmem, hlabel⟩ := mislabels_of_rejectedSource_run h hfailed
  exact (ho operation hmem).not_mislabels graph _ hlabel

/-- The configuration of four texels. -/
def small : HeightmapConfig := { resolution := 2, backend := .software }

theorem create_small : ∃ g, (create small).2 = .ok g := ⟨_, rfl⟩

/-- Broken shaders of other graphs, and even of the graph itself, do no harm. -/
theorem run_update_own_slope : ∃ start, (create small).2 = .ok start ∧
    let own := compile slope ⟨false, .wgsl⟩
    let other := compile {} ⟨true, .wgsl⟩
    let operations := [.update slope (some { own with source := own.source ++ "no shader" }),
      .update slope (some { other with source := other.source ++ "\x7d" }), .update {} none,
      .render]
    let outcome := (start.run operations).update slope none
    (∀ operation ∈ operations, ¬ operation.Mislabels own.source) ∧
      (outcome.1 = .installed ∨ outcome.1 = .unchanged) ∧
      outcome.2.1.installedSource = own.source := by
  obtain ⟨start, hcreate⟩ := create_small
  refine ⟨start, hcreate, ?_⟩
  intro own other operations
  have hoperations : ∀ operation ∈ operations, ¬ operation.Mislabels own.source := by
    simp only [operations, List.forall_mem_cons]
    exact ⟨Operation.not_mislabels_append slope slope slope _ _ false,
      Operation.not_mislabels_append slope {} slope _ _ false, nofun, nofun, nofun⟩
  obtain ⟨htakes, hfailed⟩ := run_update_own hcreate operations slope
  refine ⟨hoperations, htakes.mpr (.inr fun heq => ?_)⟩
  obtain ⟨operation, hmem, hlabel⟩ := hfailed heq
  exact hoperations operation hmem hlabel

/-- A source that is submitted with another program is remembered as failed. -/
theorem perform_mislabelled (g : Generator) (graph : Graph) (shader : CompiledShader)
    (hdialect : shader.dialect = .wgsl) (hne : shader.source ≠ g.installedSource)
    (hlabel : shader.program.source .wgsl ≠ shader.source) :
    (g.perform (.update graph (some shader))).rejectedSource = some shader.source ∧
      (g.perform (.update graph (some shader))).installedSource = g.installedSource ∧
      (g.perform (.update graph (some shader))).config = g.config := by
  obtain ⟨_, hupdate⟩ := g.update_eq_submit graph (some shader)
  rw [perform, hupdate, submitted, if_pos hdialect]
  obtain ⟨hsame, -⟩ | ⟨-, hfailed, heq⟩ | ⟨-, -, hsource, -⟩ | ⟨-, -, -, _, heq⟩ :=
    g.submit_outcomes shader
  · exact absurd hsame hne
  · rw [heq]
    exact ⟨hfailed, rfl, rfl⟩
  · exact absurd hsource hlabel
  · rw [heq]
    exact ⟨rfl, rfl, rfl⟩

/-- After its source was submitted with another program, a graph's own shader is refused. -/
theorem update_own_of_mislabelled (g : Generator) (graph : Graph) (shader : CompiledShader)
    (hdialect : shader.dialect = .wgsl) (hne : shader.source ≠ g.installedSource)
    (hlabel : shader.program.source .wgsl ≠ shader.source)
    (hsource : shader.source = (compile graph ⟨g.config.useWorldPos, .wgsl⟩).source) :
    let outcome := (g.perform (.update graph (some shader))).update graph none
    outcome.1 = .rejected ∧
      outcome.2.1.installedSource ≠ (compile graph ⟨g.config.useWorldPos, .wgsl⟩).source := by
  intro outcome
  obtain ⟨hfailed, hinstalled, hconfig⟩ := g.perform_mislabelled graph shader hdialect hne hlabel
  obtain ⟨hrejected, -⟩ := (g.perform (.update graph (some shader))).update_own graph
  rw [hconfig, ← hsource, hinstalled] at hrejected
  have hrefused : outcome.1 = .rejected := hrejected.mpr ⟨hne, hfailed⟩
  refine ⟨hrefused, ?_⟩
  rw [((update_answers _ graph none).rejected hrefused).2.1, hinstalled, ← hsource]
  exact hne.symm

/-- The empty graph's own shader is refused, and not installed, once its source was submitted with
the program that is zero everywhere. -/
theorem run_update_refused : ∃ start, (create small).2 = .ok start ∧
    let own := compile {} ⟨false, .wgsl⟩
    let operation := .update {} (some ⟨own.source, .constant .zero false, .wgsl⟩)
    let outcome := (start.run [operation]).update {} none
    outcome.1 = .rejected ∧ outcome.2.1.installedSource ≠ own.source := by
  obtain ⟨start, hcreate⟩ := create_small
  have hown := source_compile_empty false
  have hworld : start.config.useWorldPos = false := by
    rw [(Sized.of_create hcreate).config]
    rfl
  have hstart : start.installedSource = (Program.constant .zero false).source .wgsl := by
    obtain ⟨-, rfl⟩ := eq_blank_of_create hcreate
    rfl
  have hne : (compile {} ⟨false, .wgsl⟩).source ≠ start.installedSource := by
    rw [hown, hstart]
    exact source_errorColor_ne false
  have hlabel : (Program.constant .zero false).source .wgsl ≠
      (compile {} ⟨false, .wgsl⟩).source := by
    rw [hown]
    exact (source_errorColor_ne false).symm
  have hrefused := start.update_own_of_mislabelled {}
    ⟨(compile {} ⟨false, .wgsl⟩).source, .constant .zero false, .wgsl⟩ rfl hne hlabel
    (by rw [hworld])
  have hrun (operation : Operation) : start.perform operation = start.run [operation] := rfl
  rw [hrun, hworld] at hrefused
  exact ⟨start, hcreate, hrefused⟩

end Generator
end Heightfield
