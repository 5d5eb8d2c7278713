import Heightfield.Proofs.Heightmap.Render
import Heightfield.Proofs.Shader.Lines

/-!
# Submitting shaders

What a generator makes of a shader that is submitted to it, whatever has been submitted before. A
shader that was compiled beforehand need not be what it says: its source may belong to another
program. Such a shader is refused, so the installed source is always the text of the program that
is rendered.

* `Generator.Operation` are the operations of a generator, and `Generator.run` performs them in
  turn.
* `Generator.submit_outcomes` lists all that a submission can do, and `Generator.submit_cases` what
  of it can be seen in the installed program.
* `Generator.Coherent` and `Generator.Sized` are the invariants of a run.
* `Generator.run_answers` says how every generator that can be reached answers a submission.
-/

namespace Heightfield
namespace Generator

variable {g : Generator}

/-! ## Operations -/

/-- What can be done with a generator. -/
inductive Operation where
  /-- submits a graph, or a shader compiled beforehand in its place -/
  | update (graph : Graph) (precompiled : Option CompiledShader)
  /-- sets the time of the next frames -/
  | setTime (time : Float32)
  /-- renders a frame -/
  | render
  deriving DecidableEq, Repr

/-- The generator after an operation, whatever became of it. -/
def perform (g : Generator) : Operation → Generator
  | .update graph precompiled => (g.update graph precompiled).2.1
  | .setTime time => g.setTime time
  | .render => g.render

/-- The generator after operations in turn. -/
def run (g : Generator) (operations : List Operation) : Generator :=
  operations.foldl perform g

/-! ## What a submission does -/

/-- The shader that a submission is about: the one that was compiled beforehand, if it is in the
dialect of heightmaps, and otherwise the graph's own. -/
def submitted (g : Generator) (graph : Graph) : Option CompiledShader → CompiledShader
  | none => compile graph ⟨g.config.useWorldPos, .wgsl⟩
  | some shader =>
    if shader.dialect = .wgsl then shader else compile graph ⟨g.config.useWorldPos, .wgsl⟩

theorem submission_fst (g : Generator) (graph : Graph) (precompiled : Option CompiledShader) :
    (g.submission graph precompiled).1 = g.submitted graph precompiled := by
  cases precompiled with
  | none => rfl
  | some shader =>
    rw [submission, submitted]
    split <;> rfl

/-- A graph, or a shader in its place, is submitted as the one shader that it stands for. -/
theorem update_eq_submit (g : Generator) (graph : Graph) (precompiled : Option CompiledShader) :
    ∃ notices, g.update graph precompiled =
      ((g.submit (g.submitted graph precompiled)).1,
        (g.submit (g.submitted graph precompiled)).2.1, notices) := by
  rw [← submission_fst]
  exact ⟨_, rfl⟩

/-- The generator with another program installed. -/
def install (g : Generator) (shader : CompiledShader) : Generator :=
  { g with
    program := shader.program
    installedSource := shader.source
    rejectedSource := none
    relinks := g.relinks + 1 }

/-- The generator that remembers a source as failed. -/
def remember (g : Generator) (source : String) : Generator :=
  { g with rejectedSource := some source, failures := g.failures + 1 }

/-- The source that is installed is not installed again, the source that failed last is not tried
again, and any other shader is installed if and only if its source is that of its program. -/
theorem submit_outcomes (g : Generator) (shader : CompiledShader) :
    (shader.source = g.installedSource ∧ g.submit shader = (.unchanged, g, [])) ∨
    (shader.source ≠ g.installedSource ∧ g.rejectedSource = some shader.source ∧
      g.submit shader = (.rejected, g, [])) ∨
    (shader.source ≠ g.installedSource ∧ g.rejectedSource ≠ some shader.source ∧
      shader.program.source .wgsl = shader.source ∧
      ∃ notices, g.submit shader = (.installed, g.install shader, notices)) ∨
    (shader.source ≠ g.installedSource ∧ g.rejectedSource ≠ some shader.source ∧
      shader.program.source .wgsl ≠ shader.source ∧
      ∃ notices, g.submit shader = (.rejected, g.remember shader.source, notices)) := by
  by_cases hsame : shader.source = g.installedSource
  · exact .inl ⟨hsame, if_pos hsame⟩
  right
  rw [submit, if_neg hsame]
  by_cases hfailed : g.rejectedSource = some shader.source
  · rw [if_pos hfailed]
    exact .inl ⟨hsame, hfailed, rfl⟩
  right
  rw [if_neg hfailed]
  by_cases hbuilds : isBuildable shader = true
  · rw [if_pos hbuilds]
    exact .inl ⟨hsame, hfailed, of_decide_eq_true hbuilds, _, rfl⟩
  · rw [if_neg hbuilds]
    exact .inr ⟨hsame, hfailed, fun hsource => hbuilds (decide_eq_true hsource), _, rfl⟩

/-- A submission changes nothing if the source is the installed one. Otherwise a shader is installed
only if its source is that of its program; and if it is not installed, only the memory of failures
changes. -/
theorem submit_cases (g : Generator) (shader : CompiledShader) :
    (shader.source = g.installedSource ∧ g.submit shader = (.unchanged, g, [])) ∨
    (shader.source ≠ g.installedSource ∧ shader.program.source .wgsl = shader.source ∧
      ∃ notices, g.submit shader = (.installed, g.install shader, notices)) ∨
    (shader.source ≠ g.installedSource ∧ ∃ rejectedSource failures notices,
      g.submit shader = (.rejected, { g with rejectedSource, failures }, notices)) := by
  obtain hsame | ⟨hne, -, heq⟩ | ⟨hne, -, hsource, heq⟩ | ⟨hne, -, -, notices, heq⟩ :=
    g.submit_outcomes shader
  · exact .inl hsame
  · exact .inr (.inr ⟨hne, g.rejectedSource, g.failures, [], heq⟩)
  · exact .inr (.inl ⟨hne, hsource, heq⟩)
  · exact .inr (.inr ⟨hne, some shader.source, g.failures + 1, notices, heq⟩)

/-- A submission makes only its own source one that failed, and only if it is not that of its
program. -/
theorem rejectedSource_submit {shader : CompiledShader} {source : String}
    (h : (g.submit shader).2.1.rejectedSource = some source) :
    g.rejectedSource = some source ∨
      shader.source = source ∧ shader.program.source .wgsl ≠ source := by
  obtain ⟨-, heq⟩ | ⟨-, -, heq⟩ | ⟨-, -, -, _, heq⟩ | ⟨-, -, hne, _, heq⟩ :=
    g.submit_outcomes shader
  · rw [heq] at h
    exact .inl h
  · rw [heq] at h
    exact .inl h
  · rw [heq] at h
    cases h
  · rw [heq] at h
    obtain rfl := Option.some.inj h
    exact .inr ⟨rfl, hne⟩

/-- A graph's own shader has the source of its program. -/
theorem source_own (graph : Graph) (useWorldPos : Bool) :
    (compile graph ⟨useWorldPos, .wgsl⟩).program.source .wgsl =
      (compile graph ⟨useWorldPos, .wgsl⟩).source := by
  simp only [compile]

/-- Rendering changes the registers and the pixels only. -/
theorem render_keeps (g : Generator) : ∃ registers pixels,
    g.render = { g with registers, pixels } := by
  rw [render]
  induction texels g.config.resolution generalizing g with
  | nil => exact ⟨g.registers, g.pixels, rfl⟩
  | cons t rest ih =>
    obtain ⟨registers, pixels, hrest⟩ := ih (g.renderTexel t.1 t.2)
    exact ⟨registers, pixels, hrest⟩

/-! ## Reachable generators -/

/-- The installed source is the text of the program that is rendered. -/
def Coherent (g : Generator) : Prop :=
  g.program.source .wgsl = g.installedSource

theorem Coherent.submit (h : g.Coherent) (shader : CompiledShader) :
    (g.submit shader).2.1.Coherent := by
  obtain ⟨-, heq⟩ | ⟨-, hsource, notices, heq⟩ | ⟨-, rejectedSource, failures, notices, heq⟩ :=
    g.submit_cases shader
  · rw [heq]
    exact h
  · rw [heq]
    exact hsource
  · rw [heq]
    exact h

theorem Coherent.perform (h : g.Coherent) (operation : Operation) :
    (g.perform operation).Coherent := by
  cases operation with
  | update graph precompiled =>
    obtain ⟨notices, heq⟩ := g.update_eq_submit graph precompiled
    rw [Generator.perform, heq]
    exact h.submit _
  | setTime time => exact h
  | render =>
    obtain ⟨registers, pixels, heq⟩ := g.render_keeps
    rw [Generator.perform, heq]
    exact h

theorem Coherent.run (h : g.Coherent) (operations : List Operation) :
    (g.run operations).Coherent := by
  induction operations generalizing g with
  | nil => exact h
  | cons operation rest ih => exact ih (h.perform operation)

theorem Coherent.of_create {c : HeightmapConfig} {adapter : Adapter}
    (h : (create c adapter).2 = .ok g) : g.Coherent := by
  obtain ⟨-, rfl⟩ := eq_blank_of_create h
  exact rfl

/-- The generator has the configuration, which is within bounds, and four bytes for each texel. -/
structure Sized (g : Generator) (c : HeightmapConfig) : Prop where
  config : g.config = c
  bounds : 0 < c.resolution ∧ c.resolution ≤ maxResolution
  size : g.pixels.size = c.resolution * c.resolution * 4

theorem Sized.submit {c : HeightmapConfig} (h : g.Sized c) (shader : CompiledShader) :
    (g.submit shader).2.1.Sized c := by
  obtain ⟨-, heq⟩ | ⟨-, -, notices, heq⟩ | ⟨-, rejectedSource, failures, notices, heq⟩ :=
    g.submit_cases shader <;> rw [heq] <;> exact ⟨h.config, h.bounds, h.size⟩

theorem Sized.perform {c : HeightmapConfig} (h : g.Sized c) (operation : Operation) :
    (g.perform operation).Sized c := by
  cases operation with
  | update graph precompiled =>
    obtain ⟨notices, heq⟩ := g.update_eq_submit graph precompiled
    rw [Generator.perform, heq]
    exact h.submit _
  | setTime time => exact ⟨h.config, h.bounds, h.size⟩
  | render =>
    have hbounds := h.bounds
    have hsize := h.size
    rw [← h.config] at hbounds hsize
    obtain ⟨registers, heq⟩ := render_eq hbounds.2 hsize
    rw [Generator.perform, heq]
    refine ⟨h.config, h.bounds, ?_⟩
    rw [← h.config]
    exact g.size_frame

theorem Sized.run {c : HeightmapConfig} (h : g.Sized c) (operations : List Operation) :
    (g.run operations).Sized c := by
  induction operations generalizing g with
  | nil => exact h
  | cons operation rest ih => exact ih (h.perform operation)

theorem Sized.of_create {c : HeightmapConfig} {adapter : Adapter}
    (h : (create c adapter).2 = .ok g) : g.Sized c := by
  obtain ⟨hvalid, rfl⟩ := eq_blank_of_create h
  exact ⟨rfl, HeightmapConfig.bounds_of_validate hvalid, (Ready.blank hvalid).size⟩

/-! ## Answers -/

/-- What became of a submission, by its outcome. -/
structure Answers (g : Generator) (graph : Graph) (precompiled : Option CompiledShader)
    (outcome : ShaderUpdate × Generator × List Notice) : Prop where
  unchanged_iff : outcome.1 = .unchanged ↔
    (g.submitted graph precompiled).source = g.installedSource
  /-- a new source is installed if it is that of its program and is not the one that failed last -/
  installed_iff : outcome.1 = .installed ↔
    (g.submitted graph precompiled).source ≠ g.installedSource ∧
      g.rejectedSource ≠ some (g.submitted graph precompiled).source ∧
      (g.submitted graph precompiled).program.source .wgsl =
        (g.submitted graph precompiled).source
  /-- and is refused otherwise -/
  rejected_iff : outcome.1 = .rejected ↔
    (g.submitted graph precompiled).source ≠ g.installedSource ∧
      (g.rejectedSource = some (g.submitted graph precompiled).source ∨
        (g.submitted graph precompiled).program.source .wgsl ≠
          (g.submitted graph precompiled).source)
  unchanged : outcome.1 = .unchanged → outcome.2.1 = g
  /-- only the memory of failures may change -/
  rejected : outcome.1 = .rejected →
    outcome.2.1.program = g.program ∧ outcome.2.1.installedSource = g.installedSource ∧
      outcome.2.1.relinks = g.relinks ∧ outcome.2.1.time = g.time ∧
      outcome.2.1.pixels = g.pixels ∧ outcome.2.1.registers = g.registers ∧
      outcome.2.1.config = g.config
  installed : outcome.1 = .installed →
    outcome.2.1.program = (g.submitted graph precompiled).program ∧
      outcome.2.1.installedSource = (g.submitted graph precompiled).source ∧
      outcome.2.1.relinks = g.relinks + 1
  /-- what was installed is not installed again -/
  again : outcome.1 = .installed → (outcome.2.1.update graph precompiled).1 = .unchanged

/-- What was installed is installed already when it comes again. -/
theorem update_install (g : Generator) (graph : Graph) (precompiled : Option CompiledShader) :
    ((g.install (g.submitted graph precompiled)).update graph precompiled).1 = .unchanged := by
  -- the configuration is as before, so the same shader is submitted again
  obtain ⟨_, hagain⟩ := (g.install (g.submitted graph precompiled)).update_eq_submit
    graph precompiled
  have hunchanged : (g.install (g.submitted graph precompiled)).submit
      (g.submitted graph precompiled) =
        (.unchanged, g.install (g.submitted graph precompiled), []) := if_pos rfl
  rw [hagain]
  exact congrArg Prod.fst hunchanged

theorem update_answers (g : Generator) (graph : Graph) (precompiled : Option CompiledShader) :
    g.Answers graph precompiled (g.update graph precompiled) := by
  obtain ⟨notices, hupdate⟩ := g.update_eq_submit graph precompiled
  rw [hupdate]
  obtain ⟨hsame, heq⟩ | ⟨hne, hfailed, heq⟩ | ⟨hne, hfailed, hsource, _, heq⟩ |
      ⟨hne, hfailed, hsource, _, heq⟩ := g.submit_outcomes (g.submitted graph precompiled)
  · rw [heq]
    exact ⟨iff_of_true rfl hsame, iff_of_false nofun fun h => h.1 hsame,
      iff_of_false nofun fun h => h.1 hsame, fun _ => rfl, nofun, nofun, nofun⟩
  · rw [heq]
    exact ⟨iff_of_false nofun hne, iff_of_false nofun fun h => h.2.1 hfailed,
      iff_of_true rfl ⟨hne, .inl hfailed⟩, nofun, fun _ => ⟨rfl, rfl, rfl, rfl, rfl, rfl, rfl⟩,
      nofun, nofun⟩
  · rw [heq]
    exact ⟨iff_of_false nofun hne, iff_of_true rfl ⟨hne, hfailed, hsource⟩,
      iff_of_false nofun fun h => h.2.elim hfailed fun h => h hsource, nofun, nofun,
      fun _ => ⟨rfl, rfl, rfl⟩, fun _ => g.update_install graph precompiled⟩
  · rw [heq]
    exact ⟨iff_of_false nofun hne, iff_of_false nofun fun h => hsource h.2.2,
      iff_of_true rfl ⟨hne, .inr hsource⟩, nofun, fun _ => ⟨rfl, rfl, rfl, rfl, rfl, rfl, rfl⟩,
      nofun, nofun⟩

/-- Whatever a new generator has been through, its installed source is the text of its program, and
what becomes of a submission is told by the source. -/
theorem run_answers {c : HeightmapConfig} {adapter : Adapter} (h : (create c adapter).2 = .ok g)
    (operations : List Operation) :
    (g.run operations).program.source .wgsl = (g.run operations).installedSource ∧
      ∀ graph precompiled, (g.run operations).Answers graph precompiled
        ((g.run operations).update graph precompiled) :=
  ⟨(Coherent.of_create h).run operations, (g.run operations).update_answers⟩

/-- A missing output is not written like a missing connection. -/
theorem source_errorColor_ne (useWorldPos : Bool) :
    (Program.constant .errorColor useWorldPos).source .wgsl ≠
      (Program.constant .zero useWorldPos).source .wgsl := by
  intro heq
  have herror : (Program.constant .errorColor useWorldPos).Legible :=
    .constant (by simp) useWorldPos
  have hzero : (Program.constant .zero useWorldPos).Legible :=
    .constant (by simp) useWorldPos
  obtain ⟨-, hending⟩ := herror.lines_eq hzero rfl heq
  exact Shader.writeHeight_ne .wgsl "0.0" hending.symm

/-- The empty graph has no output. -/
theorem source_compile_empty (useWorldPos : Bool) :
    (compile {} ⟨useWorldPos, .wgsl⟩).source =
      (Program.constant .errorColor useWorldPos).source .wgsl := by
  have hlower : lower {} useWorldPos = .constant .errorColor useWorldPos := rfl
  rw [compile, hlower]

/-- Every source begins with the declaration of the uniforms. -/
theorem head?_source (p : Program) : (p.source .wgsl).toList.head? = some 's' := by
  rw [Program.source, Shader.toList_unlines]
  rfl

/-- A frame installs nothing. -/
theorem run_setTime_render (g : Generator) (time : Float32) :
    (g.run [.setTime time, .render]).installedSource = g.installedSource ∧
      (g.run [.setTime time, .render]).relinks = g.relinks := by
  obtain ⟨registers, pixels, hrender⟩ := (g.setTime time).render_keeps
  have hrun : g.run [.setTime time, .render] = (g.setTime time).render := rfl
  rw [hrun, hrender]
  exact ⟨rfl, rfl⟩

/-- A shader whose source is not that of its program. -/
def mislabelled : CompiledShader := ⟨"no shader", .constant .errorColor false, .wgsl⟩

/-- The source of that shader is that of no program. -/
theorem source_ne_mislabelled (p : Program) : p.source .wgsl ≠ mislabelled.source := by
  intro heq
  have hhead := head?_source p
  rw [heq] at hhead
  exact absurd hhead (by decide)

/-- That shader is always refused. -/
theorem update_mislabelled (h : g.Coherent) (graph : Graph) :
    (g.update graph (some mislabelled)).1 = .rejected := by
  refine (g.update_answers graph (some mislabelled)).rejected_iff.mpr ⟨?_, .inr ?_⟩
  · rw [← h]
    exact (source_ne_mislabelled g.program).symm
  · exact source_ne_mislabelled _

/-- A shader with a wrong source is refused as often as it comes, and the graph's own shader is
installed once after it. -/
theorem run_answers_mislabelled : ∃ g,
    (create { resolution := 2, backend := .software }).2 = .ok g ∧
      let failed := g.run [.update {} (some mislabelled)]
      let shown := g.run [.update {} (some mislabelled), .update {} none, .setTime 0.5, .render]
      (g.update {} (some mislabelled)).1 = .rejected ∧
        (failed.update {} (some mislabelled)).1 = .rejected ∧
        (failed.update {} none).1 = .installed ∧
        (shown.update {} none).1 = .unchanged ∧
        shown.relinks = 1 ∧ shown.program.source .wgsl = shown.installedSource ∧
        ∀ graph precompiled, shown.Answers graph precompiled (shown.update graph precompiled) := by
  have h : ∃ g, (create { resolution := 2, backend := .software }).2 = .ok g := ⟨_, rfl⟩
  obtain ⟨g, h⟩ := h
  refine ⟨g, h, ?_⟩
  intro failed shown
  obtain ⟨hstart, hfirst⟩ := run_answers h []
  obtain ⟨hfailed, hafter⟩ := run_answers h [.update {} (some mislabelled)]
  obtain ⟨hcoherent, hanswers⟩ := run_answers h
    [.update {} (some mislabelled), .update {} none, .setTime 0.5, .render]
  obtain ⟨hsource, hmemory, hcount⟩ : g.installedSource =
      (Program.constant .zero false).source .wgsl ∧ g.rejectedSource = none ∧ g.relinks = 0 := by
    obtain ⟨-, rfl⟩ := eq_blank_of_create h
    exact ⟨rfl, rfl, rfl⟩
  have hsubmitted (operations : List Operation) :
      ((g.run operations).submitted {} none).source =
        (Program.constant .errorColor false).source .wgsl := by
    rw [submitted, ((Sized.of_create h).run operations).config, source_compile_empty]
  have hrefused : (g.update {} (some mislabelled)).1 = .rejected := update_mislabelled hstart {}
  have hagain : (failed.update {} (some mislabelled)).1 = .rejected :=
    update_mislabelled hfailed {}
  obtain ⟨-, hkept, hrelinks, -⟩ := (hfirst {} (some mislabelled)).rejected hrefused
  have hinstalled : failed.installedSource = (Program.constant .zero false).source .wgsl :=
    hkept.trans hsource
  -- only the wrong source is remembered, so the graph's own shader is tried
  have hnew : (failed.update {} none).1 = .installed := by
    refine (hafter {} none).installed_iff.mpr ⟨?_, fun hmem => ?_, source_own {} _⟩
    · rw [hsubmitted, hinstalled]
      exact source_errorColor_ne false
    · rw [hsubmitted] at hmem
      obtain hbefore | ⟨heq, -⟩ := @rejectedSource_submit g mislabelled _ hmem
      · rw [hmemory] at hbefore
        cases hbefore
      · exact source_ne_mislabelled _ heq.symm
  obtain ⟨-, hnewSource, hnewCount⟩ := (hafter {} none).installed hnew
  have hshown : shown = ((failed.update {} none).2.1).run [.setTime 0.5, .render] := by
    simp only [shown, failed, run, List.foldl_cons, List.foldl_nil, perform]
  obtain ⟨hshownSource, hshownCount⟩ := run_setTime_render (failed.update {} none).2.1 0.5
  rw [← hshown] at hshownSource hshownCount
  refine ⟨hrefused, hagain, hnew, (hanswers {} none).unchanged_iff.mpr ?_, ?_, hcoherent, hanswers⟩
  · rw [hshownSource, hnewSource, hsubmitted, hsubmitted]
  · rw [hshownCount, hnewCount]
    exact congrArg (· + 1) (hrelinks.trans hcount)

end Generator
end Heightfield
