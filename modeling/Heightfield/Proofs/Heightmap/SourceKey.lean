import Heightfield.Proofs.Heightmap.Submission
import Heightfield.Proofs.Pipeline.FromScratch
import Heightfield.Proofs.Shader.Written

/-!
# The source as a key

A generator keeps its program if a graph has the installed source. For graphs with finite numbers
that is right: whatever their shape, if two of them have one source, in either dialect, they have
the same heights and show the same pixels. Numbers that are not finite are written as zeros but not
evaluated as zeros, so with them a source says too little.

* `Graph.Finite` graphs have finite numbers only.
* `Generator.Same` compares generators by what they render.
* `finite_source_key` is the result.
-/

namespace Heightfield

open Number

/-- All settings of a graph that become numbers of its program are finite. -/
def Graph.Finite (g : Graph) : Prop := ∀ n ∈ g.nodes, ∀ x ∈ n.kind.numbers, x.isFinite = true

instance (g : Graph) : Decidable g.Finite := inferInstanceAs (Decidable (∀ n ∈ g.nodes, _))

/-- Finite graphs that are compiled to one source have the same heights. -/
theorem Graph.Finite.height?_rel {g h : Graph} (hg : g.Finite) (hh : h.Finite)
    {o : CompileOptions} (hsource : (compile g o).source = (compile h o).source) (s : Sample) :
    Option.Rel Alike ((compile g o).program.height? s) ((compile h o).program.height? s) := by
  have hp := spelled_lower (by decide) hg o.useWorldPos
  have hq := spelled_lower (by decide) hh o.useWorldPos
  have hworld : (lower g o.useWorldPos).useWorldPos = (lower h o.useWorldPos).useWorldPos := by
    rw [useWorldPos_lower, useWorldPos_lower]
  exact hp.height?_rel hq hworld hsource s

/-- Heights that are alike have colours of the same bytes. -/
theorem Program.bytes_shade {a b : Option Float32} (h : Option.Rel Alike a b) :
    (shade a).map toByte = (shade b).map toByte := by
  cases h with
  | none => rfl
  | some h => simp only [shade, List.map_cons, h.toByte_eq]

namespace Generator

variable {g g' : Generator}

/-! ## Rendering the same bytes -/

/-- Generators that differ in their programs, with colours of the same bytes. -/
structure Same (g g' : Generator) : Prop where
  config : g.config = g'.config
  time : g.time = g'.time
  pixels : g.pixels = g'.pixels
  bytes : ∀ s, (g.program.color s).map toByte = (g'.program.color s).map toByte

/-- Only the bytes of values are stored. -/
theorem store_congr {values values' : List Float32}
    (h : values.map toByte = values'.map toByte) (pixels : Array UInt8) (offset : Nat) :
    store pixels offset values = store pixels offset values' := by
  induction values generalizing values' pixels offset with
  | nil =>
    obtain rfl := List.map_eq_nil_iff.mp h.symm
    rfl
  | cons a rest ih =>
    obtain ⟨b, rest', rfl, hb, hrest⟩ := List.map_eq_cons_iff.mp h.symm
    rw [store, store, hb]
    exact ih hrest.symm _ _

theorem Same.renderTexel (h : g.Same g') (i j : Nat) :
    (g.renderTexel i j).Same (g'.renderTexel i j) := by
  rw [renderTexel_eq, renderTexel_eq]
  refine ⟨h.config, h.time, ?_, h.bytes⟩
  simp only [h.config, h.time, h.pixels]
  exact store_congr (h.bytes _) _ _

/-- Texel by texel, they render the same frame. -/
theorem Same.render (h : g.Same g') : g.render.Same g'.render := by
  rw [Generator.render, Generator.render, h.config]
  induction texels g'.config.resolution generalizing g g' with
  | nil => exact h
  | cons t rest ih => exact ih (h.renderTexel t.1 t.2)

/-! ## Runs over finite graphs -/

/-- The operation submits no shader but those of finite graphs. -/
def Operation.Finite : Operation → Prop
  | .update graph precompiled => graph.Finite ∧ precompiled = none
  | .setTime _ => True
  | .render => True

/-- What holds of a generator that was only given finite graphs. -/
structure Finite (g : Generator) : Prop where
  ready : g.Ready
  numbers : g.program.Spelled (·.isFinite = true)
  world : g.program.useWorldPos = g.config.useWorldPos

theorem Finite.blank {c : HeightmapConfig} (h : c.validate = .ok ()) : (Generator.blank c).Finite :=
  ⟨.blank h, .constant (by simp) c.useWorldPos, rfl⟩

theorem Finite.update (h : g.Finite) {graph : Graph} (hgraph : graph.Finite) :
    (g.update graph none).2.1.Finite := by
  have hready := (h.ready.update graph).1
  rw [update_eq h.ready] at hready ⊢
  split at hready
  next hsame =>
    rw [if_pos hsame]
    exact h
  next hne =>
    rw [if_neg hne]
    exact ⟨hready, spelled_lower (by decide) hgraph _, useWorldPos_lower graph _⟩

theorem Finite.perform (h : g.Finite) {operation : Operation} (ho : operation.Finite) :
    (g.perform operation).Finite := by
  cases operation with
  | update graph precompiled =>
    obtain ⟨hgraph, rfl⟩ := ho
    exact h.update hgraph
  | setTime time => exact ⟨(h.ready.setTime time).1, h.numbers, h.world⟩
  | render =>
    have hready := h.ready.render.1
    obtain ⟨registers, pixels, heq⟩ := g.render_keeps
    rw [Generator.perform]
    rw [heq] at hready ⊢
    exact ⟨hready, h.numbers, h.world⟩

theorem Finite.run (h : g.Finite) {operations : List Operation}
    (ho : ∀ operation ∈ operations, operation.Finite) : (g.run operations).Finite := by
  induction operations generalizing g with
  | nil => exact h
  | cons operation rest ih =>
    rw [List.forall_mem_cons] at ho
    exact ih (h.perform ho.1) ho.2

theorem Finite.of_create {c : HeightmapConfig} {adapter : Adapter}
    (h : (create c adapter).2 = .ok g) : g.Finite := by
  obtain ⟨hvalid, rfl⟩ := eq_blank_of_create h
  exact .blank hvalid

/-- A graph that is submitted leaves its source behind, be it installed or kept. -/
theorem installedSource_update (h : g.Ready) (graph : Graph) :
    (g.update graph none).2.1.installedSource = (g.compiled graph).source := by
  rw [update_eq h]
  split
  next hsame => exact hsame.symm
  next => simp only

/-- Whether the program of a finite graph is installed or kept for its source, its pixels are
rendered. -/
theorem Finite.pixels_update (h : g.Finite) {graph : Graph} (hgraph : graph.Finite)
    (time : Float32) :
    ((g.update graph none).2.1.setTime time).render.pixels =
      ((g.install (g.compiled graph)).setTime time).render.pixels := by
  have hsame : ((g.update graph none).2.1.setTime time).Same
      ((g.install (g.compiled graph)).setTime time) := by
    rw [update_eq h.ready]
    split
    next hsource =>
      rw [h.ready.source] at hsource
      have hworld : g.program.useWorldPos = (g.compiled graph).program.useWorldPos := by
        rw [h.world]
        exact (useWorldPos_lower graph _).symm
      have hgraph' : (g.compiled graph).program.Spelled (·.isFinite = true) :=
        spelled_lower (by decide) hgraph _
      rw [source_compiled] at hsource
      exact ⟨rfl, rfl, rfl, fun s =>
        Program.bytes_shade (h.numbers.height?_rel hgraph' hworld hsource.symm s)⟩
    next => exact ⟨rfl, rfl, rfl, fun _ => rfl⟩
  exact hsame.render.pixels

end Generator

/-! ## The source as a key -/

/-- If two graphs with finite numbers are compiled to one source, they have the same heights, up to
the sign of zero. So a generator that has only been given such graphs, and keeps its program for the
source of the next one, renders the pixels of that graph, at every time. -/
theorem finite_source_key {g h : Graph} (hg : g.Finite) (hh : h.Finite) :
    (∀ o, (compile g o).source = (compile h o).source → ∀ s,
      Option.Rel Alike ((compile g o).program.height? s) ((compile h o).program.height? s)) ∧
    ∀ c adapter start operations, (Generator.create c adapter).2 = .ok start →
      (∀ operation ∈ operations, operation.Finite) → ∀ time,
        let generator := start.run operations
        ((generator.update h none).2.1.setTime time).render.pixels =
          ((generator.install (generator.compiled h)).setTime time).render.pixels := by
  refine ⟨fun o => hg.height?_rel hh, fun c adapter start operations hcreate ho time => ?_⟩
  exact ((Generator.Finite.of_create hcreate).run ho).pixels_update hh time

/-! ## Fixed heights -/

section Flat

open Pipeline (flat)

theorem lower_flat (x : Float32) (useWorldPos : Bool) :
    lower (flat x) useWorldPos =
      { vars := [⟨"n_height_value", .scalar⟩]
        stmts := [⟨0, .scalar x⟩]
        result := .value (.var 0)
        useWorldPos } := by
  have hname : Identifier.fresh [] (Identifier.base "height" "value") = "n_height_value" := by
    decide
  rw [← hname]
  rfl

theorem height?_flat (x : Float32) (o : CompileOptions) (s : Sample) :
    (compile (flat x) o).program.height? s = some (clampUnit x) := by
  rw [compile, lower_flat]
  rfl

/-- Fixed heights have one source if they are written alike. -/
theorem source_flat {x y : Float32} (h : Shader.written x = Shader.written y)
    (o : CompileOptions) : (compile (flat x) o).source = (compile (flat y) o).source := by
  have hwritten : (lower (flat x) o.useWorldPos).written =
      (lower (flat y) o.useWorldPos).written := by
    rw [lower_flat, lower_flat]
    simp only [Program.written, Program.mapNumbers, List.map_cons, List.map_nil, Stmt.mapNumbers,
      Expr.mapNumbers, h]
  rw [compile, compile, ← Program.source_written, hwritten, Program.source_written]

/-- The configuration of a single texel. -/
def HeightmapConfig.single : HeightmapConfig := { resolution := 1, backend := .software }

theorem finite_source_key_flat :
    (flat 0).Finite ∧ (flat (-0)).Finite ∧
      (∀ o s, Option.Rel Alike ((compile (flat 0) o).program.height? s)
        ((compile (flat (-0)) o).program.height? s)) ∧
      ∃ start, (Generator.create .single).2 = .ok start ∧
        let generator := start.run [.update (flat 0) none]
        (generator.update (flat (-0)) none).1 = .unchanged ∧ ∀ time,
          ((generator.update (flat (-0)) none).2.1.setTime time).render.pixels =
            ((generator.install (generator.compiled (flat (-0)))).setTime time).render.pixels := by
  have hg : (flat 0).Finite := by decide
  have hh : (flat (-0)).Finite := by decide
  have hwritten : Shader.written (-0) = Shader.written 0 := by decide
  have hvalid : HeightmapConfig.single.validate = .ok () := by decide
  have hcreate : (Generator.create .single).2 = .ok (.blank .single) :=
    Generator.create_eq_ok_iff.mpr ⟨Generator.settlesOnSoftware_iff.mpr (.inl rfl), hvalid, rfl⟩
  obtain ⟨hheights, hpixels⟩ := finite_source_key hg hh
  have hunchanged : (((Generator.blank .single).run [.update (flat 0) none]).update
      (flat (-0)) none).1 = .unchanged := by
    have hready := Generator.Ready.blank hvalid
    obtain ⟨hready', hconfig⟩ := hready.update (flat 0)
    rw [Generator.run, List.foldl_cons, List.foldl_nil, Generator.perform,
      Generator.update_eq hready', if_pos]
    rw [Generator.installedSource_update hready, Generator.compiled_congr hconfig]
    exact source_flat hwritten _
  refine ⟨hg, hh, fun o => hheights o (source_flat hwritten.symm o), _, hcreate, hunchanged, ?_⟩
  exact hpixels .single .absent _ [.update (flat 0) none] hcreate
    (List.forall_mem_singleton.mpr ⟨hg, rfl⟩)

/-- A height that is not finite has the source of the height 0, and is another one. -/
theorem source_flat_infinite :
    (compile (flat (1 / 0)) {}).source = (compile (flat 0) {}).source ∧
      ∀ s, (compile (flat (1 / 0)) {}).program.height? s = some 1 ∧
        (compile (flat 0) {}).program.height? s = some 0 := by
  have hone : clampUnit (1 / 0) = 1 := by decide
  have hzero : clampUnit 0 = 0 := by decide
  refine ⟨source_flat (by decide) {}, fun s => ⟨?_, ?_⟩⟩
  · rw [height?_flat, hone]
  · rw [height?_flat, hzero]

end Flat
end Heightfield
