import Heightfield.Pipeline
import Heightfield.Proofs.Heightmap.Render
import Heightfield.Proofs.Terrace.Rebuild

/-!
# Running a pipeline

What holds of a pipeline through every run of its operations, whichever of them fail. A change of
resolution disposes of the generator before the new one is made; nothing can fail any more by then,
since everything that could is checked before.

* `Pipeline.Operation` are the operations, and `Pipeline.run` performs them in turn.
* `Pipeline.Running` is the invariant of a run.
* `Pipeline.Running.renderCurrent_eq` says what a frame does to a running pipeline, and
  `Pipeline.Running.requestResolution_of_not_refuses` what a change of resolution does.
* `Pipeline.Performs` is all that one operation does to a pipeline and its generator.
* `Pipeline.run_responds` is what can be observed in every reachable state.
-/

namespace Heightfield

/-! ## Changing the resolution of a configuration -/

/-- A usable configuration can be used with any other resolution that is within bounds. -/
theorem HeightmapConfig.validate_resize {c : HeightmapConfig} (h : c.validate = .ok ()) (n : Nat) :
    { c with resolution := n }.validate =
      if n = 0 ∨ maxResolution < n then .error (.resolution n) else .ok () := by
  have hsize : isPositiveFinite c.worldWidth && isPositiveFinite c.worldDepth := by
    unfold validate at h
    split at h
    · cases h
    · split at h
      next hsize => exact hsize
      next => cases h
  simp only [validate, Bool.or_eq_true, decide_eq_true_eq]
  rw [if_pos hsize]

/-- The number of instances of a terrace with every layer of every cell drawn. -/
def TerraceConfig.fullCount (resolution : Nat) (ramp : ColorRamp) (faces : FaceMode) : Nat :=
  resolution * resolution * ramp.layerCount * faces.faces.length

theorem TerraceConfig.capacity_resize {c : TerraceConfig} (h : c.validate = .ok ()) {n : Nat}
    (hn : n ≠ 0) (ramp : ColorRamp) (faces : FaceMode) :
    { c with resolution := n }.capacity ramp faces =
      if maxInstances < fullCount n ramp faces then
        .error (.tooLarge n ramp.layerCount faces.faces.length)
      else .ok (fullCount n ramp faces) := by
  have hvalid : { c with resolution := n }.validate = .ok () := by
    unfold validate at h ⊢
    split at h
    · cases h
    · rw [if_neg hn]
      exact h
  rw [capacity_of_validate hvalid, ← fullCount]
  by_cases hle : fullCount n ramp faces ≤ maxInstances
  · rw [if_pos hle, if_neg (Nat.not_lt.mpr hle)]
  · rw [if_neg hle, if_pos (Nat.not_le.mp hle)]

namespace Pipeline

/-! ## Operations -/

/-- What can be done with a pipeline. -/
inductive Operation where
  | setGraph (graph : Graph)
  | requestResolution (resolution : Nat)
  | frame (dt : Float32)
  | renderCurrent
  deriving DecidableEq, Repr

/-- The pipeline that an operation leaves behind, be it that it fails. -/
def perform (p : Pipeline) : Operation → Pipeline
  | .setGraph graph => p.setGraph graph
  | .requestResolution resolution => (p.requestResolution resolution).2.1
  | .frame dt => (p.frame dt).2.1
  | .renderCurrent => p.renderCurrent.2.1

/-- Performs operations in turn. -/
def run (p : Pipeline) (operations : List Operation) : Pipeline :=
  operations.foldl perform p

/-! ## The invariant -/

/-- A pipeline is running with a generator. -/
structure Running (p : Pipeline) (g : Generator) : Prop where
  generator : p.generator = some g
  ready : g.Ready
  /-- the generator has the configuration of the pipeline -/
  config : g.config = p.heightmapConfig
  sized : p.mesh.Sized
  /-- and so has the mesh -/
  terrace : p.mesh.config = p.terraceConfig
  ramp : p.mesh.ramp = p.ramp
  faces : p.mesh.faces = p.faces
  resolution : p.terraceConfig.resolution = p.heightmapConfig.resolution
  /-- all generators but one have been disposed of -/
  counts : p.generatorsCreated = p.generatorsDisposed + 1

variable {p : Pipeline} {g : Generator}

section Create

variable {graph : Graph} {heightmap : HeightmapConfig} {terrace : TerraceConfig} {ramp : ColorRamp}
  {faces : FaceMode} {adapter : Adapter} {notices : List Notice}

/-- A new pipeline has a blank generator and a new mesh. Its backend has settled on software. -/
theorem eq_of_create
    (h : create graph heightmap terrace ramp faces adapter = .ok (p, notices)) :
    heightmap.validate = .ok () ∧ Generator.SettlesOnSoftware adapter heightmap.backend ∧
      ∃ mesh,
        TerraceMesh.create { terrace with resolution := heightmap.resolution } ramp faces =
          .ok mesh ∧
        p = {
          graph, ramp, faces, mesh
          heightmapConfig := heightmap
          terraceConfig := { terrace with resolution := heightmap.resolution }
          generator := some (.blank heightmap)
          elapsed := 0
          frames := 0
          generatorsCreated := 1
          generatorsDisposed := 0 } := by
  cases hvalid : heightmap.validate with
  | error e =>
    simp only [create, hvalid] at h
    cases h
  | ok _ =>
    cases hmesh : TerraceMesh.create { terrace with resolution := heightmap.resolution } ramp
        faces with
    | error e =>
      simp only [create, hvalid, hmesh] at h
      cases h
    | ok mesh =>
      cases hsettled : Generator.settleBackend adapter heightmap.backend with
      | error e =>
        simp only [create, hvalid, hmesh, hsettled] at h
        cases h
      | ok settled =>
        obtain ⟨target, fallback⟩ := settled
        cases target with
        | graphics =>
          simp only [create, hvalid, hmesh, hsettled, Generator.start] at h
          cases h
        | software =>
          simp only [create, hvalid, hmesh, hsettled] at h
          change Except.bind ((Generator.start .software heightmap).mapError _) _ = _ at h
          rw [Generator.start_eq hvalid] at h
          obtain ⟨rfl, -⟩ := Prod.mk.inj (Except.ok.inj h)
          exact ⟨rfl, ⟨fallback, hsettled⟩, mesh, rfl, rfl⟩

/-- A new pipeline is running with a new generator. -/
theorem running_of_create
    (h : create graph heightmap terrace ramp faces adapter = .ok (p, notices)) :
    p.Running (.blank heightmap) ∧ p.graph = graph ∧ p.heightmapConfig = heightmap ∧
      Generator.SettlesOnSoftware adapter heightmap.backend := by
  obtain ⟨hvalid, hsettles, mesh, hmesh, rfl⟩ := eq_of_create h
  obtain ⟨hsized, hterrace, hramp, hfaces⟩ := TerraceMesh.Sized.of_create hmesh
  exact ⟨⟨rfl, .blank hvalid, rfl, hsized, hterrace, hramp, hfaces, rfl, rfl⟩, rfl, rfl, hsettles⟩

/-- The time starts at zero. -/
theorem elapsed_of_create
    (h : create graph heightmap terrace ramp faces adapter = .ok (p, notices)) :
    p.elapsed = 0 := by
  obtain ⟨-, -, mesh, -, rfl⟩ := eq_of_create h
  rfl

end Create

/-- A new graph changes nothing else. -/
theorem Running.setGraph (h : p.Running g) (graph : Graph) : (p.setGraph graph).Running g :=
  ⟨h.generator, h.ready, h.config, h.sized, h.terrace, h.ramp, h.faces, h.resolution, h.counts⟩

/-- Time that passes changes the time at most. -/
theorem advance_eq (p : Pipeline) (dt : Float32) : ∃ elapsed, p.advance dt = { p with elapsed } := by
  unfold advance
  split
  · exact ⟨_, rfl⟩
  · exact ⟨p.elapsed, rfl⟩

theorem Running.advance (h : p.Running g) (dt : Float32) : (p.advance dt).Running g := by
  obtain ⟨elapsed, heq⟩ := p.advance_eq dt
  rw [heq]
  exact ⟨h.generator, h.ready, h.config, h.sized, h.terrace, h.ramp, h.faces, h.resolution,
    h.counts⟩

/-! ## Frames -/

/-- The generator after a frame. -/
def rendered (p : Pipeline) (g : Generator) : Generator :=
  g.shown p.graph p.elapsed

theorem Running.ready_rendered (h : p.Running g) :
    (p.rendered g).Ready ∧ (p.rendered g).config = p.heightmapConfig := by
  obtain ⟨hready, hconfig⟩ := h.ready.shown p.graph p.elapsed
  exact ⟨hready, hconfig.trans h.config⟩

/-- A frame of a running pipeline: the mesh takes the heightmap. -/
theorem Running.renderCurrent_eq (h : p.Running g) :
    ∃ mesh, p.mesh.update (p.rendered g).pixels = .ok mesh ∧
      p.renderCurrent =
        (.ok ⟨(g.update p.graph none).1, p.elapsed, mesh.activeCount⟩,
          { p with generator := some (p.rendered g), mesh, frames := p.frames + 1 },
          (g.update p.graph none).2.2) ∧
      Running { p with generator := some (p.rendered g), mesh, frames := p.frames + 1 }
        (p.rendered g) := by
  obtain ⟨hready, hconfig⟩ := h.ready_rendered
  have hpixels : (p.rendered g).pixels.size =
      p.mesh.config.resolution * p.mesh.config.resolution * 4 := by
    rw [hready.size, hconfig, h.terrace, h.resolution]
  obtain ⟨mesh, hmesh, hsized, ⟨hterrace, hramp, hfaces, -⟩, -⟩ := h.sized.update_eq hpixels
  refine ⟨mesh, hmesh, ?_, ?_⟩
  · rw [renderCurrent, h.generator]
    simp only [rendered, Generator.shown] at hmesh ⊢
    rw [hmesh]
  · exact ⟨rfl, hready, hconfig, hsized, hterrace.trans h.terrace, hramp.trans h.ramp,
      hfaces.trans h.faces, h.resolution, h.counts⟩

/-! ## Resolutions -/

/-- A resolution that a pipeline refuses. -/
def Refuses (p : Pipeline) (n : Nat) : Prop :=
  n = 0 ∨ maxResolution < n ∨ maxInstances < TerraceConfig.fullCount n p.ramp p.faces

/-- The pipeline with a generator and a mesh of another resolution. -/
def resized (p : Pipeline) (n : Nat) : Pipeline :=
  { p with
    heightmapConfig := { p.heightmapConfig with resolution := n }
    terraceConfig := { p.terraceConfig with resolution := n }
    generator := some (.blank { p.heightmapConfig with resolution := n })
    mesh := {
      config := { p.terraceConfig with resolution := n }
      ramp := p.ramp
      faces := p.faces
      buffer := Array.replicate (TerraceConfig.fullCount n p.ramp p.faces) default
      activeCount := 0
      layerCounts := Array.replicate p.ramp.layerCount 0 }
    generatorsCreated := p.generatorsCreated + 1
    generatorsDisposed := p.generatorsDisposed + 1 }

theorem Running.valid_terrace (h : p.Running g) : p.terraceConfig.validate = .ok () := by
  have := (TerraceConfig.capacity_eq_ok_iff.mp h.sized.buffer).1
  rwa [h.terrace] at this

/-- A resolution that is refused leaves the pipeline as it is. -/
theorem Running.requestResolution_of_refuses (h : p.Running g) {n : Nat} (hn : n ≠ p.resolution)
    (hrefuses : p.Refuses n) : ∃ e, p.requestResolution n = (.error e, p, []) := by
  have hheightmap := HeightmapConfig.validate_resize (h.config ▸ h.ready.usable) n
  have hif : (decide (n = p.resolution) && p.generator.isSome) = false := by simp [hn]
  unfold Pipeline.requestResolution
  rw [hif]
  by_cases hbounds : n = 0 ∨ maxResolution < n
  · rw [if_pos hbounds] at hheightmap
    simp only [hheightmap]
    exact ⟨_, rfl⟩
  · -- within the bounds only the number of instances can be at fault
    have hlarge : maxInstances < TerraceConfig.fullCount n p.ramp p.faces := by
      rcases hrefuses with hzero | hmax | hlarge
      · exact absurd (.inl hzero) hbounds
      · exact absurd (.inr hmax) hbounds
      · exact hlarge
    have hcapacity := TerraceConfig.capacity_resize h.valid_terrace
      (fun hzero => hbounds (.inl hzero)) p.ramp p.faces
    rw [if_neg hbounds] at hheightmap
    rw [if_pos hlarge] at hcapacity
    simp only [hheightmap, hcapacity]
    exact ⟨_, rfl⟩

/-- A new resolution that is not refused gives a new generator and a new mesh. -/
theorem Running.requestResolution_of_not_refuses (h : p.Running g) {n : Nat}
    (hn : n ≠ p.resolution) (hrefuses : ¬ p.Refuses n) :
    ∃ notices, p.requestResolution n = (.ok (), p.resized n, notices) ∧
      (p.resized n).Running (.blank { p.heightmapConfig with resolution := n }) := by
  obtain ⟨hzero, hmax, hlarge⟩ : n ≠ 0 ∧ ¬ maxResolution < n ∧
      ¬ maxInstances < TerraceConfig.fullCount n p.ramp p.faces := by
    simpa [Refuses, not_or] using hrefuses
  have hheightmap := HeightmapConfig.validate_resize (h.config ▸ h.ready.usable) n
  have hcapacity := TerraceConfig.capacity_resize h.valid_terrace hzero p.ramp p.faces
  rw [if_neg (not_or.mpr ⟨hzero, hmax⟩)] at hheightmap
  rw [if_neg hlarge] at hcapacity
  have hif : (decide (n = p.resolution) && p.generator.isSome) = false := by simp [hn]
  refine ⟨g.dispose ++ [.generatorReady n] ++ [.resolutionChanged n], ?_, ?_⟩
  · unfold Pipeline.requestResolution
    rw [hif]
    simp only [hheightmap, hcapacity, Pipeline.disposeGenerator, h.generator,
      Generator.start_eq hheightmap, TerraceMesh.create_eq hcapacity]
    rfl
  · refine ⟨rfl, .blank hheightmap, rfl, ⟨?_, Array.size_replicate⟩, rfl, rfl, rfl, rfl, ?_⟩
    · rw [resized, Array.size_replicate]
      exact hcapacity
    · exact congrArg (· + 1) h.counts

/-! ## Every reachable state -/

/-- What one operation does to a running pipeline and its generator. -/
structure Performs (p : Pipeline) (g : Generator) (operation : Operation) (g' : Generator) :
    Prop where
  running : (p.perform operation).Running g'
  backend : (p.perform operation).heightmapConfig.backend = p.heightmapConfig.backend
  /-- only the operation that sets a graph changes the graph -/
  graph : (p.perform operation).graph = p.graph ∨ operation = .setGraph (p.perform operation).graph
  /-- the generator is kept, or a new one, or it has shown the graph -/
  generator : g' = g ∨ (∃ c, g' = .blank c) ∨ ∃ time, g' = g.shown p.graph time

theorem Running.perform (h : p.Running g) (operation : Operation) :
    ∃ g', p.Performs g operation g' := by
  cases operation with
  | setGraph graph => exact ⟨g, h.setGraph graph, rfl, .inr rfl, .inl rfl⟩
  | requestResolution n =>
    have hkept (hsame : p.perform (.requestResolution n) = p) :
        p.Performs g (.requestResolution n) g := by
      refine ⟨?_, ?_, .inl ?_, .inl rfl⟩ <;> rw [hsame]
      exact h
    by_cases hn : n = p.resolution
    · have hsame : p.requestResolution n = (.ok (), p, []) :=
        if_pos (by simp [hn, h.generator])
      exact ⟨g, hkept (by rw [Pipeline.perform, hsame])⟩
    · by_cases hrefuses : p.Refuses n
      · obtain ⟨e, hfails⟩ := h.requestResolution_of_refuses hn hrefuses
        exact ⟨g, hkept (by rw [Pipeline.perform, hfails])⟩
      · obtain ⟨notices, hsucceeds, hrunning⟩ := h.requestResolution_of_not_refuses hn hrefuses
        have hresized : p.perform (.requestResolution n) = p.resized n := by
          rw [Pipeline.perform, hsucceeds]
        rw [← hresized] at hrunning
        refine ⟨_, hrunning, ?_, .inl ?_, .inr (.inl ⟨_, rfl⟩)⟩ <;> rw [hresized] <;> rfl
  | frame dt =>
    obtain ⟨mesh, -, hframe, hrunning⟩ := (h.advance dt).renderCurrent_eq
    obtain ⟨elapsed, heq⟩ := p.advance_eq dt
    rw [heq] at hframe hrunning
    have hperform : p.perform (.frame dt) = { p with
        elapsed, generator := some (g.shown p.graph elapsed), mesh, frames := p.frames + 1 } := by
      rw [Pipeline.perform, Pipeline.frame, heq, hframe]
      rfl
    refine ⟨_, ?_, ?_, .inl ?_, .inr (.inr ⟨elapsed, rfl⟩)⟩ <;> rw [hperform]
    exact hrunning
  | renderCurrent =>
    obtain ⟨mesh, -, hframe, hrunning⟩ := h.renderCurrent_eq
    have hperform : p.perform .renderCurrent = { p with
        generator := some (g.shown p.graph p.elapsed), mesh, frames := p.frames + 1 } := by
      rw [Pipeline.perform, hframe]
      rfl
    refine ⟨_, ?_, ?_, .inl ?_, .inr (.inr ⟨p.elapsed, rfl⟩)⟩ <;> rw [hperform]
    exact hrunning

theorem Running.run (h : p.Running g) (operations : List Operation) :
    ∃ g', (p.run operations).Running g' := by
  induction operations generalizing p g with
  | nil => exact ⟨g, h⟩
  | cons operation rest ih =>
    obtain ⟨g', h'⟩ := h.perform operation
    exact ih h'.running

/-- What a frame does to a pipeline: it never fails, and it reports the instances of the mesh. -/
structure Renders (p : Pipeline)
    (outcome : Except PipelineError FrameReport × Pipeline × List Notice) : Prop where
  succeeds : ∃ report, outcome.1 = .ok report ∧ report.shader ≠ .rejected ∧
    report.instances = outcome.2.1.mesh.activeCount
  frames : outcome.2.1.frames = p.frames + 1
  /-- there is an instance for each texel and side at least -/
  lower : p.faces.faces.length * (p.resolution * p.resolution) ≤ outcome.2.1.mesh.activeCount
  upper : outcome.2.1.mesh.activeCount ≤ outcome.2.1.mesh.capacity

/-- What a change of resolution does to a pipeline. -/
structure Resizes (p : Pipeline) (n : Nat)
    (outcome : Except PipelineError Unit × Pipeline × List Notice) : Prop where
  fails_iff : (∃ e, outcome.1 = .error e) ↔
    n ≠ p.resolution ∧ (n = 0 ∨ 4096 < n ∨
      maxInstances < n * n * p.ramp.layerCount * p.faces.faces.length)
  /-- a failure changes nothing -/
  atomic : ∀ e, outcome.1 = .error e → outcome.2.1 = p
  /-- neither does the resolution that the pipeline has -/
  same : n = p.resolution → outcome.2.1 = p
  /-- a new resolution replaces the generator and the mesh, and nothing else -/
  replaces : outcome.1 = .ok () → n ≠ p.resolution →
    outcome.2.1.generatorsDisposed = p.generatorsDisposed + 1 ∧
      outcome.2.1.generatorsCreated = p.generatorsCreated + 1 ∧
      outcome.2.1.resolution = n ∧ outcome.2.1 = p.resized n

/-- What can be observed of a pipeline in a reachable state. -/
structure Responds (p : Pipeline) : Prop where
  generator : ∃ g, p.generator = some g ∧ g.config = p.heightmapConfig
  terrace : p.terraceConfig.resolution = p.heightmapConfig.resolution
  mesh : p.mesh.config.resolution = p.heightmapConfig.resolution
  pixels : p.pixels.size = 4 * (p.resolution * p.resolution)
  counts : p.generatorsCreated = p.generatorsDisposed + 1
  frame : ∀ dt, p.Renders (p.frame dt)
  renderCurrent : p.Renders p.renderCurrent
  requestResolution : ∀ n, p.Resizes n (p.requestResolution n)

theorem Running.renders (h : p.Running g) : p.Renders p.renderCurrent := by
  obtain ⟨hready, hconfig⟩ := h.ready_rendered
  have hresolution : p.mesh.config.resolution = p.resolution := by
    rw [h.terrace, h.resolution, Pipeline.resolution]
  have hpixels : (p.rendered g).pixels.size =
      p.mesh.config.resolution * p.mesh.config.resolution * 4 := by
    rw [hready.size, hconfig, hresolution, Pipeline.resolution]
  obtain ⟨mesh, hmesh, hframe, -⟩ := h.renderCurrent_eq
  obtain ⟨mesh', hmesh', -, ⟨-, -, -, hcapacity⟩, hactive, -⟩ := h.sized.update_eq hpixels
  obtain rfl := Except.ok.inj (hmesh.symm.trans hmesh')
  have hshader : (g.update p.graph none).1 ≠ .rejected := by
    rw [Generator.update_eq h.ready]
    split <;> simp
  rw [hframe]
  refine ⟨⟨_, rfl, hshader, rfl⟩, rfl, ?_, ?_⟩
  · have hle := p.mesh.le_length_boxes (p.rendered g).pixels
    rwa [← hactive, h.faces, hresolution, Nat.mul_one] at hle
  · have hle := h.sized.length_boxes_le (p.rendered g).pixels
    rwa [← hactive, ← TerraceMesh.capacity, ← hcapacity] at hle

theorem Running.renders_frame (h : p.Running g) (dt : Float32) : p.Renders (p.frame dt) := by
  obtain ⟨elapsed, heq⟩ := p.advance_eq dt
  have hrenders := (h.advance dt).renders
  rw [heq] at hrenders
  rw [frame, heq]
  exact ⟨hrenders.succeeds, hrenders.frames, hrenders.lower, hrenders.upper⟩

theorem Running.resizes (h : p.Running g) (n : Nat) : p.Resizes n (p.requestResolution n) := by
  by_cases hn : n = p.resolution
  · have hsame : p.requestResolution n = (.ok (), p, []) := if_pos (by simp [hn, h.generator])
    rw [hsame]
    exact ⟨by simp [hn], fun _ _ => rfl, fun _ => rfl, fun _ hne => absurd hn hne⟩
  by_cases hrefuses : p.Refuses n
  · obtain ⟨e, hfails⟩ := h.requestResolution_of_refuses hn hrefuses
    rw [hfails]
    exact ⟨⟨fun _ => ⟨hn, hrefuses⟩, fun _ => ⟨e, rfl⟩⟩, fun _ _ => rfl, fun _ => rfl, by simp⟩
  · obtain ⟨notices, hsucceeds, -⟩ := h.requestResolution_of_not_refuses hn hrefuses
    rw [hsucceeds]
    exact ⟨⟨by simp, fun hfails => absurd hfails.2 hrefuses⟩, by simp, fun heq => absurd heq hn,
      fun _ _ => ⟨rfl, rfl, rfl, rfl⟩⟩

theorem Running.responds (h : p.Running g) : p.Responds := by
  refine ⟨⟨g, h.generator, h.config⟩, h.resolution, ?_, ?_, h.counts, h.renders_frame, h.renders,
    h.resizes⟩
  · rw [h.terrace, h.resolution]
  · rw [pixels, h.generator, Pipeline.resolution, ← h.config, Nat.mul_comm 4]
    exact h.ready.size

/-- Every state that a new pipeline can reach responds as it should. -/
theorem run_responds {graph : Graph} {heightmap : HeightmapConfig} {terrace : TerraceConfig}
    {ramp : ColorRamp} {faces : FaceMode} {adapter : Adapter} {notices : List Notice}
    (h : create graph heightmap terrace ramp faces adapter = .ok (p, notices))
    (operations : List Operation) : (p.run operations).Responds := by
  obtain ⟨hrunning, -⟩ := running_of_create h
  obtain ⟨g, hrunning⟩ := hrunning.run operations
  exact hrunning.responds

theorem run_responds_small : ∃ p notices,
    create {} { resolution := 2, backend := .software } {} .standard .cube = .ok (p, notices) ∧
      (p.run [.frame 0.5, .requestResolution 5000, .requestResolution 3,
        .renderCurrent]).Responds := by
  have h : ∃ p notices, create {} { resolution := 2, backend := .software } {} .standard .cube =
      .ok (p, notices) := ⟨_, _, rfl⟩
  obtain ⟨p, notices, h⟩ := h
  exact ⟨p, notices, h, run_responds h _⟩

end Pipeline
end Heightfield
