import Heightfield.Proofs.Pipeline.Invariant
import Heightfield.Proofs.Shader.Lines

/-!
# Frames as if made from scratch

A pipeline keeps what it can from frame to frame: the installed program, if the source of the graph
is the installed one, and the registers and buffers of generator and mesh. None of that can be seen
in a frame. The program is kept for its source only, so what carries the result is that equal
sources mean equal heights.

* `Pipeline.FromScratch` compares generator and mesh with new ones.
* `Pipeline.Faithful` is the invariant of a run over regular graphs.
* `Pipeline.run_fromScratch` is the result for every frame of every run.
-/

namespace Heightfield

namespace Generator

variable {g g' : Generator} {graph : Graph}

/-! ## Programs of a generator -/

/-- The program of a generator can be read, and samples what the configuration says. -/
structure Readable (g : Generator) : Prop where
  legible : g.program.Legible
  world : g.program.useWorldPos = g.config.useWorldPos

theorem Readable.blank (c : HeightmapConfig) : (Generator.blank c).Readable :=
  ⟨.constant (by simp) c.useWorldPos, rfl⟩

/-- A regular graph leaves a generator readable, and with a program of the graph's source. -/
theorem Readable.update (h : g.Readable) (hready : g.Ready) (hgraph : graph.Regular) :
    (g.update graph none).2.1.Readable ∧
      (g.update graph none).2.1.program.source .wgsl = (g.compiled graph).source := by
  rw [update_eq hready]
  split
  next hsame => exact ⟨h, by rw [hsame, hready.source]⟩
  next =>
    refine ⟨⟨legible_lower hgraph _, ?_⟩, ?_⟩
    · exact useWorldPos_lower graph _
    · exact (source_compiled g graph).symm

/-- Generators of one configuration compile a graph alike. -/
theorem compiled_congr (h : g.config = g'.config) (graph : Graph) :
    g.compiled graph = g'.compiled graph := by
  rw [compiled, compiled, options, options, h]

/-- At a given time a frame depends on the configuration and the heights of the program only. -/
theorem frame_congr (hconfig : g.config = g'.config)
    (hheight : ∀ s, g.program.height? s = g'.program.height? s) (time : Float32) :
    (g.setTime time).frame = (g'.setTime time).frame := by
  have htexel : (g.setTime time).texel = (g'.setTime time).texel := by
    funext i j
    simp only [texel, setTime, Program.color, hheight, hconfig]
  rw [frame, frame, htexel]
  simp only [setTime, hconfig]

/-- Whatever a generator was given before, after a regular graph it shows what every other generator
of its configuration shows. -/
theorem pixels_shown_eq (hg : g.Ready) (hg' : g'.Ready) (hread : g.Readable)
    (hread' : g'.Readable) (hconfig : g.config = g'.config) (hgraph : graph.Regular)
    (time : Float32) : (g.shown graph time).pixels = (g'.shown graph time).pixels := by
  obtain ⟨hready, hkept⟩ := hg.update graph
  obtain ⟨hready', hkept'⟩ := hg'.update graph
  obtain ⟨hupdated, hsource⟩ := hread.update hg hgraph
  obtain ⟨hupdated', hsource'⟩ := hread'.update hg' hgraph
  have hconfigs : (g.update graph none).2.1.config = (g'.update graph none).2.1.config := by
    rw [hkept, hkept', hconfig]
  have hheight := hupdated.legible.height?_eq hupdated'.legible
    (by rw [hupdated.world, hupdated'.world, hconfigs])
    (by rw [hsource, hsource', compiled_congr hconfig])
  obtain ⟨registers, hrender⟩ := (hready.setTime time).1.render_eq
  obtain ⟨registers', hrender'⟩ := (hready'.setTime time).1.render_eq
  rw [shown, shown, hrender, hrender']
  exact frame_congr hconfigs hheight time

theorem Readable.shown (h : g.Readable) (hready : g.Ready) (hgraph : graph.Regular)
    (time : Float32) : (g.shown graph time).Readable := by
  obtain ⟨hupdated, -⟩ := h.update hready hgraph
  obtain ⟨registers, hrender⟩ := ((hready.update graph).1.setTime time).1.render_eq
  rw [Generator.shown, hrender]
  generalize (g.update graph none).2.1 = updated at hupdated
  exact ⟨hupdated.legible, hupdated.world⟩

end Generator

namespace Pipeline

variable {p : Pipeline} {adapter : Adapter} {graph : Graph} {g : Generator}

/-! ## The invariant -/

/-- A running pipeline that was last given a graph, where all graphs are regular. -/
structure Faithful (p : Pipeline) (adapter : Adapter) (graph : Graph) (g : Generator) : Prop where
  running : p.Running g
  backend : Generator.SettlesOnSoftware adapter p.heightmapConfig.backend
  graph_eq : p.graph = graph
  regular : graph.Regular
  readable : g.Readable

/-- The graph that an operation brings in, if any, is regular. -/
def Operation.Regular : Operation → Prop
  | .setGraph graph => graph.Regular
  | .requestResolution _ => True
  | .frame _ => True
  | .renderCurrent => True

instance : DecidablePred Operation.Regular
  | .setGraph graph => inferInstanceAs (Decidable graph.Regular)
  | .requestResolution _ => inferInstanceAs (Decidable True)
  | .frame _ => inferInstanceAs (Decidable True)
  | .renderCurrent => inferInstanceAs (Decidable True)

/-- The graph that is set after operations which begin with a graph: the one given last. -/
def lastGraph (graph : Graph) : List Operation → Graph
  | [] => graph
  | .setGraph next :: rest => lastGraph next rest
  | _ :: rest => lastGraph graph rest

theorem exists_faithful_of_create {heightmap : HeightmapConfig} {terrace : TerraceConfig}
    {ramp : ColorRamp} {faces : FaceMode} {notices : List Notice}
    (h : create graph heightmap terrace ramp faces adapter = .ok (p, notices))
    (hgraph : graph.Regular) : ∃ g, p.Faithful adapter graph g := by
  obtain ⟨hrunning, rfl, rfl, hbackend⟩ := running_of_create h
  exact ⟨_, hrunning, hbackend, rfl, hgraph, .blank _⟩

theorem Faithful.advance (h : p.Faithful adapter graph g) (dt : Float32) :
    (p.advance dt).Faithful adapter graph g := by
  have hrunning := h.running.advance dt
  obtain ⟨elapsed, heq⟩ := p.advance_eq dt
  rw [heq] at hrunning ⊢
  exact ⟨hrunning, h.backend, h.graph_eq, h.regular, h.readable⟩

/-- Every operation keeps the invariant, for the graph that is set by then. -/
theorem Faithful.perform (h : p.Faithful adapter graph g) {operation : Operation}
    (ho : operation.Regular) :
    ∃ g', (p.perform operation).Faithful adapter (lastGraph graph [operation]) g' := by
  obtain ⟨g', hperforms⟩ := h.running.perform operation
  have hgraph : (p.perform operation).graph = lastGraph graph [operation] := by
    cases operation with
    | setGraph next => rfl
    | requestResolution | frame | renderCurrent =>
      exact (hperforms.graph.resolve_right nofun).trans h.graph_eq
  refine ⟨g', hperforms.running, hperforms.backend ▸ h.backend, hgraph, ?_, ?_⟩
  · cases operation with
    | setGraph next => exact ho
    | requestResolution | frame | renderCurrent => exact h.regular
  · -- what a generator has shown is legible because the graph is regular
    rcases hperforms.generator with hkept | ⟨c, hblank⟩ | ⟨time, hshown⟩
    · rw [hkept]
      exact h.readable
    · rw [hblank]
      exact .blank c
    · rw [hshown, h.graph_eq]
      exact h.readable.shown h.running.ready h.regular time

theorem lastGraph_cons (graph : Graph) (operation : Operation) (rest : List Operation) :
    lastGraph graph (operation :: rest) = lastGraph (lastGraph graph [operation]) rest := by
  cases operation <;> rfl

theorem Faithful.run (h : p.Faithful adapter graph g) {operations : List Operation}
    (ho : ∀ operation ∈ operations, operation.Regular) :
    ∃ g', (p.run operations).Faithful adapter (lastGraph graph operations) g' := by
  induction operations generalizing p graph g with
  | nil => exact ⟨g, h⟩
  | cons operation rest ih =>
    rw [List.forall_mem_cons] at ho
    obtain ⟨g', h'⟩ := h.perform ho.1
    rw [lastGraph_cons]
    exact ih h' ho.2

/-! ## Frames from scratch -/

/-- The last frame of a pipeline is the one that a new generator and a new mesh would show of a
graph. -/
structure FromScratch (p : Pipeline) (adapter : Adapter) (graph : Graph) : Prop where
  /-- a new generator of the configuration, after it was given the graph and the time -/
  pixels : ∃ g, (Generator.create p.heightmapConfig adapter).2 = .ok g ∧
    p.pixels = ((g.update graph none).2.1.setTime p.elapsed).render.pixels
  /-- a new mesh of the configuration, after it was given the pixels -/
  mesh : ∃ m m', TerraceMesh.create p.terraceConfig p.ramp p.faces = .ok m ∧
    m.update p.pixels = .ok m' ∧ p.mesh.activeCount = m'.activeCount ∧
      p.mesh.instances = m'.instances ∧ p.mesh.layerCounts = m'.layerCounts
  /-- the graph is the one that the pipeline has -/
  graph_eq : p.graph = graph

/-- Meshes of the same measures look alike after an update with the same pixels. -/
theorem mesh_eq {m n m' : TerraceMesh} (hm : m.Sized) (hn : n.Sized) (hconfig : m.config = n.config)
    (hramp : m.ramp = n.ramp) (hfaces : m.faces = n.faces) {pixels : Array UInt8}
    (hpixels : pixels.size = m.config.resolution * m.config.resolution * 4)
    (hm' : m.update pixels = .ok m') :
    ∃ n', n.update pixels = .ok n' ∧ m'.activeCount = n'.activeCount ∧
      m'.instances = n'.instances ∧ m'.layerCounts = n'.layerCounts := by
  obtain ⟨m'', hupdate, -, -, hactive, hinstances, hcounts⟩ := hm.update_eq hpixels
  obtain rfl := Except.ok.inj (hm'.symm.trans hupdate)
  obtain ⟨n', hupdate', -, -, hactive', hinstances', hcounts'⟩ := hn.update_eq (hconfig ▸ hpixels)
  have hboxes : m.boxes pixels = n.boxes pixels := by
    rw [TerraceMesh.boxes, TerraceMesh.boxes, hconfig, hramp, hfaces]
  refine ⟨n', hupdate', ?_, ?_, ?_⟩
  · rw [hactive, hactive', hboxes]
  · rw [hinstances, hinstances', hboxes, hconfig, hramp]
  · rw [← Array.toList_inj, hcounts, hcounts', hboxes, hramp]

/-- A frame of a faithful pipeline is as if made from scratch. -/
theorem Faithful.fromScratch (h : p.Faithful adapter graph g) {report : FrameReport}
    {q : Pipeline} {notices : List Notice}
    (hframe : p.renderCurrent = (.ok report, q, notices)) : q.FromScratch adapter graph := by
  obtain ⟨mesh, hmesh, heq, hrunning⟩ := h.running.renderCurrent_eq
  obtain ⟨-, rfl, -⟩ : _ ∧ _ ∧ _ := by
    rw [heq] at hframe
    simpa only [Prod.mk.injEq] using hframe
  have husable : p.heightmapConfig.validate = .ok () :=
    h.running.config ▸ h.running.ready.usable
  obtain ⟨hready, hconfig⟩ := h.running.ready_rendered
  have hpixels : (p.rendered g).pixels.size =
      p.mesh.config.resolution * p.mesh.config.resolution * 4 := by
    rw [hready.size, hconfig, h.running.terrace, h.running.resolution]
  have hcapacity : p.terraceConfig.capacity p.ramp p.faces = .ok p.mesh.buffer.size := by
    have := h.running.sized.buffer
    rwa [h.running.terrace, h.running.ramp, h.running.faces] at this
  have hcreate := TerraceMesh.create_eq hcapacity
  obtain ⟨hsized, hterrace, hramp, hfaces⟩ := TerraceMesh.Sized.of_create hcreate
  obtain rfl := h.graph_eq
  have hblank : (Generator.create p.heightmapConfig adapter).2 = .ok (.blank p.heightmapConfig) :=
    Generator.create_eq_ok_iff.mpr ⟨h.backend, husable, rfl⟩
  refine ⟨⟨_, hblank, ?_⟩, ?_, rfl⟩
  · exact Generator.pixels_shown_eq h.running.ready (.blank husable) h.readable (.blank _)
      h.running.config h.regular p.elapsed
  · obtain ⟨m', hm', hsame⟩ := mesh_eq h.running.sized hsized
      (by rw [hterrace, h.running.terrace]) (by rw [hramp, h.running.ramp])
      (by rw [hfaces, h.running.faces]) hpixels hmesh
    exact ⟨_, m', hcreate, hm', hsame⟩

/-- After every frame of every run over regular graphs, the pixels are those that a new generator
shows of the graph that was set last, and the mesh is like a new one, whatever the pipeline has been
through. -/
theorem run_fromScratch {heightmap : HeightmapConfig} {terrace : TerraceConfig} {ramp : ColorRamp}
    {faces : FaceMode} {notices : List Notice}
    (h : create graph heightmap terrace ramp faces adapter = .ok (p, notices))
    (hgraph : graph.Regular) {operations : List Operation}
    (ho : ∀ operation ∈ operations, operation.Regular) :
    (∀ dt report q notices, (p.run operations).frame dt = (.ok report, q, notices) →
        q.FromScratch adapter (lastGraph graph operations)) ∧
      ∀ report q notices, (p.run operations).renderCurrent = (.ok report, q, notices) →
        q.FromScratch adapter (lastGraph graph operations) := by
  obtain ⟨g, hfaithful⟩ := exists_faithful_of_create h hgraph
  obtain ⟨g', hfaithful'⟩ := hfaithful.run ho
  exact ⟨fun dt _ _ _ => (hfaithful'.advance dt).fromScratch, fun _ _ _ => hfaithful'.fromScratch⟩

/-- A graph whose height is a fixed number. -/
def flat (height : Float32) : Graph where
  nodes := [⟨"height", .value height, [], 0, 0⟩, ⟨"out", .output, [], 0, 0⟩]
  connections := [.between "height" "value" "out" "value"]

/-- The operations of a run that changes the graph and the resolution between frames. -/
def flatRun : List Operation :=
  [.frame 0.5, .setGraph (flat 0.25), .requestResolution 5000, .requestResolution 3]

theorem run_fromScratch_flat : ∃ p notices,
    create (flat 0.5) { resolution := 2, backend := .software } {} .standard .cube .present =
        .ok (p, notices) ∧
      (flat 0.5).Regular ∧ (∀ operation ∈ flatRun, operation.Regular) ∧
      ∃ report q notices', (p.run flatRun).renderCurrent = (.ok report, q, notices') ∧
        q.FromScratch .present (flat 0.25) := by
  have h : ∃ p notices,
      create (flat 0.5) { resolution := 2, backend := .software } {} .standard .cube .present =
        .ok (p, notices) := ⟨_, _, rfl⟩
  have hgraph : (flat 0.5).Regular := by decide
  have ho : ∀ operation ∈ flatRun, operation.Regular := by decide
  obtain ⟨p, notices, h⟩ := h
  obtain ⟨g, hrunning⟩ := (running_of_create h).1.run flatRun
  obtain ⟨mesh, -, hframe, -⟩ := hrunning.renderCurrent_eq
  exact ⟨p, notices, h, hgraph, ho, _, _, _, hframe, (run_fromScratch h hgraph ho).2 _ _ _ hframe⟩

end Pipeline
end Heightfield
