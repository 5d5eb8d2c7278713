import Heightfield.Proofs.Heightmap.Submission
import Heightfield.Proofs.Shader.Lines

/-!
# Where a shader is sampled

The text of a shader says how far apart texels are: it scales positions by the world size, or by the
side of the grid. A generator renders with the extent of its configuration. The two agree as long as
no shader is installed that was compiled for the other extent.

* `Shader.Scales` says by what a source scales positions, and `HeightmapConfig.scaled` is the
  position of a texel then.
* `Generator.run_texel` says where every generator samples, and `Generator.run_scaled` when this is
  where its source says.
* `Generator.run_not_scaled` is a shader that is sampled elsewhere.
-/

namespace Heightfield

/-! ## What a source says -/

namespace Shader

/-- The source begins with the lines that scale positions by the world size, or else with those that
scale them by the side of the grid. -/
def Scales (source : String) (useWorldPos : Bool) : Prop :=
  ∃ rest, source = unlines (header .wgsl useWorldPos ++ opening .wgsl useWorldPos) ++ rest

theorem scales_source (p : Program) : Scales (p.source .wgsl) p.useWorldPos :=
  ⟨_, p.source_eq_unlines .wgsl⟩

theorem scales_compile (graph : Graph) (useWorldPos : Bool) :
    Scales (compile graph ⟨useWorldPos, .wgsl⟩).source useWorldPos := by
  have hlower := scales_source (lower graph useWorldPos)
  rw [useWorldPos_lower] at hlower
  simpa only [compile] using hlower

/-- The lines that a source begins with differ in the extent. -/
theorem unlines_opening_wgsl (useWorldPos : Bool) :
    unlines (header .wgsl useWorldPos ++ opening .wgsl useWorldPos) =
      unlines (header .wgsl true ++ (opening .wgsl true).take 3) ++
        ("  let sample_pos = vec3<f32>((cell_uv - 0.5) * " ++
          ((if useWorldPos then "globals.world_size" else "GRID_WORLD_SIZE") ++ ", 0.0);\n")) := by
  have hlast : opening .wgsl useWorldPos =
      (opening .wgsl true).take 3 ++ [positionLine .wgsl useWorldPos] := rfl
  have hheader : header .wgsl useWorldPos = header .wgsl true := rfl
  rw [hlast, hheader, ← List.append_assoc, unlines_append]
  cases useWorldPos <;> rfl

/-- A source does not scale positions by both. -/
theorem Scales.unique {source : String} {a b : Bool} (ha : Scales source a)
    (hb : Scales source b) : a = b := by
  obtain ⟨rest, rfl⟩ := ha
  obtain ⟨rest', heq⟩ := hb
  rw [unlines_opening_wgsl a, unlines_opening_wgsl b] at heq
  have hlists := congrArg String.toList heq
  simp only [String.toList_append, List.append_assoc, List.append_cancel_left_eq] at hlists
  -- the first letter of the extent tells
  cases a <;> cases b <;> first | rfl | exact absurd (congrArg List.head? hlists) (by simp)

end Shader

/-- The position of a texel, scaled by the world size or by the side of the grid. -/
def HeightmapConfig.scaled (c : HeightmapConfig) (useWorldPos : Bool) (i j : Nat) : Vec3 :=
  let (u, v) := unitPosition c.resolution i j
  let (width, depth) :=
    if useWorldPos then (c.worldWidth, c.worldDepth) else (gridWorldSize, gridWorldSize)
  ⟨(u - 0.5) * width, (v - 0.5) * depth, 0⟩

/-- The configuration has an extent of its own. -/
theorem HeightmapConfig.position_eq_scaled (c : HeightmapConfig) (i j : Nat) :
    c.position i j = c.scaled c.useWorldPos i j := rfl

namespace Generator

variable {g : Generator} {c : HeightmapConfig} {adapter : Adapter}

/-! ## Where a generator samples -/

/-- A texel of every generator that can be reached is sampled where its configuration says. -/
theorem run_texel (h : (create c adapter).2 = .ok g) (operations : List Operation) {i j : Nat}
    (hi : i < c.resolution) (hj : j < c.resolution) :
    ((g.run operations).render.pixels.toList.drop ((j * c.resolution + i) * 4)).take 4 =
      ((g.run operations).program.color
        ⟨(g.run operations).time, c.scaled c.useWorldPos i j⟩).map Number.toByte := by
  obtain ⟨hconfig, hbounds, hsize⟩ := (Sized.of_create h).run operations
  subst hconfig
  obtain ⟨registers, hrender⟩ := render_eq hbounds.2 hsize
  rw [hrender, take_drop_frame hi hj, texel, HeightmapConfig.position_eq_scaled]

/-- If the operation can install a shader other than that of a graph, it has the given extent. -/
def Operation.Scales (useWorldPos : Bool) : Operation → Prop
  | .update _ (some shader) =>
    shader.dialect = .wgsl → isBuildable shader = true → shader.program.useWorldPos = useWorldPos
  | _ => True

/-- A compiled shader has the extent that it was compiled for. -/
theorem Operation.scales_compile (graph graph' : Graph) (useWorldPos : Bool) :
    (Operation.update graph (some (compile graph' ⟨useWorldPos, .wgsl⟩))).Scales useWorldPos :=
  fun _ _ => useWorldPos_lower graph' useWorldPos

/-- A shader that is submitted and can be installed has the extent of the configuration. -/
theorem useWorldPos_submitted {graph : Graph} {precompiled : Option CompiledShader}
    (ho : (Operation.update graph precompiled).Scales g.config.useWorldPos)
    (hbuild : isBuildable (g.submitted graph precompiled) = true) :
    (g.submitted graph precompiled).program.useWorldPos = g.config.useWorldPos := by
  cases precompiled with
  | none => exact useWorldPos_lower graph _
  | some shader =>
    rw [submitted] at hbuild ⊢
    split
    next hdialect =>
      rw [if_pos hdialect] at hbuild
      exact ho hdialect hbuild
    next => exact useWorldPos_lower graph _

theorem useWorldPos_perform {operation : Operation} (ho : operation.Scales g.config.useWorldPos)
    (h : g.program.useWorldPos = g.config.useWorldPos) :
    (g.perform operation).program.useWorldPos = g.config.useWorldPos := by
  cases operation with
  | update graph precompiled =>
    obtain ⟨_, hupdate⟩ := g.update_eq_submit graph precompiled
    rw [perform, hupdate]
    obtain ⟨-, heq⟩ | ⟨-, hsource, _, heq⟩ | ⟨-, _, _, _, heq⟩ :=
      g.submit_cases (g.submitted graph precompiled)
    · rw [heq]
      exact h
    · rw [heq]
      exact useWorldPos_submitted ho (decide_eq_true hsource)
    · rw [heq]
      exact h
  | setTime time => exact h
  | render =>
    obtain ⟨registers, pixels, heq⟩ := g.render_keeps
    rw [perform, heq]
    exact h

theorem useWorldPos_run (hg : g.Sized c) {operations : List Operation}
    (ho : ∀ operation ∈ operations, operation.Scales c.useWorldPos)
    (h : g.program.useWorldPos = c.useWorldPos) :
    (g.run operations).program.useWorldPos = c.useWorldPos := by
  induction operations generalizing g with
  | nil => exact h
  | cons operation rest ih =>
    rw [List.forall_mem_cons] at ho
    rw [← hg.config] at ho h
    exact ih (hg.perform operation) (hg.config ▸ ho.2) (hg.config ▸ useWorldPos_perform ho.1 h)

/-- The installed source says by what the installed program has it scale positions, and nothing
else. -/
theorem Coherent.scales_iff (h : g.Coherent) (useWorldPos : Bool) :
    Shader.Scales g.installedSource useWorldPos ↔ useWorldPos = g.program.useWorldPos := by
  have hscales := Shader.scales_source g.program
  rw [h] at hscales
  refine ⟨fun h' => h'.unique hscales, ?_⟩
  rintro rfl
  exact hscales

/-- The installed source of every generator that can be reached says by what positions are scaled. A
texel is sampled there if the installed program has the extent of the configuration, and it has if
no shader of another extent could be installed. -/
theorem run_scaled (h : (create c adapter).2 = .ok g) (operations : List Operation) :
    let g' := g.run operations
    (∀ useWorldPos, Shader.Scales g'.installedSource useWorldPos ↔
        useWorldPos = g'.program.useWorldPos) ∧
      (g'.program.useWorldPos = c.useWorldPos → ∀ i j, i < c.resolution → j < c.resolution →
        (g'.render.pixels.toList.drop ((j * c.resolution + i) * 4)).take 4 =
          (g'.program.color
            ⟨g'.time, c.scaled g'.program.useWorldPos i j⟩).map Number.toByte) ∧
      ((∀ operation ∈ operations, operation.Scales c.useWorldPos) →
        g'.program.useWorldPos = c.useWorldPos) := by
  intro g'
  refine ⟨((Coherent.of_create h).run operations).scales_iff, fun hworld i j hi hj => ?_,
    fun ho => ?_⟩
  · rw [hworld]
    exact run_texel h operations hi hj
  · refine useWorldPos_run (Sized.of_create h) ho ?_
    obtain ⟨-, rfl⟩ := eq_blank_of_create h
    rfl

/-- A height that falls along the first axis. -/
def slope : Graph where
  nodes := [⟨"p", .position, [], 0, 0⟩, ⟨"s", .math .multiply (-0.1), [], 0, 0⟩,
    ⟨"o", .output, [], 0, 0⟩]
  connections := [.between "p" "x" "s" "a", .between "s" "value" "o" "value"]

/-- A single texel of a wide area. -/
def wide (useWorldPos : Bool) : HeightmapConfig :=
  { resolution := 1, worldWidth := 20, worldDepth := 4, useWorldPos, backend := .software }

theorem create_wide (useWorldPos : Bool) : ∃ g, (create (wide useWorldPos)).2 = .ok g := by
  cases useWorldPos <;> exact ⟨_, rfl⟩

theorem run_scaled_wide : ∃ start, (create (wide true)).2 = .ok start ∧
    let operations := [.update slope (some (compile slope ⟨true, .wgsl⟩)), .setTime 0.5,
      .update {} (some (compile slope ⟨false, .glsl⟩)), .render]
    let g := start.run operations
    g.program.useWorldPos = true ∧
      (∀ useWorldPos, Shader.Scales g.installedSource useWorldPos ↔
        useWorldPos = g.program.useWorldPos) ∧
      ∀ i j, i < 1 → j < 1 →
        (g.render.pixels.toList.drop ((j * 1 + i) * 4)).take 4 =
          (g.program.color
            ⟨g.time, (wide true).scaled g.program.useWorldPos i j⟩).map Number.toByte := by
  obtain ⟨start, hcreate⟩ := create_wide true
  refine ⟨start, hcreate, ?_⟩
  intro operations
  obtain ⟨hscales, htexel, hworld⟩ := run_scaled hcreate operations
  have hflag : (start.run operations).program.useWorldPos = true := by
    refine hworld ?_
    simp only [operations, List.forall_mem_cons]
    exact ⟨Operation.scales_compile slope slope true, trivial, nofun, trivial, nofun⟩
  exact ⟨hflag, hscales, htexel hflag⟩

/-- A new generator installs whatever was compiled for the other extent. -/
theorem update_compile_of_create (h : (create c adapter).2 = .ok g) (graph graph' : Graph)
    {useWorldPos : Bool} (hother : useWorldPos ≠ c.useWorldPos) :
    let shader := compile graph' ⟨useWorldPos, .wgsl⟩
    (g.update graph (some shader)).1 = .installed ∧
      g.run [.update graph (some shader)] = g.install shader := by
  intro shader
  have hscales : Shader.Scales shader.source useWorldPos := Shader.scales_compile graph' useWorldPos
  have hsource : shader.program.source .wgsl = shader.source := source_own graph' useWorldPos
  have hdialect : shader.dialect = .wgsl := by simp only [shader, compile]
  obtain ⟨-, rfl⟩ := eq_blank_of_create h
  have hblank : Shader.Scales (blank c).installedSource c.useWorldPos :=
    Shader.scales_source (placeholder c)
  obtain ⟨_, hupdate⟩ := (blank c).update_eq_submit graph (some shader)
  rw [run, List.foldl_cons, List.foldl_nil, perform, hupdate, submitted, if_pos hdialect]
  obtain ⟨hsame, -⟩ | ⟨-, hfailed, -⟩ | ⟨-, -, -, _, heq⟩ | ⟨-, -, hne, -⟩ :=
    (blank c).submit_outcomes shader
  · exact absurd (hscales.unique (hsame ▸ hblank)) hother
  · cases hfailed
  · rw [heq]
    exact ⟨rfl, rfl⟩
  · exact absurd hsource hne

/-- A shader of the other extent can be installed. Its source then scales positions by the world
size, and the single texel is sampled elsewhere all the same: it has another colour. -/
theorem run_not_scaled : ∃ start, (create (wide false)).2 = .ok start ∧
    let shader := compile slope ⟨true, .wgsl⟩
    let g := start.run [.update slope (some shader)]
    (start.update slope (some shader)).1 = .installed ∧
      Shader.Scales g.installedSource true ∧
      g.program.useWorldPos = true ∧
      (g.render.pixels.toList.drop ((0 * 1 + 0) * 4)).take 4 = [128, 128, 128, 255] ∧
      (g.program.color ⟨g.time, (wide false).scaled true 0 0⟩).map Number.toByte =
        [255, 255, 255, 255] := by
  obtain ⟨start, hcreate⟩ := create_wide false
  have hother : true ≠ (wide false).useWorldPos := by decide
  obtain ⟨hinstalled, hrun⟩ := update_compile_of_create hcreate slope slope hother
  have htexel := run_texel hcreate [.update slope (some (compile slope ⟨true, .wgsl⟩))]
    (Nat.one_pos : 0 < (wide false).resolution) (Nat.one_pos : 0 < (wide false).resolution)
  have htime : start.time = 0 := by
    obtain ⟨-, rfl⟩ := eq_blank_of_create hcreate
    rfl
  have hcolor (useWorldPos : Bool) {bytes : List UInt8}
      (h : ((lower slope true).color ⟨0, (wide false).scaled useWorldPos 0 0⟩).map Number.toByte =
        bytes) :
      ((start.install (compile slope ⟨true, .wgsl⟩)).program.color
        ⟨(start.install (compile slope ⟨true, .wgsl⟩)).time,
          (wide false).scaled useWorldPos 0 0⟩).map Number.toByte = bytes := by
    rw [← htime] at h
    exact h
  rw [hrun] at htexel
  refine ⟨start, hcreate, hinstalled, ?_⟩
  rw [hrun]
  exact ⟨Shader.scales_compile slope true, useWorldPos_lower slope true,
    htexel.trans (hcolor false (by decide +kernel)), hcolor true (by decide +kernel)⟩

end Generator
end Heightfield
