import Heightfield.Heightmap.Generator

/-!
# Rendering over the last frame

A generator uses its registers and its pixel buffer again and again. Nothing of an earlier texel or
frame can be seen afterwards: registers are reset before each texel, and a frame covers the whole
buffer, texel by texel from the first byte to the last. The places of the bytes are counted in words
of 32 bits, which are large enough for every resolution that can be used.

* `Program.refill_eq` says that used registers are as good as new ones.
* `Generator.frame` is the frame of a generator as a function of its program, time and
  configuration, and `Generator.render_eq` says that rendering leaves it in the buffer.
* `Generator.Ready` is what holds of a generator that was only given graphs, and
  `Generator.update_eq` is all that becomes of a graph then.
-/

namespace Heightfield

/-- The resolution of a usable configuration is within its bounds. -/
theorem HeightmapConfig.bounds_of_validate {c : HeightmapConfig}
    (h : c.validate = .ok ()) : 0 < c.resolution ∧ c.resolution ≤ maxResolution := by
  unfold HeightmapConfig.validate at h
  split at h
  · cases h
  next hres =>
    simp only [Bool.or_eq_true, decide_eq_true_eq, not_or, Nat.not_lt] at hres
    exact ⟨Nat.pos_of_ne_zero hres.1, hres.2⟩

/-! ## Registers -/

theorem Registers.reset_eq (r : Registers) (count : Nat) :
    r.reset count = Array.replicate count (.scalar 0) := by
  simp [reset, Array.rightpad]

/-- Registers that have been used before are filled like new ones. -/
theorem Program.refill_eq (p : Program) (s : Sample) (r : Registers) : p.refill s r = p.run s := by
  rw [refill, Registers.reset_eq, run]

theorem Program.length_color (p : Program) (s : Sample) : (p.color s).length = 4 := by
  unfold color shade
  split <;> rfl

namespace Generator

/-! ## The pixel buffer -/

/-- Storing values replaces as many bytes as there are values. -/
theorem toList_store {pixels : Array UInt8} {before old after : List UInt8} {values : List Float32}
    (h : pixels.toList = before ++ old ++ after) (hlen : old.length = values.length) :
    (store pixels before.length values).toList =
      before ++ values.map Number.toByte ++ after := by
  -- each byte that is stored moves on to `before`
  induction values generalizing pixels before old with
  | nil =>
    obtain rfl := List.length_eq_zero_iff.mp hlen
    exact h
  | cons a rest ih =>
    cases old with
    | nil => simp at hlen
    | cons b old =>
      have hset : (pixels.setIfInBounds before.length (Number.toByte a)).toList =
          (before ++ [Number.toByte a]) ++ old ++ after := by
        rw [Array.toList_setIfInBounds, h]
        simp
      have hstep := ih hset (by simpa using hlen)
      rw [List.length_append, List.length_singleton] at hstep
      rw [store, hstep]
      simp

/-! ## The order of the texels -/

theorem rows_eq (n rows : Nat) :
    ((List.range rows).flatMap fun j => (List.range n).map fun i => (i, j)) =
      (List.range (rows * n)).map fun k => (k % n, k / n) := by
  induction rows with
  | zero => simp
  | succ rows ih =>
    rw [List.range_succ, List.flatMap_append, ih, Nat.succ_mul, List.range_add, List.map_append,
      List.flatMap_singleton, List.map_map]
    congr 1
    refine List.map_congr_left fun i hi => ?_
    have hlt : i < n := List.mem_range.mp hi
    rw [Function.comp_apply, Nat.mul_comm, Nat.mul_add_mod, Nat.mod_eq_of_lt hlt,
      Nat.mul_add_div (by omega), Nat.div_eq_of_lt hlt, Nat.add_zero]

/-- The texels are counted row by row. -/
theorem texels_eq (n : Nat) : texels n = (List.range (n * n)).map fun k => (k % n, k / n) :=
  rows_eq n n

/-! ## Frames -/

/-- The four bytes of the texel in column `i` and row `j`. -/
def texel (g : Generator) (i j : Nat) : List UInt8 :=
  (g.program.color ⟨g.time, g.config.position i j⟩).map Number.toByte

/-- The frame of the installed program at the time that was set. -/
def frame (g : Generator) : Array UInt8 :=
  ((texels g.config.resolution).flatMap fun (i, j) => g.texel i j).toArray

variable {g : Generator}

theorem length_texel (g : Generator) (i j : Nat) : (g.texel i j).length = 4 := by
  rw [texel, List.length_map, Program.length_color]

theorem renderTexel_eq (g : Generator) (i j : Nat) :
    g.renderTexel i j =
      let s : Sample := ⟨g.time, g.config.position i j⟩
      { g with
        registers := g.program.run s
        pixels := store g.pixels (texelOffset g.config.resolution i j) (g.program.color s) } := by
  simp only [renderTexel, Program.refill_eq]
  rfl

/-- The bytes of the first texels. -/
def firstBytes (g : Generator) (count : Nat) : List UInt8 :=
  (List.range count).flatMap fun k =>
    g.texel (k % g.config.resolution) (k / g.config.resolution)

theorem length_firstBytes (g : Generator) (count : Nat) :
    (g.firstBytes count).length = count * 4 := by
  simp [firstBytes, List.length_flatMap, length_texel, List.map_const']

theorem frame_eq (g : Generator) :
    g.frame = (g.firstBytes (g.config.resolution * g.config.resolution)).toArray := by
  rw [frame, texels_eq, List.flatMap_map, firstBytes]

/-- No offset overflows in a frame that can be used: the bytes of a texel begin where those of the
texels before it end. -/
theorem texelOffset_eq {n k : Nat} (hn : n ≤ maxResolution) (hk : k < n * n) :
    texelOffset n (k % n) (k / n) = k * 4 := by
  have hsquare : n * n ≤ maxResolution * maxResolution := Nat.mul_le_mul hn hn
  rw [texelOffset, Nat.div_add_mod']
  refine Nat.mod_eq_of_lt ?_
  simp only [maxResolution, UInt32.size] at *
  omega

/-- After some texels the buffer holds their bytes, and behind them what it held before. -/
theorem foldl_renderTexel {count : Nat} (hn : g.config.resolution ≤ maxResolution)
    (h : g.pixels.size = g.config.resolution * g.config.resolution * 4)
    (hcount : count ≤ g.config.resolution * g.config.resolution) :
    ∃ registers pixels,
      (List.range count).foldl (fun g' k => g'.renderTexel (k % g.config.resolution)
          (k / g.config.resolution)) g = { g with registers, pixels } ∧
        pixels.toList = g.firstBytes count ++ g.pixels.toList.drop (count * 4) := by
  induction count with
  | zero => exact ⟨g.registers, g.pixels, rfl, by simp [firstBytes]⟩
  | succ count ih =>
    obtain ⟨registers, pixels, hfold, hpixels⟩ := ih (by omega)
    have hplace := texelOffset_eq hn hcount
    let s : Sample := ⟨g.time, g.config.position (count % g.config.resolution)
      (count / g.config.resolution)⟩
    let color := g.program.color s
    -- the bytes that are done, the four of this texel, and the bytes behind it
    have hrest : pixels.toList = g.firstBytes count ++
        (g.pixels.toList.drop (count * 4)).take 4 ++ g.pixels.toList.drop ((count + 1) * 4) := by
      rw [hpixels, List.append_assoc, Nat.succ_mul, ← List.drop_drop, List.take_append_drop]
    have hold : ((g.pixels.toList.drop (count * 4)).take 4).length = color.length := by
      rw [Program.length_color, List.length_take, List.length_drop, Array.length_toList]
      omega
    have hstore := toList_store hrest hold
    rw [length_firstBytes] at hstore
    refine ⟨g.program.run s, store pixels (count * 4) color, ?_, ?_⟩
    · rw [List.range_succ, List.foldl_append, hfold, List.foldl_cons, List.foldl_nil,
        renderTexel_eq]
      simp only [hplace]
      rfl
    · rw [hstore, firstBytes, firstBytes, List.range_succ, List.flatMap_append,
        List.flatMap_singleton]
      rfl

/-- Rendering leaves the frame in a buffer of the right size, whatever it held before. -/
theorem render_eq (hn : g.config.resolution ≤ maxResolution)
    (h : g.pixels.size = g.config.resolution * g.config.resolution * 4) :
    ∃ registers, g.render = { g with registers, pixels := g.frame } := by
  obtain ⟨registers, pixels, hfold, hpixels⟩ := foldl_renderTexel hn h (Nat.le_refl _)
  refine ⟨registers, ?_⟩
  have hframe : pixels = g.frame := by
    rw [frame_eq, ← Array.toList_inj, hpixels, List.drop_of_length_le (by simp [h]),
      List.append_nil]
  rw [render, texels_eq, List.foldl_map, hfold, hframe]

theorem size_frame (g : Generator) :
    g.frame.size = g.config.resolution * g.config.resolution * 4 := by
  rw [frame_eq, List.size_toArray, length_firstBytes]

/-- The bytes of a texel stand behind those of the texels before it. -/
theorem take_drop_firstBytes {count k : Nat} (hk : k < count) :
    ((g.firstBytes count).drop (k * 4)).take 4 =
      g.texel (k % g.config.resolution) (k / g.config.resolution) := by
  obtain ⟨rest, rfl⟩ := Nat.exists_eq_add_of_lt hk
  have hbefore := g.length_firstBytes k
  have htexel := g.length_texel (k % g.config.resolution) (k / g.config.resolution)
  rw [firstBytes] at hbefore ⊢
  rw [Nat.add_assoc, List.range_add, List.range_succ_eq_map, List.flatMap_append,
    ← hbefore, List.drop_left, List.map_cons, List.flatMap_cons, Nat.add_zero, ← htexel,
    List.take_left]

/-- The bytes of a texel in a frame. -/
theorem take_drop_frame {i j : Nat} (hi : i < g.config.resolution) (hj : j < g.config.resolution) :
    (g.frame.toList.drop ((j * g.config.resolution + i) * 4)).take 4 = g.texel i j := by
  have hplace : j * g.config.resolution + i < g.config.resolution * g.config.resolution :=
    calc j * g.config.resolution + i
        < (j + 1) * g.config.resolution := by rw [Nat.succ_mul]; omega
      _ ≤ g.config.resolution * g.config.resolution := Nat.mul_le_mul_right _ hj
  have hcolumn : (j * g.config.resolution + i) % g.config.resolution = i := by
    rw [Nat.mul_add_mod', Nat.mod_eq_of_lt hi]
  have hrow : (j * g.config.resolution + i) / g.config.resolution = j := by
    rw [Nat.mul_comm, Nat.mul_add_div (by omega), Nat.div_eq_of_lt hi, Nat.add_zero]
  rw [frame_eq, take_drop_firstBytes hplace, hcolumn, hrow]

/-! ## Submitting graphs -/

/-- What holds of a generator that was only given graphs. -/
structure Ready (g : Generator) : Prop where
  /-- its configuration can be used -/
  usable : g.config.validate = .ok ()
  /-- the source that is kept is that of the installed program -/
  source : g.installedSource = g.program.source .wgsl
  /-- nothing has been rejected -/
  accepted : g.rejectedSource = none
  /-- the buffer has four bytes for each texel -/
  size : g.pixels.size = g.config.resolution * g.config.resolution * 4

/-- What a generator renders that was only given graphs. -/
theorem Ready.render_eq (h : g.Ready) :
    ∃ registers, g.render = { g with registers, pixels := g.frame } :=
  Generator.render_eq (HeightmapConfig.bounds_of_validate h.usable).2 h.size

/-- The shader of a graph, as the generator compiles it. -/
def compiled (g : Generator) (graph : Graph) : CompiledShader :=
  compile graph g.options

theorem source_compiled (g : Generator) (graph : Graph) :
    (g.compiled graph).source = (g.compiled graph).program.source .wgsl := by
  simp only [compiled, compile, options]

/-- A graph is installed unless its source is installed already. It is never rejected, since its
source is that of its program. -/
theorem update_eq (h : g.Ready) (graph : Graph) :
    g.update graph none =
      if (g.compiled graph).source = g.installedSource then (.unchanged, g, [])
      else
        (.installed,
          { g with
            program := (g.compiled graph).program
            installedSource := (g.compiled graph).source
            rejectedSource := none
            relinks := g.relinks + 1 },
          [.installed (g.compiled graph).source]) := by
  have hbuildable : isBuildable (g.compiled graph) = true :=
    decide_eq_true (source_compiled g graph).symm
  have hsubmit : g.update graph none =
      ((g.submit (g.compiled graph)).1, (g.submit (g.compiled graph)).2.1,
        [] ++ (g.submit (g.compiled graph)).2.2) := rfl
  rw [hsubmit, submit]
  split
  next => rfl
  next => rw [h.accepted, if_neg (by simp), List.nil_append]

/-- The backend settles on software. -/
def SettlesOnSoftware (adapter : Adapter) (backend : Backend) : Prop :=
  ∃ notices, settleBackend adapter backend = .ok (.software, notices)

theorem settlesOnSoftware_iff {adapter : Adapter} {backend : Backend} :
    SettlesOnSoftware adapter backend ↔
      backend = .software ∨ backend = .auto ∧ adapter = .absent := by
  cases backend <;> cases adapter <;> simp [SettlesOnSoftware, settleBackend]

theorem start_eq {c : HeightmapConfig} (h : c.validate = .ok ()) :
    start .software c = .ok (blank c, [.generatorReady c.resolution]) := by
  rw [start, h]
  rfl

theorem not_start_graphics {c : HeightmapConfig} {notices : List Notice} :
    start .graphics c ≠ .ok (g, notices) := by
  rw [start]
  cases c.validate <;> nofun

/-- A generator is made if the backend settles on software and the configuration can be used. It is
blank then, whatever adapter there is. -/
theorem create_eq_ok_iff {c : HeightmapConfig} {adapter : Adapter} :
    (create c adapter).2 = .ok g ↔
      SettlesOnSoftware adapter c.backend ∧ c.validate = .ok () ∧ g = blank c := by
  rw [create, SettlesOnSoftware]
  cases settleBackend adapter c.backend with
  | error e => simp
  | ok settled =>
    obtain ⟨target, notices⟩ := settled
    cases target with
    | graphics =>
      cases hstart : start .graphics c with
      | error e => simp [hstart]
      | ok made => exact absurd hstart not_start_graphics
    | software =>
      cases hvalid : c.validate with
      | error e => simp [start, hvalid, bind, Except.bind]
      | ok _ => simp [start_eq hvalid, eq_comm]

/-- A new generator is blank, and its configuration can be used. -/
theorem eq_blank_of_create {c : HeightmapConfig} {adapter : Adapter}
    (h : (create c adapter).2 = .ok g) : c.validate = .ok () ∧ g = blank c :=
  (create_eq_ok_iff.mp h).2

/-- A generator that nothing has been submitted to is ready, if its configuration can be used. -/
theorem Ready.blank {c : HeightmapConfig} (h : c.validate = .ok ()) : (blank c).Ready := by
  refine ⟨h, rfl, rfl, ?_⟩
  have hsize : (Generator.blank c).pixels.size = c.byteLength := Array.size_replicate
  rw [hsize, HeightmapConfig.byteLength_of_le (HeightmapConfig.bounds_of_validate h).2]
  rfl

theorem Ready.update (h : g.Ready) (graph : Graph) :
    (g.update graph none).2.1.Ready ∧ (g.update graph none).2.1.config = g.config := by
  rw [update_eq h]
  split
  next => exact ⟨h, rfl⟩
  next =>
    refine ⟨⟨h.usable, ?_, rfl, h.size⟩, rfl⟩
    dsimp only
    rw [source_compiled]

theorem Ready.setTime (h : g.Ready) (time : Float32) :
    (g.setTime time).Ready ∧ (g.setTime time).config = g.config :=
  ⟨⟨h.usable, h.source, h.accepted, h.size⟩, rfl⟩

theorem Ready.render (h : g.Ready) : g.render.Ready ∧ g.render.config = g.config := by
  obtain ⟨registers, hrender⟩ := h.render_eq
  rw [hrender]
  exact ⟨⟨h.usable, h.source, h.accepted, g.size_frame⟩, rfl⟩

/-- The generator that a frame of a graph leaves behind. -/
def shown (g : Generator) (graph : Graph) (time : Float32) : Generator :=
  ((g.update graph none).2.1.setTime time).render

theorem Ready.shown (h : g.Ready) (graph : Graph) (time : Float32) :
    (g.shown graph time).Ready ∧ (g.shown graph time).config = g.config := by
  obtain ⟨hupdated, hconfig⟩ := h.update graph
  obtain ⟨htimed, hconfig'⟩ := hupdated.setTime time
  obtain ⟨hrendered, hconfig''⟩ := htimed.render
  refine ⟨hrendered, ?_⟩
  rw [Generator.shown, hconfig'', hconfig', hconfig]

end Generator
end Heightfield
