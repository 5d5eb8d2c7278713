import Heightfield.Proofs.Heightmap.Submission
import Heightfield.Proofs.Number.Order
import Heightfield.Proofs.Program.Result

/-!
# What a frame holds

A frame is written texel by texel over the last one, with registers that have been used before.
Whatever they and the buffer hold, each texel is that of a single evaluation at its own position,
and no byte of the last frame is left. The offsets are counted in words of 32 bits, which hold them
for every resolution that can be used.

* `Program.mem_unit_of_height?` says that a height is a number in the unit range.
* `Generator.InBounds` says that the place of a texel is computed without overflow and lies in the
  buffer.
* `Generator.Renders` collects what holds of a frame, and `Generator.run_renders` says that every
  generator that can be reached renders such frames.
-/

namespace Heightfield

/-! ## Heights -/

namespace Program

variable {p : Program} {s : Sample}

/-- Only the program of a graph without an output has no height. -/
theorem height?_eq_none_iff : p.height? s = none ↔ p.result = .errorColor := by
  unfold height? resultOver?
  cases p.result <;> simp

/-- A height is a number in the unit range. -/
theorem mem_unit_of_height? {a : Float32} (h : p.height? s = some a) :
    a.isNaN = false ∧ 0 ≤ a ∧ a ≤ 1 := by
  unfold height? resultOver? at h
  cases hresult : p.result with
  | errorColor =>
    rw [hresult] at h
    cases h
  | zero =>
    rw [hresult] at h
    obtain rfl := Option.some.inj h
    decide
  | value e =>
    rw [hresult] at h
    obtain rfl := Option.some.inj h
    exact ⟨Number.isNaN_clampUnit _, Number.clampUnit_mem _⟩

end Program

namespace Generator

variable {g : Generator} {i j : Nat}

/-! ## Bytes -/

/-- The bytes of a height: three equal channels and full opacity. -/
theorem texel_of_height? {a : Float32}
    (h : g.program.height? ⟨g.time, g.config.position i j⟩ = some a) :
    g.texel i j = [Number.toByte a, Number.toByte a, Number.toByte a, 255] := by
  have hone : Number.toByte 1 = 255 := by decide
  rw [texel, Program.color, h, ← hone]
  rfl

/-- The bytes of a program without heights: opaque magenta. -/
theorem texel_of_errorColor (h : g.program.result = .errorColor) :
    g.texel i j = [255, 0, 255, 255] := by
  rw [texel, Program.color, Program.height?_eq_none_iff.mpr h]
  decide

/-! ## Places -/

/-- The place of a texel is computed without overflow, and its bytes are in the buffer. -/
structure InBounds (g : Generator) (i j : Nat) : Prop where
  row : j * g.config.resolution < UInt32.size
  place : j * g.config.resolution + i < UInt32.size
  offset : (j * g.config.resolution + i) * 4 < UInt32.size
  bytes : texelOffset g.config.resolution i j + 4 ≤ g.pixels.size

theorem size_store (pixels : Array UInt8) (offset : Nat) (values : List Float32) :
    (store pixels offset values).size = pixels.size := by
  induction values generalizing pixels offset with
  | nil => rfl
  | cons a rest ih => rw [store, ih, Array.size_setIfInBounds]

/-- Texels that are written change the registers and the bytes, but not the number of bytes. -/
theorem foldl_renderTexel_keeps (g : Generator) (places : List (Nat × Nat)) :
    (places.foldl (fun g (i, j) => g.renderTexel i j) g).config = g.config ∧
      (places.foldl (fun g (i, j) => g.renderTexel i j) g).pixels.size = g.pixels.size := by
  induction places generalizing g with
  | nil => exact ⟨rfl, rfl⟩
  | cons t rest ih =>
    obtain ⟨hconfig, hsize⟩ := ih (g.renderTexel t.1 t.2)
    rw [List.foldl_cons]
    refine ⟨hconfig.trans ?_, hsize.trans ?_⟩
    · rw [renderTexel_eq]
    · rw [renderTexel_eq]
      exact size_store _ _ _

theorem mem_texels {n : Nat} : (i, j) ∈ texels n ↔ i < n ∧ j < n := by
  simp [texels, and_comm]

/-- However far a frame has been written, the next texel finds its place. -/
theorem inBounds_foldl (hn : g.config.resolution ≤ maxResolution)
    (hsize : g.pixels.size = g.config.resolution * g.config.resolution * 4)
    {before after : List (Nat × Nat)}
    (htexels : texels g.config.resolution = before ++ (i, j) :: after) :
    (before.foldl (fun g (i, j) => g.renderTexel i j) g).InBounds i j := by
  obtain ⟨hi, hj⟩ : i < g.config.resolution ∧ j < g.config.resolution :=
    mem_texels.mp (by simp [htexels])
  obtain ⟨hconfig, hpixels⟩ := g.foldl_renderTexel_keeps before
  have hsquare : g.config.resolution * g.config.resolution ≤ maxResolution * maxResolution :=
    Nat.mul_le_mul hn hn
  have hrow : (j + 1) * g.config.resolution ≤ g.config.resolution * g.config.resolution :=
    Nat.mul_le_mul_right _ hj
  rw [Nat.succ_mul] at hrow
  have hoffset : texelOffset g.config.resolution i j ≤ (j * g.config.resolution + i) * 4 :=
    Nat.mod_le _ _
  simp only [maxResolution] at hsquare
  constructor
  · rw [hconfig, UInt32.size]
    omega
  · rw [hconfig, UInt32.size]
    omega
  · rw [hconfig, UInt32.size]
    omega
  · rw [hconfig, hpixels, hsize]
    omega

/-! ## Times -/

/-- The time that an operation sets. -/
def Operation.time? : Operation → Option Float32
  | .setTime time => some time
  | _ => none

/-- The time that was set last, and 0 if none was set. -/
def lastTime (operations : List Operation) : Float32 :=
  (operations.filterMap Operation.time?).getLast?.getD 0

theorem time_perform (g : Generator) (operation : Operation) :
    (g.perform operation).time = operation.time?.getD g.time := by
  cases operation with
  | update graph precompiled =>
    obtain ⟨notices, heq⟩ := g.update_eq_submit graph precompiled
    rw [perform, heq]
    obtain ⟨-, heq⟩ | ⟨-, -, notices, heq⟩ | ⟨-, rejectedSource, failures, notices, heq⟩ :=
      g.submit_cases (g.submitted graph precompiled) <;> rw [heq] <;> rfl
  | setTime time => rfl
  | render =>
    obtain ⟨registers, pixels, heq⟩ := g.render_keeps
    rw [perform, heq]
    rfl

theorem time_run (g : Generator) (operations : List Operation) :
    (g.run operations).time = (operations.filterMap Operation.time?).getLast?.getD g.time := by
  induction operations generalizing g with
  | nil => rfl
  | cons operation rest ih =>
    have hrest := ih (g.perform operation)
    rw [time_perform] at hrest
    rw [run, List.foldl_cons, ← run, hrest]
    cases htime : operation.time? with
    | none => rw [List.filterMap_cons_none htime, Option.getD_none]
    | some time => rw [List.filterMap_cons_some htime, List.getLast?_cons, Option.getD_some,
        Option.getD_some]

/-! ## Frames -/

/-- The bytes of the texel in column `i` and row `j` of a buffer. -/
def bytesAt (pixels : Array UInt8) (resolution i j : Nat) : List UInt8 :=
  (pixels.toList.drop (4 * (j * resolution + i))).take 4

/-- A generator renders what its program, its time and its configuration say: every texel within
the bounds of the buffer and of the words that count, with the bytes of a single evaluation, and so
each byte of the buffer, whatever that and the registers held. -/
structure Renders (g : Generator) : Prop where
  size : g.render.pixels.size = 4 * g.config.resolution ^ 2
  inBounds : ∀ before i j after,
    texels g.config.resolution = before ++ (i, j) :: after →
      (before.foldl (fun g (i, j) => g.renderTexel i j) g).InBounds i j
  height : ∀ i j, i < g.config.resolution → j < g.config.resolution →
    g.program.result ≠ .errorColor →
      ∃ a, g.program.height? ⟨g.time, g.config.position i j⟩ = some a ∧
        (a.isNaN = false ∧ 0 ≤ a ∧ a ≤ 1) ∧
        bytesAt g.render.pixels g.config.resolution i j =
          [Number.toByte a, Number.toByte a, Number.toByte a, 255]
  errorColor : ∀ i j, i < g.config.resolution → j < g.config.resolution →
    g.program.result = .errorColor →
      g.program.height? ⟨g.time, g.config.position i j⟩ = none ∧
        bytesAt g.render.pixels g.config.resolution i j = [255, 0, 255, 255]
  covers : ∀ k < 4 * g.config.resolution ^ 2, ∃ i j channel,
    i < g.config.resolution ∧ j < g.config.resolution ∧ channel < 4 ∧
      k = 4 * (j * g.config.resolution + i) + channel
  forgets : ∀ (registers : Registers) (pixels : Array UInt8),
    pixels.size = 4 * g.config.resolution ^ 2 →
      ({ g with registers, pixels } : Generator).render.pixels = g.render.pixels

/-- Every byte is that of a channel of a texel. -/
theorem exists_channel {n k : Nat} (hk : k < 4 * n ^ 2) :
    ∃ i j channel, i < n ∧ j < n ∧ channel < 4 ∧ k = 4 * (j * n + i) + channel := by
  have hplace : k / 4 < n * n := by
    rw [Nat.pow_two] at hk
    omega
  have hpos : 0 < n := Nat.pos_of_ne_zero fun hzero => by simp [hzero] at hplace
  refine ⟨k / 4 % n, k / 4 / n, k % 4, Nat.mod_lt _ hpos, Nat.div_lt_of_lt_mul hplace,
    Nat.mod_lt _ (by decide), ?_⟩
  rw [Nat.div_add_mod']
  omega

/-- Within bounds, a buffer of the right size is enough. -/
theorem renders_of_size (hn : g.config.resolution ≤ maxResolution)
    (h : g.pixels.size = 4 * g.config.resolution ^ 2) : g.Renders := by
  have hsize (pixels : Array UInt8) (h : pixels.size = 4 * g.config.resolution ^ 2) :
      pixels.size = g.config.resolution * g.config.resolution * 4 := by
    rw [h, Nat.pow_two, Nat.mul_comm]
  obtain ⟨registers, hrender⟩ := render_eq hn (hsize _ h)
  have hpixels : g.render.pixels = g.frame := by rw [hrender]
  have hbytes {i j : Nat} (hi : i < g.config.resolution) (hj : j < g.config.resolution) :
      bytesAt g.render.pixels g.config.resolution i j = g.texel i j := by
    rw [hpixels, bytesAt, Nat.mul_comm 4, take_drop_frame hi hj]
  constructor
  · rw [hpixels, size_frame, Nat.pow_two, Nat.mul_comm]
  · exact fun before i j after => inBounds_foldl hn (hsize _ h)
  · intro i j hi hj hresult
    cases ha : g.program.height? ⟨g.time, g.config.position i j⟩ with
    | none => exact absurd (Program.height?_eq_none_iff.mp ha) hresult
    | some a =>
      exact ⟨a, rfl, Program.mem_unit_of_height? ha, (hbytes hi hj).trans (texel_of_height? ha)⟩
  · intro i j hi hj hresult
    exact ⟨Program.height?_eq_none_iff.mpr hresult,
      (hbytes hi hj).trans (texel_of_errorColor hresult)⟩
  · exact fun k => exists_channel
  · intro registers' pixels' h'
    obtain ⟨_, hrender'⟩ :=
      @render_eq { g with registers := registers', pixels := pixels' } hn (hsize _ h')
    rw [hrender', hpixels]
    rfl

/-- **A frame is that of its program.** Every generator that can be reached has between 1 and
`maxResolution` rows, a buffer of four bytes for each texel, and the time that was set last. It
renders within all bounds, whatever its registers and its buffer hold by then: each texel is that of
a single evaluation of the installed program at its own position, a grey of the unit range or, for a
graph without an output, opaque magenta, and each byte is written anew. -/
theorem run_renders {c : HeightmapConfig} {adapter : Adapter} {start : Generator}
    (h : (create c adapter).2 = .ok start) (operations : List Operation) :
    (1 ≤ c.resolution ∧ c.resolution ≤ maxResolution) ∧
    (start.run operations).config = c ∧
    (start.run operations).pixels.size = 4 * c.resolution ^ 2 ∧
    (start.run operations).time = lastTime operations ∧
    (∀ (registers : Registers) (pixels : Array UInt8), pixels.size = 4 * c.resolution ^ 2 →
      ({ start.run operations with registers, pixels } : Generator).Renders) ∧
    ∀ graph useWorldPos,
      (lower graph useWorldPos).result = .errorColor ↔ graph.outputNode? = none := by
  have htime : start.time = 0 := by
    obtain ⟨-, rfl⟩ := eq_blank_of_create h
    rfl
  obtain ⟨hconfig, hbounds, hsize⟩ := (Sized.of_create h).run operations
  refine ⟨hbounds, hconfig, ?_, ?_, fun registers pixels hpixels => ?_,
    result_lower_eq_errorColor_iff⟩
  · rw [hsize, Nat.pow_two, Nat.mul_comm]
  · rw [time_run, htime, lastTime]
  · exact renders_of_size (hconfig ▸ hbounds.2) (hconfig ▸ hpixels)

theorem run_renders_small :
    ∃ start, (create { resolution := 2, backend := .software }).2 = .ok start ∧
      let g := start.run [.setTime 0.5, .render]
      let g' := start.run [.render, .setTime 2, .update {} none]
      (g.time = 0.5 ∧ g.pixels.size = 16) ∧ (g'.time = 2 ∧ g'.pixels.size = 16) ∧
      ({ g with registers := #[.scalar 7], pixels := Array.replicate 16 9 } : Generator).Renders ∧
      ({ g' with registers := #[], pixels := g.render.pixels } : Generator).Renders := by
  have h : ∃ g, (create { resolution := 2, backend := .software }).2 = .ok g := ⟨_, rfl⟩
  obtain ⟨start, h⟩ := h
  obtain ⟨-, -, hsize, htime, hrenders, -⟩ := run_renders h [.setTime 0.5, .render]
  obtain ⟨-, -, hsize', htime', hrenders', -⟩ :=
    run_renders h [.render, .setTime 2, .update {} none]
  obtain ⟨-, -, hsize'', -⟩ := run_renders h [.setTime 0.5, .render, .render]
  exact ⟨start, h, ⟨htime, hsize⟩, ⟨htime', hsize'⟩,
    hrenders #[.scalar 7] (Array.replicate 16 9) Array.size_replicate, hrenders' #[] _ hsize''⟩

end Generator
end Heightfield
