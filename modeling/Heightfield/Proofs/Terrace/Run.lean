import Heightfield.Proofs.Terrace.Rebuild
import Mathlib

/-!
# Terraces over runs of updates

A mesh is made once and rebuilt for each heightmap that comes. The instances that it shows are those
of the last heightmap that it took, each box of it once and in its turn, whatever came before.

* `TerraceMesh.enumeration` lists the boxes that the red bytes of a heightmap ask for, and
  `TerraceMesh.boxes_eq` says that these are the boxes which a rebuild draws.
* `TerraceMesh.mem_enumeration` and `TerraceMesh.nodup_enumeration` say which boxes these are.
* `TerraceMesh.countP_enumeration` counts the boxes of a layer.
* `TerraceMesh.Sized.inBounds` says that the places which the drawing of a box asks for are there.
* `TerraceMesh.run_shows` is the main result. It holds after all sequences of heightmaps, of right
  and of wrong sizes.
-/

namespace Heightfield
namespace TerraceMesh

variable {m : TerraceMesh}

/-! ## The boxes of a heightmap -/

/-- The red byte of the texel in row `j` and column `i`. -/
def redAt (resolution : Nat) (pixels : Array UInt8) (j i : Nat) : UInt8 :=
  pixels[(j * resolution + i) * 4]?.getD 0

/-- The height of the cell in row `j` and column `i`: its red byte, as a part of 255. -/
def cellHeight (resolution : Nat) (pixels : Array UInt8) (j i : Nat) : Float32 :=
  (redAt resolution pixels j i).toFloat32 / 255

/-- The layers that are drawn in row `j` and column `i`. -/
def layersOf (m : TerraceMesh) (pixels : Array UInt8) (j i : Nat) : Nat :=
  m.ramp.layersAt (cellHeight m.config.resolution pixels j i)

/-- The rows and columns of the cells of a grid. -/
def cells (n : Nat) : List (Nat × Nat) :=
  (List.range n).flatMap fun j => (List.range n).map fun i => (j, i)

/-- The boxes of one cell, from the lowest layer up. -/
def column (m : TerraceMesh) (pixels : Array UInt8) (face : Option CubeFace) (cell : Nat × Nat) :
    List TerraceBox :=
  (List.range (m.layersOf pixels cell.1 cell.2)).map fun layer => ⟨face, cell.1, cell.2, layer⟩

/-- The boxes that the red bytes of a heightmap ask for: side by side, row by row, cell by cell. -/
def enumeration (m : TerraceMesh) (pixels : Array UInt8) : List TerraceBox :=
  m.faces.faces.flatMap fun face =>
    (cells m.config.resolution).flatMap (m.column pixels face)

theorem mem_cells {n : Nat} {cell : Nat × Nat} : cell ∈ cells n ↔ cell.1 < n ∧ cell.2 < n := by
  obtain ⟨j, i⟩ := cell
  simp [cells]

theorem nodup_cells (n : Nat) : (cells n).Nodup := by
  refine List.nodup_flatMap.mpr ⟨?_, List.nodup_range.imp ?_⟩
  · intro j _
    exact List.nodup_range.map fun i i' h => (Prod.mk.inj h).2
  · intro j j' hne cell hcell hcell'
    obtain ⟨i, -, rfl⟩ := List.mem_map.mp hcell
    obtain ⟨i', -, h⟩ := List.mem_map.mp hcell'
    exact hne (Prod.mk.inj h).1.symm

/-- The height that a rebuild reads for a cell is that of its red byte. -/
theorem heightAt_eq (n : Nat) (pixels : Array UInt8) (j i : Nat) :
    heightAt n pixels i j = cellHeight n pixels j i := rfl

/-- A rebuild draws the boxes that the red bytes ask for. -/
theorem boxes_eq (m : TerraceMesh) (pixels : Array UInt8) :
    m.boxes pixels = m.enumeration pixels := by
  simp only [boxes, enumeration, cells, column, layersOf, heightAt_eq, List.flatMap_assoc,
    List.flatMap_map]

/-- The texel of a cell is in the heightmap. -/
theorem texel_lt {n j i : Nat} (hj : j < n) (hi : i < n) : (j * n + i) * 4 < n * n * 4 := by
  have hrow : (j + 1) * n ≤ n * n := Nat.mul_le_mul_right n hj
  rw [Nat.succ_mul] at hrow
  omega

/-- A heightmap of the right size has a red byte for each cell. -/
theorem getElem?_eq_redAt {n j i : Nat} {pixels : Array UInt8} (hsize : pixels.size = n * n * 4)
    (hj : j < n) (hi : i < n) :
    pixels[(j * n + i) * 4]? = some (redAt n pixels j i) := by
  have hlt : (j * n + i) * 4 < pixels.size := hsize ▸ texel_lt hj hi
  rw [redAt, Array.getElem?_eq_getElem hlt, Option.getD_some]

theorem mem_column {pixels : Array UInt8} {face : Option CubeFace} {cell : Nat × Nat}
    {b : TerraceBox} :
    b ∈ m.column pixels face cell ↔
      b.face = face ∧ (b.j, b.i) = cell ∧ b.layer < m.layersOf pixels b.j b.i := by
  obtain ⟨face', j, i, layer⟩ := b
  obtain ⟨j', i'⟩ := cell
  simp only [column, List.mem_map, List.mem_range, TerraceBox.mk.injEq, Prod.mk.injEq]
  constructor
  · rintro ⟨layer', hlayer, rfl, rfl, rfl, rfl⟩
    exact ⟨rfl, ⟨rfl, rfl⟩, hlayer⟩
  · rintro ⟨rfl, ⟨rfl, rfl⟩, hlayer⟩
    exact ⟨layer, hlayer, rfl, rfl, rfl, rfl⟩

/-- On each side of the terrace and in each cell of the grid, the layers are drawn that the ramp has
at the height of the red byte. -/
theorem mem_enumeration {pixels : Array UInt8} {b : TerraceBox} :
    b ∈ m.enumeration pixels ↔
      b.face ∈ m.faces.faces ∧ (b.j < m.config.resolution ∧ b.i < m.config.resolution) ∧
        b.layer < m.layersOf pixels b.j b.i := by
  simp only [enumeration, List.mem_flatMap]
  constructor
  · rintro ⟨face, hface, cell, hcell, hb⟩
    obtain ⟨rfl, rfl, hlayer⟩ := mem_column.mp hb
    exact ⟨hface, mem_cells.mp hcell, hlayer⟩
  · rintro ⟨hface, hcell, hlayer⟩
    exact ⟨b.face, hface, (b.j, b.i), mem_cells.mpr hcell, mem_column.mpr ⟨rfl, rfl, hlayer⟩⟩

/-- No box comes twice. -/
theorem nodup_enumeration (m : TerraceMesh) (pixels : Array UInt8) :
    (m.enumeration pixels).Nodup := by
  have hfaces : m.faces.faces.Nodup := by cases m.faces <;> decide
  refine List.nodup_flatMap.mpr ⟨?_, hfaces.imp ?_⟩
  · intro face _
    refine List.nodup_flatMap.mpr ⟨?_, (nodup_cells _).imp ?_⟩
    · intro cell _
      exact List.nodup_range.map fun layer layer' h => (TerraceBox.mk.inj h).2.2.2
    · -- the boxes of two cells differ in the cell
      intro cell cell' hne b hb hb'
      obtain ⟨-, rfl, -⟩ := mem_column.mp hb
      obtain ⟨-, heq, -⟩ := mem_column.mp hb'
      exact hne heq
  · intro face face' hne b hb hb'
    obtain ⟨cell, -, hcell⟩ := List.mem_flatMap.mp hb
    obtain ⟨cell', -, hcell'⟩ := List.mem_flatMap.mp hb'
    exact hne ((mem_column.mp hcell).1.symm.trans (mem_column.mp hcell').1)

/-! ## Counting the boxes of a layer -/

/-- How many cells of the grid are drawn with a layer. -/
def cellCount (m : TerraceMesh) (pixels : Array UInt8) (layer : Nat) : Nat :=
  (cells m.config.resolution).countP fun cell => layer < m.layersOf pixels cell.1 cell.2

theorem countP_flatMap_of_forall {α β : Type} {p : β → Bool} {q : α → Bool} {f : α → List β}
    {l : List α} (h : ∀ a ∈ l, (f a).countP p = if q a then 1 else 0) :
    (l.flatMap f).countP p = l.countP q := by
  induction l with
  | nil => rfl
  | cons a rest ih =>
    have ha := h a List.mem_cons_self
    have hrest := ih fun b hb => h b (List.mem_cons_of_mem _ hb)
    rw [List.flatMap_cons, List.countP_append, ha, hrest, List.countP_cons, Nat.add_comm]

theorem countP_column (m : TerraceMesh) (pixels : Array UInt8) (face : Option CubeFace)
    (cell : Nat × Nat) (layer : Nat) :
    (m.column pixels face cell).countP (·.layer = layer) =
      if layer < m.layersOf pixels cell.1 cell.2 then 1 else 0 := by
  have hcount := List.count_range (a := layer) (n := m.layersOf pixels cell.1 cell.2)
  rw [column, List.countP_map, ← hcount, List.count]
  congr 1

/-- A layer has a box on each side for each cell that is drawn with it. -/
theorem countP_enumeration (m : TerraceMesh) (pixels : Array UInt8) (layer : Nat) :
    (m.enumeration pixels).countP (·.layer = layer) =
      m.faces.faces.length * m.cellCount pixels layer := by
  have hside : ∀ face, ((cells m.config.resolution).flatMap (m.column pixels face)).countP
      (·.layer = layer) = m.cellCount pixels layer := by
    intro face
    refine countP_flatMap_of_forall fun cell _ => ?_
    simpa using m.countP_column pixels face cell layer
  simp only [enumeration, List.countP_flatMap, Function.comp_def, hside, List.map_const',
    List.sum_replicate_nat]

/-- A cell that is drawn with a layer is drawn with the lower ones. -/
theorem cellCount_anti (m : TerraceMesh) (pixels : Array UInt8) {layer upper : Nat}
    (h : layer ≤ upper) : m.cellCount pixels upper ≤ m.cellCount pixels layer := by
  refine List.countP_mono_left fun cell _ hupper => ?_
  have hlt := of_decide_eq_true hupper
  exact decide_eq_true (Nat.lt_of_le_of_lt h hlt)

/-- The boxes of one more layer. -/
theorem countP_lt_succ (layer : Nat) (bs : List TerraceBox) :
    bs.countP (·.layer < layer + 1) =
      bs.countP (·.layer < layer) + bs.countP (·.layer = layer) := by
  induction bs with
  | nil => rfl
  | cons b rest ih =>
    simp only [List.countP_cons, decide_eq_true_eq, ih]
    split <;> split <;> split <;> omega

/-- The counts of the first layers add up to the number of boxes in them. -/
theorem sum_countLayers (layers : Nat) (bs : List TerraceBox) :
    (countLayers layers bs).sum = bs.countP (·.layer < layers) := by
  induction layers with
  | zero => simp [countLayers]
  | succ layers ih =>
    have hlast : countLayers (layers + 1) bs =
        countLayers layers bs ++ [bs.countP (·.layer = layers)] := by
      rw [countLayers, List.range_succ, List.map_append]
      rfl
    rw [hlast, List.sum_append, ih, List.sum_singleton, countP_lt_succ]

/-- Counted layer by layer, no box of a heightmap is left out. -/
theorem sum_countLayers_enumeration (m : TerraceMesh) (pixels : Array UInt8) :
    (countLayers m.ramp.layerCount (m.enumeration pixels)).sum =
      (m.enumeration pixels).length := by
  rw [sum_countLayers, List.countP_eq_length]
  intro b hb
  obtain ⟨-, -, hlayer⟩ := mem_enumeration.mp hb
  exact decide_eq_true (Nat.lt_of_lt_of_le hlayer (ColorRamp.layersAt_le _ _))

/-! ## The places of the buffers -/

/-- The places that are read and written to draw a box are there. -/
structure InBounds (m : TerraceMesh) (pixels : Array UInt8) (b : TerraceBox) : Prop where
  texel : (b.j * m.config.resolution + b.i) * 4 < pixels.size
  stop : b.layer < m.ramp.stops.length
  entry : m.activeCount < m.buffer.size
  layerCount : b.layer < m.layerCounts.size

/-- Whatever part of a heightmap is drawn, the next box finds its places. -/
theorem Sized.inBounds (h : m.Sized) {pixels : Array UInt8}
    (hpixels : pixels.size = m.config.resolution * m.config.resolution * 4)
    {before after : List TerraceBox} {b : TerraceBox}
    (hboxes : m.enumeration pixels = before ++ b :: after) :
    (before.foldl draw m.clear).InBounds pixels b := by
  have hmem : b ∈ m.enumeration pixels := by simp [hboxes]
  obtain ⟨-, ⟨hj, hi⟩, hlayer⟩ := mem_enumeration.mp hmem
  have hstop : b.layer < m.ramp.layerCount :=
    Nat.lt_of_lt_of_le hlayer (ColorRamp.layersAt_le _ _)
  have hroom : before.length < m.buffer.size := by
    have hle := h.length_boxes_le pixels
    rw [boxes_eq, hboxes, List.length_append, List.length_cons] at hle
    omega
  have hfits : m.clear.activeCount + before.length ≤ m.clear.buffer.size := by
    simpa [clear] using Nat.le_of_lt hroom
  obtain ⟨buffer, hfold, hbuffer⟩ := foldl_draw hfits
  have hsize : buffer.size = m.buffer.size := by
    have hlen := congrArg List.length hbuffer
    simp [clear] at hlen
    omega
  rw [hfold]
  refine ⟨?_, hstop, ?_, ?_⟩
  · rw [hpixels]
    exact texel_lt hj hi
  · simpa [clear, hsize] using hroom
  · simpa [clear, size_foldl_count, h.layerCounts] using hstop

/-! ## Runs -/

/-- The mesh after one heightmap after the other; a heightmap of a wrong size changes nothing. -/
def run (m : TerraceMesh) (frames : List (Array UInt8)) : TerraceMesh :=
  frames.foldl (fun m pixels => (m.rebuild pixels).2) m

/-- The mesh shows a heightmap: its instances are those of the boxes that the red bytes ask for, in
turn, and its counts are those of the cells. -/
structure Shows (m : TerraceMesh) (pixels : Array UInt8) : Prop where
  /-- each cell has a red byte in the heightmap -/
  red : ∀ j < m.config.resolution, ∀ i < m.config.resolution,
    pixels[(j * m.config.resolution + i) * 4]? = some (redAt m.config.resolution pixels j i)
  instances : m.instances = (m.enumeration pixels).map (instanceOf m.config m.ramp)
  boxes : m.boxes pixels = m.enumeration pixels
  nodup : (m.enumeration pixels).Nodup
  mem_enumeration : ∀ b, b ∈ m.enumeration pixels ↔
    b.face ∈ m.faces.faces ∧ (b.j < m.config.resolution ∧ b.i < m.config.resolution) ∧
      b.layer < m.ramp.layersAt ((redAt m.config.resolution pixels b.j b.i).toFloat32 / 255)
  activeCount : m.activeCount = m.instances.length
  sum_layerCounts : m.activeCount = m.layerCounts.toList.sum
  le_capacity : m.activeCount ≤ m.capacity
  layerCounts : m.layerCounts.toList =
    (List.range m.ramp.layerCount).map fun layer =>
      m.faces.faces.length * m.cellCount pixels layer
  decreasing : m.layerCounts.toList.Pairwise (· ≥ ·)

/-- A mesh has the measures that another one has. -/
structure SameMeasures (m m' : TerraceMesh) : Prop where
  config : m'.config = m.config
  ramp : m'.ramp = m.ramp
  faces : m'.faces = m.faces
  capacity : m'.capacity = m.capacity

theorem SameMeasures.refl (m : TerraceMesh) : m.SameMeasures m := ⟨rfl, rfl, rfl, rfl⟩

theorem SameMeasures.trans {m m' m'' : TerraceMesh} (h : m.SameMeasures m')
    (h' : m'.SameMeasures m'') : m.SameMeasures m'' :=
  ⟨h'.config.trans h.config, h'.ramp.trans h.ramp, h'.faces.trans h.faces,
    h'.capacity.trans h.capacity⟩

/-- The boxes of a heightmap are a matter of the measures. -/
theorem SameMeasures.enumeration_eq {m' : TerraceMesh} (h : m.SameMeasures m')
    (pixels : Array UInt8) : m'.enumeration pixels = m.enumeration pixels := by
  simp only [← boxes_eq, boxes, h.config, h.ramp, h.faces]

/-- A heightmap of the right size is taken, and the mesh shows it. -/
theorem Sized.rebuild_shows (h : m.Sized) {pixels : Array UInt8}
    (hpixels : pixels.size = m.config.resolution * m.config.resolution * 4) :
    ∃ m', m.rebuild pixels = (.ok m'.activeCount, m') ∧ m'.Sized ∧ m.SameMeasures m' ∧
      m'.Shows pixels := by
  obtain ⟨m', hrebuild, hsized, ⟨hconfig, hramp, hfaces, hcapacity⟩,
    hactive, hinstances, hcounts⟩ := h.rebuild_eq_ok hpixels
  have hsame : m.SameMeasures m' := ⟨hconfig, hramp, hfaces, hcapacity⟩
  have hboxes : m.boxes pixels = m'.enumeration pixels := by
    rw [hsame.enumeration_eq, boxes_eq]
  rw [hboxes, ← hramp, ← hconfig] at hinstances
  rw [hboxes] at hactive
  rw [hboxes, ← hramp] at hcounts
  rw [← hconfig] at hpixels
  have hlayers : m'.layerCounts.toList = (List.range m'.ramp.layerCount).map fun layer =>
      m'.faces.faces.length * m'.cellCount pixels layer := by
    rw [hcounts, countLayers]
    simp only [countP_enumeration]
  refine ⟨m', hrebuild, hsized, hsame, ?_⟩
  refine ⟨fun j hj i hi => getElem?_eq_redAt hpixels hj hi, hinstances, m'.boxes_eq pixels,
    m'.nodup_enumeration pixels, fun b => TerraceMesh.mem_enumeration, ?_, ?_, ?_, hlayers, ?_⟩
  · rw [hinstances, List.length_map, hactive]
  · rw [hcounts, sum_countLayers_enumeration, hactive]
  · rw [hactive, ← boxes_eq]
    exact hsized.length_boxes_le pixels
  · rw [hlayers, List.pairwise_map]
    refine List.pairwise_lt_range.imp fun hlt => ?_
    exact Nat.mul_le_mul_left _ (m'.cellCount_anti pixels (Nat.le_of_lt hlt))

/-- One heightmap leaves a mesh of the same measures behind, be it taken or not. -/
theorem Sized.rebuild_snd (h : m.Sized) (pixels : Array UInt8) :
    (m.rebuild pixels).2.Sized ∧ m.SameMeasures (m.rebuild pixels).2 := by
  by_cases hpixels : pixels.size = m.config.resolution * m.config.resolution * 4
  · obtain ⟨m', hrebuild, hsized, hsame, -⟩ := h.rebuild_shows hpixels
    rw [hrebuild]
    exact ⟨hsized, hsame⟩
  · rw [h.rebuild_eq_error hpixels]
    exact ⟨h, .refl m⟩

theorem Sized.run (h : m.Sized) (frames : List (Array UInt8)) :
    (m.run frames).Sized ∧ m.SameMeasures (m.run frames) := by
  induction frames generalizing m with
  | nil => exact ⟨h, .refl m⟩
  | cons pixels rest ih =>
    obtain ⟨hsized, hsame⟩ := h.rebuild_snd pixels
    obtain ⟨hsized', hsame'⟩ := ih hsized
    exact ⟨hsized', hsame.trans hsame'⟩

/-- A mesh is made if and only if its measures are valid and the boxes are within the limit. -/
theorem exists_create_iff (c : TerraceConfig) (ramp : ColorRamp) (faces : FaceMode) :
    (∃ m, create c ramp faces = .ok m) ↔
      c.validate = .ok () ∧
        c.resolution * c.resolution * ramp.layerCount * faces.faces.length ≤ maxInstances := by
  constructor
  · rintro ⟨m, hm⟩
    obtain ⟨hsized, rfl, rfl, rfl⟩ := Sized.of_create hm
    obtain ⟨hvalid, hsize, hle⟩ := TerraceConfig.capacity_eq_ok_iff.mp hsized.buffer
    exact ⟨hvalid, hsize ▸ hle⟩
  · rintro ⟨hvalid, hle⟩
    exact ⟨_, create_eq (TerraceConfig.capacity_eq_ok_iff.mpr ⟨hvalid, rfl, hle⟩)⟩

/-- **Rebuilding is exact.** A mesh is made for every valid terrace within the limit. After any
heightmaps, of right and of wrong sizes, one of a wrong size is refused and leaves the mesh as it
is. One of the right size is drawn box by box within the bounds of all buffers, and the mesh then
shows the layers that its red bytes ask for and nothing else. -/
theorem run_shows (c : TerraceConfig) (ramp : ColorRamp) (faces : FaceMode) :
    ((∃ m, create c ramp faces = .ok m) ↔
      c.validate = .ok () ∧
        c.resolution * c.resolution * ramp.layerCount * faces.faces.length ≤ maxInstances) ∧
    ∀ m, create c ramp faces = .ok m → ∀ (frames : List (Array UInt8)) (pixels : Array UInt8),
      (m.config = c ∧ m.ramp = ramp ∧ m.faces = faces ∧
        m.capacity = c.resolution * c.resolution * ramp.layerCount * faces.faces.length) ∧
      m.SameMeasures (m.run frames) ∧
      byteCount c.resolution = c.resolution * c.resolution * 4 ∧
      (pixels.size ≠ c.resolution * c.resolution * 4 →
        (m.run frames).rebuild pixels = (.error (.byteCount pixels.size c.resolution),
          m.run frames)) ∧
      (pixels.size = c.resolution * c.resolution * 4 →
        ∃ m', (m.run frames).rebuild pixels = (.ok m'.activeCount, m') ∧ m.SameMeasures m' ∧
          m'.Shows pixels ∧
          m' = (m.enumeration pixels).foldl draw (m.run frames).clear ∧
          ∀ before b after, m.enumeration pixels = before ++ b :: after →
            (before.foldl draw (m.run frames).clear).InBounds pixels b) := by
  refine ⟨exists_create_iff c ramp faces, fun m hm frames pixels => ?_⟩
  obtain ⟨hcreated, rfl, rfl, rfl⟩ := Sized.of_create hm
  obtain ⟨-, hcapacity, -⟩ := TerraceConfig.capacity_eq_ok_iff.mp hcreated.buffer
  obtain ⟨hsized, hsame⟩ := hcreated.run frames
  refine ⟨⟨rfl, rfl, rfl, hcapacity⟩, hsame, hcreated.byteCount_eq, ?_, ?_⟩
  · intro hpixels
    rw [← hsame.config] at hpixels ⊢
    exact hsized.rebuild_eq_error hpixels
  · intro hpixels
    rw [← hsame.config] at hpixels
    obtain ⟨m', hrebuild, -, hsame', hshows⟩ := hsized.rebuild_shows hpixels
    refine ⟨m', hrebuild, hsame.trans hsame', hshows, ?_, ?_⟩
    · have hdrawn := rebuild_eq (m.run frames) pixels
      rw [if_pos (hpixels.trans hsized.byteCount_eq.symm), hrebuild] at hdrawn
      rw [← hsame.enumeration_eq pixels, ← boxes_eq]
      exact congrArg Prod.snd hdrawn
    · intro before b after hboxes
      rw [← hsame.enumeration_eq pixels] at hboxes
      exact hsized.inBounds hpixels hboxes

/-- Four cells, with one to four layers. -/
def slopePixels : Array UInt8 := #[0, 9, 9, 9, 64, 9, 9, 9, 140, 9, 9, 9, 255, 9, 9, 9]

/-- The boxes of the four cells on one side, by row, column and layer. -/
def slopeBoxes (face : CubeFace) : List TerraceBox :=
  [(0, 0, 0), (0, 1, 0), (0, 1, 1), (1, 0, 0), (1, 0, 1), (1, 0, 2), (1, 1, 0), (1, 1, 1),
    (1, 1, 2), (1, 1, 3)].map fun (j, i, layer) => ⟨some face, j, i, layer⟩

/-- A cube of four cells shows its ten boxes on each side, after a higher heightmap and one of a
wrong size. -/
theorem run_shows_slope :
    let c : TerraceConfig := { resolution := 2, cellSize := 1, layerHeight := 0.5 }
    ∃ m, create c .standard .cube = .ok m ∧
      (m.run [.replicate 16 255, #[7]]).rebuild #[7, 7] =
        (.error (.byteCount 2 2), m.run [.replicate 16 255, #[7]]) ∧
      ∃ m', (m.run [.replicate 16 255, #[7]]).rebuild slopePixels = (.ok 60, m') ∧
        m'.Shows slopePixels ∧ m'.layerCounts.toList = [24, 18, 12, 6] ∧
        m'.instances = (CubeFace.all.flatMap slopeBoxes).map (instanceOf c .standard) ∧
        m'.instances[55]? = some
          ⟨⟨1, 0, 0⟩, ⟨0, 0, -0.5⟩, ⟨0, 1, 0⟩, ⟨-0.5, 0.5, -2.25⟩, ⟨0.471, 0.667, 0.510⟩⟩ := by
  intro c
  obtain ⟨hcreate, hrun⟩ := run_shows c .standard .cube
  obtain ⟨m, hm⟩ := hcreate.mpr ⟨by decide, by decide⟩
  obtain ⟨-, -, -, hrefused, -⟩ := hrun m hm [.replicate 16 255, #[7]] #[7, 7]
  obtain ⟨⟨hconfig, hramp, hfaces, -⟩, -, -, -, htaken⟩ :=
    hrun m hm [.replicate 16 255, #[7]] slopePixels
  obtain ⟨m', hrebuild, hsame, hshows, -⟩ := htaken rfl
  have hconfig' : m'.config = c := hsame.config.trans hconfig
  have hramp' : m'.ramp = .standard := hsame.ramp.trans hramp
  have hfaces' : m'.faces = .cube := hsame.faces.trans hfaces
  have hboxes : m'.enumeration slopePixels = CubeFace.all.flatMap slopeBoxes := by
    unfold enumeration column layersOf
    rw [hconfig', hramp', hfaces']
    decide +kernel
  have hinstances : m'.instances =
      (CubeFace.all.flatMap slopeBoxes).map (instanceOf c .standard) := by
    rw [hshows.instances, hboxes, hconfig', hramp']
  have hcounts := hshows.layerCounts
  simp only [cellCount, layersOf, hconfig', hramp', hfaces'] at hcounts
  have hactive : m'.activeCount = 60 := by
    rw [hshows.activeCount, hinstances]
    rfl
  rw [hactive] at hrebuild
  refine ⟨m, hm, hrefused (by decide), m', hrebuild, hshows, ?_, hinstances, ?_⟩
  · rw [hcounts]
    decide +kernel
  · rw [hinstances]
    decide +kernel

end TerraceMesh
end Heightfield
