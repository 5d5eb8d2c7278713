import Heightfield.Terrace.Mesh

/-!
# Rebuilding a terrace

A mesh writes the instances of an update over those of the last one. What it shows afterwards
depends on its measures and on the heightmap only.

* `TerraceMesh.length_boxes_le` says that the boxes of a heightmap fit the buffer, and
  `TerraceMesh.le_length_boxes` that there is one for each texel and side at least.
* `TerraceMesh.Sized` says that the buffer has the size that the measures ask for.
* `TerraceMesh.rebuild_eq` takes the loops of a rebuild together, and
  `TerraceMesh.Sized.rebuild_eq_ok` describes what they leave behind by the boxes of the heightmap.
-/

namespace Heightfield

namespace TerraceMesh

/-! ## Counting boxes -/

theorem length_flatMap_le {α β : Type} {l : List α} {f : α → List β} {bound : Nat}
    (h : ∀ a ∈ l, (f a).length ≤ bound) : (l.flatMap f).length ≤ l.length * bound := by
  induction l with
  | nil => simp
  | cons a rest ih =>
    have ha := h a List.mem_cons_self
    have hrest := ih fun b hb => h b (List.mem_cons_of_mem _ hb)
    rw [List.flatMap_cons, List.length_append, List.length_cons, Nat.succ_mul]
    omega

theorem le_length_flatMap {α β : Type} {l : List α} {f : α → List β} {bound : Nat}
    (h : ∀ a ∈ l, bound ≤ (f a).length) : l.length * bound ≤ (l.flatMap f).length := by
  induction l with
  | nil => simp
  | cons a rest ih =>
    have ha := h a List.mem_cons_self
    have hrest := ih fun b hb => h b (List.mem_cons_of_mem _ hb)
    rw [List.flatMap_cons, List.length_append, List.length_cons, Nat.succ_mul]
    omega

variable {m : TerraceMesh}

/-- No cell has more boxes than there are layers. -/
theorem length_boxes_le (m : TerraceMesh) (pixels : Array UInt8) :
    (m.boxes pixels).length ≤
      m.faces.faces.length * (m.config.resolution * (m.config.resolution * m.ramp.layerCount)) := by
  refine length_flatMap_le fun face _ => ?_
  refine Nat.le_trans (length_flatMap_le fun j _ => ?_)
    (Nat.le_of_eq (congrArg (· * _) List.length_range))
  refine Nat.le_trans (length_flatMap_le fun i _ => ?_)
    (Nat.le_of_eq (congrArg (· * _) List.length_range))
  rw [List.length_map, List.length_range]
  exact ColorRamp.layersAt_le _ _

/-- Every cell has a box. -/
theorem le_length_boxes (m : TerraceMesh) (pixels : Array UInt8) :
    m.faces.faces.length * (m.config.resolution * (m.config.resolution * 1)) ≤
      (m.boxes pixels).length := by
  refine le_length_flatMap fun face _ => ?_
  refine Nat.le_trans (Nat.le_of_eq (congrArg (· * _) List.length_range.symm))
    (le_length_flatMap fun j _ => ?_)
  refine Nat.le_trans (Nat.le_of_eq (congrArg (· * _) List.length_range.symm))
    (le_length_flatMap fun i _ => ?_)
  rw [List.length_map, List.length_range, ColorRamp.layersAt]
  exact Nat.le_add_right _ _

/-! ## The size of the buffer -/

/-- The buffer and the counts have the sizes that the measures of the terrace ask for. -/
structure Sized (m : TerraceMesh) : Prop where
  buffer : m.config.capacity m.ramp m.faces = .ok m.buffer.size
  layerCounts : m.layerCounts.size = m.ramp.layerCount

theorem create_eq {c : TerraceConfig} {ramp : ColorRamp} {faces : FaceMode} {n : Nat}
    (h : c.capacity ramp faces = .ok n) :
    create c ramp faces =
      .ok ⟨c, ramp, faces, Array.replicate n default, 0, Array.replicate ramp.layerCount 0⟩ := by
  rw [create, h]
  rfl

theorem Sized.of_create {c : TerraceConfig} {ramp : ColorRamp} {faces : FaceMode}
    (h : create c ramp faces = .ok m) :
    m.Sized ∧ m.config = c ∧ m.ramp = ramp ∧ m.faces = faces := by
  cases hn : c.capacity ramp faces with
  | error e => simp [create, hn, bind, Except.bind] at h
  | ok n =>
    rw [create_eq hn] at h
    obtain rfl := Except.ok.inj h
    exact ⟨⟨by simpa using hn, Array.size_replicate⟩, rfl, rfl, rfl⟩

end TerraceMesh

namespace TerraceConfig

/-- No product of the count overflows unless the count is beyond the limit. -/
theorem boxCount?_eq (n : Nat) {layers faces : Nat} (hlayers : 0 < layers) (hfaces : 0 < faces) :
    boxCount? n layers faces =
      if n * n * layers * faces ≤ maxInstances then some (n * n * layers * faces) else none := by
  have hlimit : maxInstances < UInt64.size := by decide
  -- every further factor is positive, so an earlier product is no larger than the count
  have hcells : n * n ≤ n * n * layers := Nat.le_mul_of_pos_right _ hlayers
  have hboxes : n * n * layers ≤ n * n * layers * faces := Nat.le_mul_of_pos_right _ hfaces
  by_cases hle : n * n * layers * faces ≤ maxInstances
  · rw [if_pos hle, boxCount?, product?, if_pos (by omega), Option.bind_some, product?,
      if_pos (by omega), Option.bind_some, product?, if_pos (by omega), Option.filter_some,
      if_pos (decide_eq_true hle)]
  · rw [if_neg hle, boxCount?, Option.filter_eq_none_iff]
    intro count hcount
    -- what comes of the products is the count
    have heq : count = n * n * layers * faces := by
      obtain ⟨boxes, hboxes, hcount⟩ := Option.bind_eq_some_iff.mp hcount
      obtain ⟨cells, hcells, hboxes⟩ := Option.bind_eq_some_iff.mp hboxes
      simp only [product?, Option.ite_none_right_eq_some, Option.some.injEq] at hcells hboxes hcount
      rw [← hcount.2, ← hboxes.2, ← hcells.2]
    rw [heq, decide_eq_true_eq]
    exact hle

/-- The capacity of a valid terrace is the number of its cells, on all sides and in all layers. -/
theorem capacity_of_validate {c : TerraceConfig} (h : c.validate = .ok ()) (ramp : ColorRamp)
    (faces : FaceMode) :
    c.capacity ramp faces =
      if c.resolution * c.resolution * ramp.layerCount * faces.faces.length ≤ maxInstances then
        .ok (c.resolution * c.resolution * ramp.layerCount * faces.faces.length)
      else .error (.tooLarge c.resolution ramp.layerCount faces.faces.length) := by
  have hlayers : 0 < ramp.layerCount := Nat.succ_pos _
  have hfaces : 0 < faces.faces.length := by cases faces <;> decide
  simp only [capacity, h, bind, Except.bind, pure, Except.pure, throw, throwThe,
    MonadExceptOf.throw, boxCount?_eq _ hlayers hfaces]
  by_cases hle : c.resolution * c.resolution * ramp.layerCount * faces.faces.length ≤ maxInstances
  · rw [if_pos hle, if_pos hle]
  · rw [if_neg hle, if_neg hle]

theorem capacity_eq_ok_iff {c : TerraceConfig} {ramp : ColorRamp} {faces : FaceMode} {n : Nat} :
    c.capacity ramp faces = .ok n ↔
      c.validate = .ok () ∧
        n = c.resolution * c.resolution * ramp.layerCount * faces.faces.length ∧
        n ≤ maxInstances := by
  cases hvalid : c.validate with
  | error e => simp [capacity, hvalid, bind, Except.bind]
  | ok _ =>
    rw [capacity_of_validate hvalid]
    split
    next hle =>
      rw [Except.ok.injEq]
      constructor
      · rintro rfl
        exact ⟨rfl, rfl, hle⟩
      · rintro ⟨-, rfl, -⟩
        rfl
    next hle =>
      constructor
      · intro h
        cases h
      · rintro ⟨-, rfl, h⟩
        exact absurd h hle

end TerraceConfig

namespace TerraceMesh

variable {m : TerraceMesh}

/-- The boxes of a heightmap fit the buffer. -/
theorem Sized.length_boxes_le (h : m.Sized) (pixels : Array UInt8) :
    (m.boxes pixels).length ≤ m.buffer.size := by
  obtain ⟨-, hsize, -⟩ := TerraceConfig.capacity_eq_ok_iff.mp h.buffer
  have hle := m.length_boxes_le pixels
  rw [hsize, Nat.mul_comm _ m.faces.faces.length, Nat.mul_assoc m.config.resolution]
  exact hle

/-! ## Drawing boxes -/

/-- One more instance of a layer. -/
def count (counts : Array Nat) (b : TerraceBox) : Array Nat :=
  counts.modify b.layer (· + 1)

/-- How many of the boxes belong to each layer. -/
def countLayers (layers : Nat) (bs : List TerraceBox) : List Nat :=
  (List.range layers).map fun layer => bs.countP (·.layer = layer)

theorem size_foldl_count (bs : List TerraceBox) (counts : Array Nat) :
    (bs.foldl count counts).size = counts.size := by
  induction bs generalizing counts with
  | nil => rfl
  | cons b rest ih => rw [List.foldl_cons, ih, count, Array.size_modify]

theorem getElem?_foldl_count (bs : List TerraceBox) (counts : Array Nat) (layer : Nat) :
    (bs.foldl count counts)[layer]? =
      counts[layer]?.map (· + bs.countP (·.layer = layer)) := by
  induction bs generalizing counts with
  | nil => simp
  | cons b rest ih =>
    rw [List.foldl_cons, ih, count, Array.getElem?_modify, List.countP_cons]
    by_cases hb : b.layer = layer
    · simp only [hb, if_true, Option.map_map, decide_true]
      congr 1
      funext n
      simp only [Function.comp_apply]
      omega
    · simp [hb]

/-- Counts that start at 0 end up as the numbers of boxes. -/
theorem toList_foldl_count (bs : List TerraceBox) (layers : Nat) :
    (bs.foldl count (Array.replicate layers 0)).toList = countLayers layers bs := by
  refine List.ext_getElem? fun layer => ?_
  rw [Array.getElem?_toList, getElem?_foldl_count, Array.getElem?_replicate, countLayers,
    List.getElem?_map]
  by_cases hlayer : layer < layers
  · rw [if_pos hlayer, List.getElem?_range hlayer, Option.map_some, Option.map_some, Nat.zero_add]
  · rw [if_neg hlayer, List.getElem?_eq_none (by simpa using hlayer)]
    rfl

/-- Drawing boxes that fit writes their instances in turn. -/
theorem foldl_draw {bs : List TerraceBox} (h : m.activeCount + bs.length ≤ m.buffer.size) :
    ∃ buffer,
      bs.foldl draw m =
        { m with
          buffer
          activeCount := m.activeCount + bs.length
          layerCounts := bs.foldl count m.layerCounts } ∧
        buffer.toList = m.buffer.toList.take m.activeCount ++
          bs.map (instanceOf m.config m.ramp) ++
          m.buffer.toList.drop (m.activeCount + bs.length) := by
  induction bs generalizing m with
  | nil => exact ⟨m.buffer, rfl, by simp⟩
  | cons b rest ih =>
    rw [List.length_cons] at h
    have hfits : (m.draw b).activeCount + rest.length ≤ (m.draw b).buffer.size := by
      simp only [draw, Array.size_setIfInBounds]
      omega
    obtain ⟨buffer, hfold, hbuffer⟩ := ih hfits
    refine ⟨buffer, ?_, ?_⟩
    · rw [List.foldl_cons, hfold]
      simp only [draw, count, List.length_cons, List.foldl_cons, TerraceMesh.mk.injEq, true_and,
        and_true]
      omega
    · -- the instance goes where the count points, and the others go behind it
      rw [hbuffer]
      have hlt : m.activeCount < m.buffer.toList.length := by
        rw [Array.length_toList]
        omega
      simp only [draw, Array.toList_setIfInBounds, List.map_cons, List.length_cons]
      rw [List.take_succ_eq_append_getElem (by simpa using hlt),
        List.take_set_of_le (Nat.le_refl _),
        List.getElem_set_self, List.drop_set_of_lt (by omega)]
      simp only [List.append_assoc, List.singleton_append, Nat.add_assoc, Nat.add_comm 1]

/-- The loops over sides, rows, cells and layers draw the boxes of the heightmap in turn. -/
theorem rebuild_eq (m : TerraceMesh) (pixels : Array UInt8) :
    m.rebuild pixels =
      if pixels.size = byteCount m.config.resolution then
        (.ok ((m.boxes pixels).foldl draw m.clear).activeCount, (m.boxes pixels).foldl draw m.clear)
      else (.error (.byteCount pixels.size m.config.resolution), m) := by
  simp only [rebuild, boxes, drawCell, List.foldl_flatMap, List.foldl_map]

/-- The bytes of a heightmap are counted without overflow. -/
theorem Sized.byteCount_eq (h : m.Sized) :
    byteCount m.config.resolution = m.config.resolution * m.config.resolution * 4 := by
  obtain ⟨-, hsize, hle⟩ := TerraceConfig.capacity_eq_ok_iff.mp h.buffer
  have hlayers : 0 < m.ramp.layerCount := Nat.succ_pos _
  have hfaces : 0 < m.faces.faces.length := by cases m.faces <;> decide
  have hcells : m.config.resolution * m.config.resolution ≤ m.buffer.size := by
    rw [hsize]
    exact Nat.le_trans (Nat.le_mul_of_pos_right _ hlayers) (Nat.le_mul_of_pos_right _ hfaces)
  have hlimit : maxInstances * 4 < UInt64.size := by decide
  exact Nat.mod_eq_of_lt (by omega)

/-- What a heightmap leaves behind is settled by the measures of the mesh and by the heightmap. -/
theorem Sized.rebuild_eq_ok (h : m.Sized) {pixels : Array UInt8}
    (hpixels : pixels.size = m.config.resolution * m.config.resolution * 4) :
    ∃ m', m.rebuild pixels = (.ok m'.activeCount, m') ∧ m'.Sized ∧
      (m'.config = m.config ∧ m'.ramp = m.ramp ∧ m'.faces = m.faces ∧
        m'.capacity = m.capacity) ∧
      m'.activeCount = (m.boxes pixels).length ∧
      m'.instances = (m.boxes pixels).map (instanceOf m.config m.ramp) ∧
      m'.layerCounts.toList = countLayers m.ramp.layerCount (m.boxes pixels) := by
  have hfits : m.clear.activeCount + (m.boxes pixels).length ≤ m.clear.buffer.size := by
    simpa [clear] using h.length_boxes_le pixels
  obtain ⟨buffer, hfold, hbuffer⟩ := foldl_draw hfits
  -- what the buffer held before stays behind the instances, out of sight
  have hcleared : m.clear.layerCounts = Array.replicate m.ramp.layerCount 0 := by
    rw [clear, ← h.layerCounts]
    exact Array.map_const'
  have hbytes : buffer.toList = (m.boxes pixels).map (instanceOf m.config m.ramp) ++
      m.buffer.toList.drop (m.boxes pixels).length := by
    simpa [clear] using hbuffer
  have hsize : buffer.size = m.buffer.size := by
    have hlen := congrArg List.length hbytes
    have hle := h.length_boxes_le pixels
    simp only [Array.length_toList, List.length_append, List.length_map, List.length_drop] at hlen
    omega
  have hactive : m.clear.activeCount + (m.boxes pixels).length = (m.boxes pixels).length :=
    Nat.zero_add _
  have hrebuild : m.rebuild pixels = (.ok ((m.boxes pixels).foldl draw m.clear).activeCount,
      (m.boxes pixels).foldl draw m.clear) := by
    rw [rebuild_eq, if_pos (hpixels.trans h.byteCount_eq.symm)]
  refine ⟨_, hrebuild, ?_, ?_, ?_, ?_, ?_⟩ <;> rw [hfold, hactive, hcleared]
  · refine ⟨?_, ?_⟩
    · rw [hsize]
      exact h.buffer
    · rw [size_foldl_count, Array.size_replicate]
      rfl
  · exact ⟨rfl, rfl, rfl, hsize⟩
  · rw [instances, Array.toList_extract, hbytes]
    simp
  · exact toList_foldl_count _ _

/-- A heightmap of another size is refused. -/
theorem Sized.rebuild_eq_error (h : m.Sized) {pixels : Array UInt8}
    (hpixels : pixels.size ≠ m.config.resolution * m.config.resolution * 4) :
    m.rebuild pixels = (.error (.byteCount pixels.size m.config.resolution), m) := by
  rw [rebuild_eq, if_neg (by rwa [h.byteCount_eq])]

/-- An update gives the mesh that is left behind. -/
theorem Sized.update_eq (h : m.Sized) {pixels : Array UInt8}
    (hpixels : pixels.size = m.config.resolution * m.config.resolution * 4) :
    ∃ m', m.update pixels = .ok m' ∧ m'.Sized ∧
      (m'.config = m.config ∧ m'.ramp = m.ramp ∧ m'.faces = m.faces ∧
        m'.capacity = m.capacity) ∧
      m'.activeCount = (m.boxes pixels).length ∧
      m'.instances = (m.boxes pixels).map (instanceOf m.config m.ramp) ∧
      m'.layerCounts.toList = countLayers m.ramp.layerCount (m.boxes pixels) := by
  obtain ⟨m', hrebuild, hrest⟩ := h.rebuild_eq_ok hpixels
  exact ⟨m', by rw [update, hrebuild]; rfl, hrest⟩

end TerraceMesh
end Heightfield
