import Heightfield.Proofs.Number.Order
import Heightfield.Proofs.Terrace.Run

/-!
# Higher terrain has more layers

The stops of a ramp are sorted when it is made, so that the stops a height reaches are the first
ones. One function asks whether a single stop is reached, another one counts the stops from the
lowest up to the first that is not: they agree because of the order, for every height that there is.

* `ColorRamp.ofStops_eq_ok_iff` says which stops make a ramp, and which ramp.
* `ColorRamp.Terraced` collects what the order of the stops is good for.
* `TerraceMesh.Below` relates the meshes of two heightmaps when one is nowhere above the other.
* `ColorRamp.ofStops_monotone` is the main result.
-/

namespace Heightfield

namespace ColorRamp

variable {r : ColorRamp} {stops : List ColorStop}

/-! ## Stops that make a ramp -/

/-- Being in the unit range is enough: nothing in there is infinite. -/
theorem isInside_iff {s : ColorStop} :
    isInside s = true ↔ 0 ≤ s.position ∧ s.position ≤ 1 := by
  have hzero : Number.rank 0 = 0 := by decide
  have hone : Number.rank 1 = 0x3f800000 := by decide
  simp only [isInside, Bool.and_eq_true, decide_eq_true_eq, and_assoc]
  refine ⟨And.right, fun h => ⟨?_, h⟩⟩
  have hlow := (Number.le_iff.mp h.1).2.2
  have hhigh := (Number.le_iff.mp h.2).2.2
  rw [Number.isFinite_iff, Number.infinite]
  omega

theorem isNaN_of_isInside {s : ColorStop} (h : isInside s = true) : s.position.isNaN = false :=
  (Number.le_iff.mp (isInside_iff.mp h).1).2.1

/-- Sorting only changes the order. -/
theorem sorted_perm (stops : List ColorStop) : (sorted stops).Perm stops :=
  List.mergeSort_perm _ _

/-- The keys of sorted stops are sorted. -/
theorem pairwise_sorted (stops : List ColorStop) :
    (sorted stops).Pairwise fun s t =>
      Number.orderKey s.position ≤ Number.orderKey t.position := by
  refine (List.pairwise_mergeSort (fun s t u hst htu => ?_) (fun s t => ?_) stops).imp
    of_decide_eq_true
  · exact decide_eq_true (le_trans (of_decide_eq_true hst) (of_decide_eq_true htu))
  · simpa using le_total (Number.orderKey s.position) (Number.orderKey t.position)

/-- From one to `maxLayers` stops in the unit range make a ramp: that of the sorted stops. -/
theorem ofStops_eq_ok_iff :
    ofStops stops = .ok r ↔
      ((1 ≤ stops.length ∧ stops.length ≤ maxLayers) ∧ ∀ s ∈ stops, isInside s = true) ∧
        r.stops = sorted stops := by
  have hlength := (sorted_perm stops).length_eq
  unfold ofStops
  split
  next hmany =>
    simp only [reduceCtorEq, false_iff]
    rintro ⟨⟨⟨-, hle⟩, -⟩, -⟩
    omega
  next hmany =>
    split
    next s hs =>
      simp only [reduceCtorEq, false_iff]
      rintro ⟨⟨-, hinside⟩, -⟩
      have hout := List.find?_some hs
      rw [hinside s (List.mem_of_find?_eq_some hs)] at hout
      cases hout
    next hnone =>
      have hinside : ∀ s ∈ stops, isInside s = true := by
        simpa using List.find?_eq_none.mp hnone
      split
      next hempty =>
        simp only [reduceCtorEq, false_iff]
        rintro ⟨⟨⟨hpos, -⟩, -⟩, -⟩
        rw [hempty, List.length_nil] at hlength
        omega
      next base upper hsorted =>
        rw [hsorted, List.length_cons] at hlength
        obtain ⟨base', upper'⟩ := r
        simp only [Except.ok.injEq, ColorRamp.mk.injEq, ColorRamp.stops, hsorted, List.cons.injEq]
        constructor
        · rintro ⟨rfl, rfl⟩
          exact ⟨⟨⟨by omega, by omega⟩, hinside⟩, rfl, rfl⟩
        · rintro ⟨-, rfl, rfl⟩
          exact ⟨rfl, rfl⟩

/-! ## The layers of a height -/

/-- Of a list in which a property passes to earlier elements, the elements that have it are those
that are taken from the front. -/
theorem lt_length_takeWhile_iff {α : Type} {p : α → Bool} {l : List α} {i : Nat}
    (h : l.Pairwise fun a b => p b = true → p a = true) :
    i < (l.takeWhile p).length ↔ (l[i]?).any p = true := by
  induction l generalizing i with
  | nil => simp
  | cons a rest ih =>
    obtain ⟨hhead, hrest⟩ := List.pairwise_cons.mp h
    cases hp : p a with
    | false =>
      rw [List.takeWhile_cons_of_neg (by simp [hp])]
      simp only [List.length_nil, Nat.not_lt_zero, Option.any_eq_true, false_iff, not_exists,
        not_and]
      intro b hb hpb
      rcases List.mem_cons.mp (List.mem_of_getElem? hb) with rfl | hmem
      · simp [hp] at hpb
      · simp [hp] at hhead
        exact absurd hpb (by simpa using hhead b hmem)
    | true =>
      rw [List.takeWhile_cons_of_pos hp, List.length_cons]
      cases i with
      | zero => simp [hp]
      | succ i => simpa using ih hrest

/-- If a weaker property is asked for, no fewer elements are taken from the front. -/
theorem length_takeWhile_le {α : Type} {p q : α → Bool} (l : List α)
    (h : ∀ a ∈ l, p a = true → q a = true) :
    (l.takeWhile p).length ≤ (l.takeWhile q).length := by
  induction l with
  | nil => simp
  | cons a rest ih =>
    have hrest := ih fun b hb => h b (List.mem_cons_of_mem _ hb)
    cases hp : p a with
    | false => simp [List.takeWhile_cons_of_neg, hp]
    | true =>
      rw [List.takeWhile_cons_of_pos hp, List.takeWhile_cons_of_pos (h a List.mem_cons_self hp)]
      exact Nat.succ_le_succ hrest

/-- Higher terrain has no fewer layers. -/
theorem layersAt_le_of_le (r : ColorRamp) {low high : Float32} (h : low ≤ high) :
    r.layersAt low ≤ r.layersAt high := by
  refine Nat.add_le_add_left (length_takeWhile_le r.upper fun s _ hs => ?_) 1
  exact decide_eq_true (Number.le_trans (of_decide_eq_true hs) h)

/-- A layer is drawn if it is the base or if its stop is reached. -/
theorem isDrawn_iff {layer : Nat} {height : Float32} :
    r.isDrawn layer height = true ↔
      layer = 0 ∨ 1 ≤ layer ∧ ∃ s, r.stops[layer]? = some s ∧ s.position ≤ height := by
  rcases Nat.eq_zero_or_pos layer with rfl | hpos
  · simp [isDrawn]
  · simp [isDrawn, Option.any_eq_true, hpos.ne', Nat.succ_le_of_lt hpos]

/-- The layers that are drawn on sorted stops are the first ones. -/
theorem isDrawn_iff_lt (h : r.stops.Pairwise fun s t => s.position ≤ t.position) {layer : Nat}
    {height : Float32} : r.isDrawn layer height = true ↔ layer < r.layersAt height := by
  cases layer with
  | zero => simp [isDrawn, layersAt]
  | succ layer =>
    have hupper : r.upper.Pairwise fun s t =>
        decide (t.position ≤ height) = true → decide (s.position ≤ height) = true :=
      (List.pairwise_cons.mp h).2.imp fun hle ht =>
        decide_eq_true (Number.le_trans hle (of_decide_eq_true ht))
    have hreached : r.isDrawn (layer + 1) height =
        (r.upper[layer]?).any fun s => s.position ≤ height := by
      simp [isDrawn, ColorRamp.stops]
    rw [hreached, ← lt_length_takeWhile_iff hupper, layersAt]
    omega

/-- A ramp of the given stops: in order, and with one layer for each. The layers that are drawn are
the first ones, the base and those whose stops are reached, and higher terrain keeps them. -/
structure Terraced (r : ColorRamp) (stops : List ColorStop) : Prop where
  perm : r.stops.Perm stops
  sorted : r.stops.Pairwise fun s t => s.position ≤ t.position
  isDrawn_iff_lt : ∀ layer height, r.isDrawn layer height = true ↔ layer < r.layersAt height
  isDrawn_iff : ∀ layer height, r.isDrawn layer height = true ↔
    layer = 0 ∨ 1 ≤ layer ∧ ∃ s, r.stops[layer]? = some s ∧ s.position ≤ height
  isDrawn_mono : ∀ low high, low ≤ high → ∀ layer,
    r.isDrawn layer low = true → r.isDrawn layer high = true

theorem terraced_of_ofStops (h : ofStops stops = .ok r) : r.Terraced stops := by
  obtain ⟨⟨-, hinside⟩, hstops⟩ := ofStops_eq_ok_iff.mp h
  have hperm : r.stops.Perm stops := hstops ▸ sorted_perm stops
  have hsorted : r.stops.Pairwise fun s t => s.position ≤ t.position := by
    refine (hstops ▸ pairwise_sorted stops).imp_of_mem fun hs ht hle => ?_
    exact Number.le_of_orderKey_le (isNaN_of_isInside (hinside _ (hperm.mem_iff.mp hs)))
      (isNaN_of_isInside (hinside _ (hperm.mem_iff.mp ht))) hle
  refine ⟨hperm, hsorted, fun _ _ => ColorRamp.isDrawn_iff_lt hsorted,
    fun _ _ => ColorRamp.isDrawn_iff, fun low high hle layer hdrawn => ?_⟩
  rw [ColorRamp.isDrawn_iff_lt hsorted] at hdrawn ⊢
  exact Nat.lt_of_lt_of_le hdrawn (r.layersAt_le_of_le hle)

end ColorRamp

namespace TerraceMesh

variable {m low high : TerraceMesh} {pixels pixels' : Array UInt8}

/-! ## The layers of a heightmap -/

/-- No texel of the first heightmap has a higher red channel than that of the second one. -/
def RedLE (resolution : Nat) (pixels pixels' : Array UInt8) : Prop :=
  ∀ texel < resolution * resolution,
    pixels[texel * 4]?.getD 0 ≤ pixels'[texel * 4]?.getD 0

instance (resolution : Nat) : Decidable (RedLE resolution pixels pixels') :=
  inferInstanceAs (Decidable (∀ texel < _, _))

theorem cellHeight_le {n j i : Nat} (h : RedLE n pixels pixels') (hj : j < n) (hi : i < n) :
    cellHeight n pixels j i ≤ cellHeight n pixels' j i := by
  have htexel := texel_lt hj hi
  exact Number.ofByte_le (h (j * n + i) (by omega))

theorem layersOf_le (h : RedLE m.config.resolution pixels pixels') {j i : Nat}
    (hj : j < m.config.resolution) (hi : i < m.config.resolution) :
    m.layersOf pixels j i ≤ m.layersOf pixels' j i :=
  m.ramp.layersAt_le_of_le (cellHeight_le h hj hi)

/-- No cell loses a layer. -/
theorem cellCount_le (h : RedLE m.config.resolution pixels pixels') (layer : Nat) :
    m.cellCount pixels layer ≤ m.cellCount pixels' layer := by
  refine List.countP_mono_left fun cell hcell hlayer => ?_
  obtain ⟨hj, hi⟩ := mem_cells.mp hcell
  exact decide_eq_true (Nat.lt_of_lt_of_le (of_decide_eq_true hlayer) (layersOf_le h hj hi))

theorem SameMeasures.symm (h : low.SameMeasures high) : high.SameMeasures low :=
  ⟨h.config.symm, h.ramp.symm, h.faces.symm, h.capacity.symm⟩

theorem SameMeasures.cellCount_eq (h : low.SameMeasures high) (pixels : Array UInt8)
    (layer : Nat) : high.cellCount pixels layer = low.cellCount pixels layer := by
  rw [cellCount, cellCount, h.config]
  refine List.countP_congr fun cell _ => ?_
  rw [layersOf, layersOf, h.config, h.ramp]

/-- What the mesh of a heightmap shows, the mesh of another one shows too: the boxes are those of
the layers that are drawn at the heights of the cells, and the first mesh has no box and no instance
of a layer that the second one has not. -/
structure Below (low high : TerraceMesh) (pixels pixels' : Array UInt8) : Prop where
  mem_low : ∀ b, b ∈ low.boxes pixels ↔
    b.face ∈ low.faces.faces ∧ (b.j < low.config.resolution ∧ b.i < low.config.resolution) ∧
      low.ramp.isDrawn b.layer (cellHeight low.config.resolution pixels b.j b.i) = true
  mem_high : ∀ b, b ∈ high.boxes pixels' ↔
    b.face ∈ high.faces.faces ∧ (b.j < high.config.resolution ∧ b.i < high.config.resolution) ∧
      high.ramp.isDrawn b.layer (cellHeight high.config.resolution pixels' b.j b.i) = true
  subset : ∀ b ∈ low.boxes pixels, b ∈ high.boxes pixels'
  layerCounts : List.Forall₂ (· ≤ ·) low.layerCounts.toList high.layerCounts.toList
  activeCount : low.activeCount ≤ high.activeCount

theorem mem_boxes_iff_isDrawn (h : m.ramp.stops.Pairwise fun s t => s.position ≤ t.position)
    (b : TerraceBox) :
    b ∈ m.boxes pixels ↔
      b.face ∈ m.faces.faces ∧ (b.j < m.config.resolution ∧ b.i < m.config.resolution) ∧
        m.ramp.isDrawn b.layer (cellHeight m.config.resolution pixels b.j b.i) = true := by
  rw [boxes_eq, mem_enumeration, ColorRamp.isDrawn_iff_lt h, layersOf]

/-- Two meshes of the same measures that show ordered heightmaps are ordered. -/
theorem Shows.below (hlow : low.Shows pixels) (hhigh : high.Shows pixels')
    (hsame : low.SameMeasures high)
    (hsorted : low.ramp.stops.Pairwise fun s t => s.position ≤ t.position)
    (h : RedLE low.config.resolution pixels pixels') : low.Below high pixels pixels' := by
  have hcounts : List.Forall₂ (· ≤ ·) low.layerCounts.toList high.layerCounts.toList := by
    rw [hlow.layerCounts, hhigh.layerCounts, hsame.ramp, hsame.faces, List.forall₂_map_left_iff,
      List.forall₂_map_right_iff]
    refine List.forall₂_same.mpr fun layer _ => ?_
    rw [hsame.cellCount_eq]
    exact Nat.mul_le_mul_left _ (cellCount_le h layer)
  refine ⟨mem_boxes_iff_isDrawn hsorted, mem_boxes_iff_isDrawn (hsame.ramp ▸ hsorted), ?_,
    hcounts, ?_⟩
  · intro b hb
    rw [boxes_eq] at hb ⊢
    rw [hsame.enumeration_eq, TerraceMesh.mem_enumeration]
    obtain ⟨hface, ⟨hj, hi⟩, hlayer⟩ := TerraceMesh.mem_enumeration.mp hb
    exact ⟨hface, ⟨hj, hi⟩, Nat.lt_of_lt_of_le hlayer (layersOf_le h hj hi)⟩
  · rw [hlow.sum_layerCounts, hhigh.sum_layerCounts]
    exact hcounts.sum_le_sum

end TerraceMesh

namespace ColorRamp

open TerraceMesh

/-- **Terracing is monotone.** A ramp is made of one to `maxLayers` stops in the unit range and of no
others. It has the same stops in order, the layers that it draws at a height are the first ones, and
at a higher height it draws them too. Any two meshes of it, after whatever heightmaps, take any
heightmaps of the right size; if one of these is nowhere above the other, no box of its mesh is
missing in the mesh of the other, and none of its layers has more instances. -/
theorem ofStops_monotone (stops : List ColorStop) :
    ((∃ r, ofStops stops = .ok r) ↔
      (1 ≤ stops.length ∧ stops.length ≤ maxLayers) ∧
        ∀ s ∈ stops, 0 ≤ s.position ∧ s.position ≤ 1) ∧
    ∀ r, ofStops stops = .ok r →
      r.Terraced stops ∧
      ∀ c faces m, TerraceMesh.create c r faces = .ok m →
        ∀ (frames frames' : List (Array UInt8)) (pixels pixels' : Array UInt8),
          pixels.size = c.resolution * c.resolution * 4 →
          pixels'.size = c.resolution * c.resolution * 4 →
          ∃ low high,
            (m.run frames).rebuild pixels = (.ok low.activeCount, low) ∧
            (m.run frames').rebuild pixels' = (.ok high.activeCount, high) ∧
            (m.SameMeasures low ∧ m.SameMeasures high) ∧
            (low.Shows pixels ∧ high.Shows pixels') ∧
            (RedLE c.resolution pixels pixels' → low.Below high pixels pixels') := by
  have hstops : (∀ s ∈ stops, isInside s = true) ↔
      ∀ s ∈ stops, 0 ≤ s.position ∧ s.position ≤ 1 :=
    forall₂_congr fun _ _ => isInside_iff
  constructor
  · rw [← hstops]
    constructor
    · rintro ⟨r, hr⟩
      exact (ofStops_eq_ok_iff.mp hr).1
    · intro h
      obtain ⟨base, upper, hsorted⟩ : ∃ base upper, sorted stops = base :: upper := by
        refine List.exists_cons_of_length_pos ?_
        rw [(sorted_perm stops).length_eq]
        exact h.1.1
      exact ⟨⟨base, upper⟩, ofStops_eq_ok_iff.mpr ⟨h, hsorted.symm⟩⟩
  · intro r hr
    have hterraced := terraced_of_ofStops hr
    refine ⟨hterraced, fun c faces m hm frames frames' pixels pixels' hpixels hpixels' => ?_⟩
    obtain ⟨hsized, rfl, rfl, rfl⟩ := Sized.of_create hm
    obtain ⟨hrun, hsame⟩ := hsized.run frames
    obtain ⟨hrun', hsame'⟩ := hsized.run frames'
    rw [← hsame.config] at hpixels
    rw [← hsame'.config] at hpixels'
    obtain ⟨low, hlow, -, hmeasures, hshows⟩ := hrun.rebuild_shows hpixels
    obtain ⟨high, hhigh, -, hmeasures', hshows'⟩ := hrun'.rebuild_shows hpixels'
    have hfrom := hsame.trans hmeasures
    have hfrom' := hsame'.trans hmeasures'
    refine ⟨low, high, hlow, hhigh, ⟨hfrom, hfrom'⟩, ⟨hshows, hshows'⟩, fun hred => ?_⟩
    exact hshows.below hshows' (hfrom.symm.trans hfrom') (hfrom.ramp ▸ hterraced.sorted)
      (hfrom.config ▸ hred)

theorem ofStops_monotone_unsorted :
    ∃ r m low high,
      ofStops [⟨0.5, 1, 1, 1⟩, ⟨0, 0, 0, 0⟩, ⟨-0, 1, 0, 0⟩, ⟨0.5, 0, 1, 0⟩] = .ok r ∧
      TerraceMesh.create { resolution := 1 } r .single = .ok m ∧
      (m.run [#[255, 0, 0, 255]]).rebuild #[100, 0, 0, 255] = (.ok low.activeCount, low) ∧
      (m.run [#[7]]).rebuild #[140, 9, 9, 9] = (.ok high.activeCount, high) ∧
      low.Below high #[100, 0, 0, 255] #[140, 9, 9, 9] := by
  obtain ⟨hmade, hmonotone⟩ :=
    ofStops_monotone [⟨0.5, 1, 1, 1⟩, ⟨0, 0, 0, 0⟩, ⟨-0, 1, 0, 0⟩, ⟨0.5, 0, 1, 0⟩]
  obtain ⟨r, hr⟩ := hmade.mpr ⟨by decide, by decide⟩
  obtain ⟨hterraced, hmesh⟩ := hmonotone r hr
  have hlayers : r.layerCount = 4 := hterraced.perm.length_eq
  obtain ⟨m, hm⟩ := (exists_create_iff { resolution := 1 } r .single).mpr
    ⟨rfl, by rw [hlayers]; decide⟩
  obtain ⟨low, high, hlow, hhigh, -, -, hbelow⟩ := hmesh _ _ m hm [#[255, 0, 0, 255]] [#[7]]
    #[100, 0, 0, 255] #[140, 9, 9, 9] rfl rfl
  exact ⟨r, m, low, high, hr, hm, hlow, hhigh, hbelow (by decide)⟩

end ColorRamp
end Heightfield
