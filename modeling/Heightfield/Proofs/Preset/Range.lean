import Heightfield.Proofs.Graph.Loading
import Heightfield.Proofs.Number.Interpolation
import Heightfield.Proofs.Preset.Variation

/-!
# The range of variations

Variations are at evenly spaced points of the range of their parameter. If the width of the range is
finite, then these are in the range and in order, and the first one is its lower end. If it is not,
then the first point is no number at all, and the others are all at the upper end.

* `Preset.isFraction_fraction`, `Preset.fraction_le_fraction`, `Preset.fraction_zero` and
  `Preset.fraction_pos` are about the fractions of the width.
* `Preset.isFinite_of_ofRecord` says that the numbers of a preset that has been loaded are finite.
* `Preset.variations_range` says where the variations of such a preset are.
-/

namespace Heightfield

open Number

namespace Preset

variable {count index index' : ℕ}

/-! ## Fractions -/

theorem fraction_one (index : ℕ) : fraction 1 index = Float32.ofBits 0x3f000000 :=
  (if_pos rfl).trans (by decide)

section

variable (hcount : 2 ≤ count) (hword : count ≤ 2 ^ 64) (h : index < count)
include hcount hword h

/-- Of several fractions, each is the quotient of two natural numbers. -/
theorem nearest_fraction :
    Nearest (value (Float32.ofNat index) / value (Float32.ofNat (count - 1)))
      (fraction count index) := by
  have hlast := one_le_value_ofNat (n := count - 1) (by omega) (by omega)
  rw [fraction, if_neg (by omega)]
  exact nearest_div (isFinite_ofNat (by omega)) (isFinite_ofNat (by omega)) (by linarith)

/-- The fractions behind the first one are positive: none is too small to be a number. -/
theorem fraction_pos_of_pos (hindex : 0 < index) : 0 < rank (fraction count index) := by
  have hone := one_le_value_ofNat hindex (by omega)
  have hlast := one_le_value_ofNat (n := count - 1) (by omega) (by omega)
  have hlarge := value_ofNat_le_word (n := count - 1) (by omega)
  have hvalue : value (Float32.ofBits 0x1f800000) = 1 / 2 ^ 64 := by
    rw [value_of_rank_eq (m := 0x1f800000) (by decide)]
    norm_num [amount, unit]
  have hquotient : value (Float32.ofBits 0x1f800000) ≤
      value (Float32.ofNat index) / value (Float32.ofNat (count - 1)) := by
    rw [hvalue]
    exact div_le_div₀ (by linarith) hone (by linarith) hlarge
  have hle := (nearest_value (by decide)).mono (nearest_fraction hcount hword h) hquotient
  have hrank : 0 < rank (Float32.ofBits 0x1f800000) := by decide
  exact hrank.trans_le (Number.le_iff.mp hle).2.2

end

theorem fraction_zero (hcount : 2 ≤ count) (hword : count ≤ 2 ^ 64) :
    rank (fraction count 0) = 0 := by
  have hnearest := nearest_fraction hcount hword (by omega : 0 < count)
  rw [value_ofNat_zero, zero_div] at hnearest
  exact hnearest.rank_eq_zero

section

variable (hword : count ≤ 2 ^ 64) (h : index < count)
include hword h

theorem isFraction_fraction : IsFraction (fraction count index) := by
  obtain rfl | hcount : count = 1 ∨ 2 ≤ count := by omega
  · have hhalf : value (Float32.ofBits 0x3f000000) = 1 / 2 := by
      rw [value_of_rank_eq (m := 0x3f000000) (by decide)]
      norm_num [amount, unit]
    rw [fraction_one]
    refine ⟨by decide, ?_, ?_⟩ <;> norm_num [hhalf]
  · have hzero := zero_le_value_ofNat (n := index) (by omega)
    have hlast := one_le_value_ofNat (n := count - 1) (by omega) (by omega)
    have hle := value_ofNat_le (m := index) (n := count - 1) (by omega) (by omega)
    obtain ⟨hfinite, hlow, hhigh⟩ := (nearest_fraction hcount hword h).mem
      (by decide : (0 : Float32).isFinite = true)
      (by decide : (Float32.ofBits 0x3f800000).isFinite = true)
      (by rw [value_zero]; positivity)
      (by rw [value_one]; exact div_le_one_of_le₀ hle (by linarith))
    exact ⟨hfinite, value_zero.symm.trans_le hlow, hhigh.trans_eq value_one⟩

/-- Fractions are in order. -/
theorem fraction_le_fraction (hle : index' ≤ index) :
    value (fraction count index') ≤ value (fraction count index) := by
  obtain rfl | hcount : count = 1 ∨ 2 ≤ count := by omega
  · rw [fraction_one, fraction_one]
  · have h' : index' < count := by omega
    have hzero := zero_le_value_ofNat (n := count - 1) (by omega)
    refine (value_le_value_iff (isFraction_fraction hword h').isFinite
      (isFraction_fraction hword h).isFinite).mpr ?_
    exact (nearest_fraction hcount hword h').mono (nearest_fraction hcount hword h)
      (div_le_div_of_nonneg_right (value_ofNat_le hle (by omega)) hzero)

theorem fraction_pos (hindex : 0 < index ∨ count = 1) : 0 < rank (fraction count index) := by
  obtain rfl | hcount : count = 1 ∨ 2 ≤ count := by omega
  · rw [fraction_one]
    decide
  · exact fraction_pos_of_pos hcount hword h (by omega)

end

/-! ## Loaded presets -/

variable {r : PresetRecord} {fallback parameter : String} {p : Preset} {i : ℕ} {n : Node}
  {s : ParameterSettings}

theorem graph_of_ofRecord (h : ofRecord r fallback = .ok p) :
    p.graph = .ofRecords r.nodes r.connections := by
  unfold ofRecord at h
  cases hramp : rampOf r.colorRamp with
  | error e =>
    simp only [hramp] at h
    split at h
    · split at h <;> cases h
    · cases h
  | ok ramp =>
    simp only [hramp] at h
    split at h
    · split at h
      · cases h
      · cases h
        rfl
    · cases h
      rfl

/-- The numbers of a preset that has been loaded are finite. -/
theorem isFinite_of_ofRecord (h : ofRecord r fallback = .ok p) (hn : n ∈ p.graph.nodes) :
    ∀ a ∈ n.kind.settings, a.isFinite = true := by
  rw [graph_of_ofRecord h] at hn
  obtain ⟨record, -, hrecord⟩ := List.mem_filterMap.mp hn
  exact (NodeRecord.loadedAs_of_load hrecord).finite

theorem isFinite_range (h : ofRecord r fallback = .ok p) (hn : p.graph.nodes[i]? = some n)
    (hs : n.parameter? = some s) : s.min.isFinite = true ∧ s.max.isFinite = true := by
  have hfinite := isFinite_of_ofRecord h (List.mem_of_getElem? hn)
  rw [Node.parameter?_eq_some_iff.mp hs] at hfinite
  exact ⟨hfinite _ (by simp [NodeKind.settings]), hfinite _ (by simp [NodeKind.settings])⟩

/-- Each variation carries its value, which is a point of the range of the parameter. -/
theorem exists_variations (h : p.graph.parameterIndex? parameter = some i)
    (hn : p.graph.nodes[i]? = some n) (hs : n.parameter? = some s) (hle : s.min ≤ s.max)
    (hcount : 0 < count) :
    ∃ vs, p.variations parameter count = .ok vs ∧ vs.length = count ∧
      ∀ (index : ℕ) v, vs[index]? = some v →
        v.value = point s.min s.max (fraction count index) ∧
          (v.graph.nodes[i]?).bind Node.parameter? = some { s with value := v.value } := by
  refine ⟨_, variations_eq h hn hs hcount, by simp, fun index v hv => ?_⟩
  rw [List.getElem?_map, Option.map_eq_some_iff] at hv
  obtain ⟨k, hk, rfl⟩ := hv
  obtain ⟨-, rfl⟩ := List.getElem?_eq_some_iff.mp hk
  simp [ParameterSettings.clampValue, hle, point, Graph.getElem?_bake_singleton, h, hn, hs]

/-- **The variations of a parameter are in its range, and in order, if the range has a width.** A
loaded preset has as many variations as are asked for, and each carries its value. If the width of
the range is finite, then the values are finite, in the range and in order, and the first of several
is the lower end. If it is not, then the first of several is a NaN, and every other one is the upper
end. -/
theorem variations_range (hload : ofRecord r fallback = .ok p)
    (h : p.graph.parameterIndex? parameter = some i) (hn : p.graph.nodes[i]? = some n)
    (hs : n.parameter? = some s) (hle : s.min ≤ s.max) (hcount : 0 < count)
    (hword : count < UInt64.size) :
    ∃ vs, p.variations parameter count = .ok vs ∧ vs.length = count ∧
      (∀ v ∈ vs, (v.graph.nodes[i]?).bind Node.parameter? = some { s with value := v.value }) ∧
      if (s.max - s.min).isFinite then
        (∀ v ∈ vs, v.value.isFinite = true ∧ s.min ≤ v.value ∧ v.value ≤ s.max) ∧
          vs.Pairwise (·.value ≤ ·.value) ∧
          (2 ≤ count → ∀ v ∈ vs.head?, (v.value == s.min) = true)
      else
        ∀ (index : ℕ) v, vs[index]? = some v →
          if index = 0 ∧ 2 ≤ count then v.value.isNaN = true else v.value = s.max := by
  have hword : count ≤ 2 ^ 64 := hword.le
  obtain ⟨vs, hvariations, hlength, hpoint⟩ := exists_variations h hn hs hle hcount
  obtain ⟨hmin, hmax⟩ := isFinite_range hload hn hs
  have hlt {index : ℕ} {v : Variation} (hv : vs[index]? = some v) : index < count :=
    hlength ▸ (List.getElem?_eq_some_iff.mp hv).1
  refine ⟨vs, hvariations, hlength, fun v hv => ?_, ?_⟩
  · obtain ⟨index, hindex⟩ := List.getElem?_of_mem hv
    exact (hpoint index v hindex).2
  split
  next hwidth =>
    refine ⟨fun v hv => ?_, ?_, fun hseveral v hv => ?_⟩
    · obtain ⟨index, hindex⟩ := List.getElem?_of_mem hv
      have ht := isFraction_fraction hword (hlt hindex)
      rw [(hpoint index v hindex).1]
      exact ⟨isFinite_point hmin hmax hle hwidth ht, point_mem hmin hmax hle hwidth ht⟩
    · rw [List.pairwise_iff_getElem]
      intro a b ha hb hab
      rw [(hpoint a _ (List.getElem?_eq_getElem ha)).1,
        (hpoint b _ (List.getElem?_eq_getElem hb)).1]
      rw [hlength] at ha hb
      exact point_le_point hmin hmax hle hwidth (isFraction_fraction hword ha)
        (isFraction_fraction hword hb) (fraction_le_fraction hword hb hab.le)
    · rw [Option.mem_def, List.head?_eq_getElem?] at hv
      rw [(hpoint 0 v hv).1]
      exact point_zero hmin hmax hle hwidth (isFraction_fraction hword hcount)
        (value_of_rank_eq_zero (fraction_zero hseveral hword))
  next hwidth =>
    have hwidth : (s.max - s.min).isFinite = false := by simpa using hwidth
    intro index v hv
    rw [(hpoint index v hv).1]
    split
    next hfirst =>
      obtain ⟨rfl, hseveral⟩ := hfirst
      exact isNaN_point_of_infinite hmin hmax hle hwidth (fraction_zero hseveral hword)
    next hother =>
      have hv := hlt hv
      exact point_eq_of_infinite hmin hmax hle hwidth (isFraction_fraction hword hv)
        (fraction_pos hword hv (by omega))

/-- A record of a preset with one parameter, of a given range. -/
def dialRecord (lower upper : String) : PresetRecord where
  nodes := [{
    id := "k"
    type := "PARAMETER"
    data := .ofFields [("name", .text "amp"), ("min", .text lower), ("max", .text upper)] }]

/-- The preset with the graph of such a record. -/
def dialOf (lower upper : String) : Preset :=
  { dial with graph := .ofRecords (dialRecord lower upper).nodes [] }

theorem variations_range_dialOf :
    ofRecord (dialRecord "-1" "2") "dial" = .ok (dialOf "-1" "2") ∧
      ∃ vs, (dialOf "-1" "2").variations "amp" 4 = .ok vs ∧ vs.length = 4 ∧
        (∀ v ∈ vs, v.value.isFinite = true ∧ -1 ≤ v.value ∧ v.value ≤ 2) ∧
        vs.Pairwise (·.value ≤ ·.value) := by
  have hload : ofRecord (dialRecord "-1" "2") "dial" = .ok (dialOf "-1" "2") := rfl
  have hindex : (dialOf "-1" "2").graph.parameterIndex? "amp" = some 0 := by decide +kernel
  have hnode : (dialOf "-1" "2").graph.nodes[0]? =
      some ⟨"k", .parameter ⟨"amp", 0, -1, 2, 0, 0.01⟩, [], 0, 0⟩ := by decide +kernel
  obtain ⟨vs, hvariations, hlength, -, hrange⟩ := variations_range hload hindex hnode rfl
    (by decide +kernel) (by decide : 0 < 4) (by decide)
  rw [if_pos (by decide +kernel)] at hrange
  exact ⟨hload, vs, hvariations, hlength, hrange.1, hrange.2.1⟩

/-- If the width is not finite, then not all variations are. -/
theorem not_variations_isFinite :
    ¬ ∀ (r : PresetRecord) (fallback : String) (p : Preset) (parameter : String) (i : ℕ) (n : Node)
      (s : ParameterSettings) (count : ℕ), ofRecord r fallback = .ok p →
      p.graph.parameterIndex? parameter = some i → p.graph.nodes[i]? = some n →
      n.parameter? = some s → s.min ≤ s.max → 0 < count → count < UInt64.size →
      ∃ vs, p.variations parameter count = .ok vs ∧ ∀ v ∈ vs, v.value.isFinite = true := by
  intro h
  obtain ⟨vs, hvs, hfinite⟩ := h (dialRecord "-3e38" "3e38") "dial" (dialOf "-3e38" "3e38") "amp" 0
    ⟨"k", .parameter ⟨"amp", 0, -3e38, 3e38, 0, 0.01⟩, [], 0, 0⟩ _ 2 rfl
    (by decide +kernel) (by decide +kernel) rfl (by decide +kernel) (by decide) (by decide)
  have hvalues : ((dialOf "-3e38" "3e38").variations "amp" 2).toOption.map (·.map (·.value)) =
      some [.nan, 3e38] := by decide +kernel
  have hvalues : vs.map (·.value) = [.nan, 3e38] := by simpa [hvs, Except.toOption] using hvalues
  obtain ⟨v, hv, hnan⟩ := List.mem_map.mp (hvalues ▸ List.mem_cons_self : Float32.nan ∈ _)
  exact absurd (hfinite v hv) (by rw [hnan]; decide)

end Preset
end Heightfield
