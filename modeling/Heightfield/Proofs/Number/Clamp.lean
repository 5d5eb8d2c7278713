import Heightfield.Graph.Kind
import Heightfield.Proofs.Number.Order

/-!
# Clamping

A number that is moved into a range is then in it, and numbers keep their order; a NaN stays what it
is. The value of a parameter is moved in the same way, unless its range is empty.

* `Number.rank_clamp` says where a number is moved to.
* `Number.clamp_mem` and `Number.clamp_le_clamp` say that it is in the range, and in its order.
* `ParameterSettings.clampValue_clampValue` says that moving a value once is enough.
-/

namespace Heightfield

namespace Number

variable {x y lo hi : Float32}

protected theorem not_lt_of_le (h : x ≤ y) : ¬ y < x := by
  rw [Number.le_iff] at h
  rw [Number.lt_iff]
  exact fun hlt => absurd hlt.2.2 (not_lt.mpr h.2.2)

/-- A number is moved to the nearer end of a range, or it is in the range or a NaN. -/
theorem clamp_cases (h : lo ≤ hi) (x : Float32) :
    (x < lo ∧ clamp x lo hi = lo) ∨ (hi < x ∧ clamp x lo hi = hi) ∨
      (¬ x < lo ∧ ¬ hi < x ∧ clamp x lo hi = x) := by
  unfold clamp
  by_cases hlo : x < lo
  · exact .inl ⟨hlo, by simp [hlo, Number.not_lt_of_le h]⟩
  · by_cases hhi : hi < x <;> simp [hlo, hhi]

theorem clamp_clamp (h : lo ≤ hi) (x : Float32) :
    clamp (clamp x lo hi) lo hi = clamp x lo hi := by
  have hstay {a : Float32} (hlo : ¬ a < lo) (hhi : ¬ hi < a) : clamp a lo hi = a := by
    simp [clamp, hlo, hhi]
  have hself {a : Float32} : ¬ a < a := by simp [Number.lt_iff]
  obtain ⟨-, heq⟩ | ⟨-, heq⟩ | ⟨-, -, heq⟩ := clamp_cases h x
  · rw [heq, hstay hself (Number.not_lt_of_le h)]
  · rw [heq, hstay (Number.not_lt_of_le h) hself]
  · rw [heq, heq]

/-- A number that is clamped stands where it stood, or at the nearer end of the range. -/
theorem rank_clamp (h : lo ≤ hi) (hx : x.isNaN = false) :
    (clamp x lo hi).isNaN = false ∧
      rank (clamp x lo hi) = max (rank lo) (min (rank x) (rank hi)) := by
  obtain ⟨hlo, hhi, hle⟩ := Number.le_iff.mp h
  obtain ⟨hlt, heq⟩ | ⟨hlt, heq⟩ | ⟨hnot, hnot', heq⟩ := clamp_cases h x
  all_goals rw [heq]
  · exact ⟨hlo, by have := (Number.lt_iff.mp hlt).2.2; omega⟩
  · exact ⟨hhi, by have := (Number.lt_iff.mp hlt).2.2; omega⟩
  · have hge := (Number.le_iff.mp (Number.le_of_not_lt hx hlo hnot)).2.2
    have hle := (Number.le_iff.mp (Number.le_of_not_lt hhi hx hnot')).2.2
    exact ⟨hx, by omega⟩

/-- What is clamped is in the range. -/
theorem clamp_mem (h : lo ≤ hi) (hx : x.isNaN = false) :
    lo ≤ clamp x lo hi ∧ clamp x lo hi ≤ hi := by
  obtain ⟨hnan, hrank⟩ := rank_clamp h hx
  obtain ⟨hlo, hhi, hle⟩ := Number.le_iff.mp h
  rw [Number.le_iff, Number.le_iff]
  exact ⟨⟨hlo, hnan, by omega⟩, hnan, hhi, by omega⟩

/-- Clamping keeps the order. -/
theorem clamp_le_clamp (h : lo ≤ hi) (hxy : x ≤ y) : clamp x lo hi ≤ clamp y lo hi := by
  obtain ⟨hx, hy, hle⟩ := Number.le_iff.mp hxy
  obtain ⟨hnan, hrank⟩ := rank_clamp h hx
  obtain ⟨hnan', hrank'⟩ := rank_clamp h hy
  exact Number.le_iff.mpr ⟨hnan, hnan', by omega⟩

end Number

/-- A value that has been moved into the range stays where it is. -/
@[simp] theorem ParameterSettings.clampValue_clampValue (s : ParameterSettings) (x : Float32) :
    s.clampValue (s.clampValue x) = s.clampValue x := by
  by_cases h : s.min ≤ s.max
  · simp [clampValue, h, Number.clamp_clamp h]
  · simp [clampValue, h]

end Heightfield
