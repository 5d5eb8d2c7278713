import Heightfield.Pattern.Wave
import Heightfield.Proofs.Number.SignedZero

/-!
# Patterns do not look at the sign of zero

Every operator and texture respects the relation of being alike, argument by argument. No pattern
divides by a number that may be zero: quotients and remainders have the value 0 there, and short
vectors are not normalised.

* `Vec3.Alike` and `WaveSettings.Alike` are the relation on vectors and settings.
* `ScalarOperation.apply_alike`, `VectorOperation.apply_alike`, `Simplex.texture_alike` and
  `WaveSettings.texture_alike` are the results for the parts that programs are made of.
-/

namespace Heightfield

open Number

section Scalars

variable {a a' b b' : Float32}

/-! ## Guarded arithmetic -/

theorem safeDivide_alike (ha : Alike a a') (hb : Alike b b') :
    Alike (safeDivide a b) (safeDivide a' b') := by
  unfold safeDivide
  rw [← hb.beq_zero_eq]
  split
  next => exact .refl 0
  next hne =>
    rw [← hb.eq_of_ne_zero hne]
    exact ha.div b

theorem safeSqrt_alike (ha : Alike a a') : Alike (safeSqrt a) (safeSqrt a') :=
  .ite (ha.lt_iff (.refl 0)) (.refl 0) ha.sqrt

theorem safePower_alike (ha : Alike a a') (hb : Alike b b') :
    Alike (safePower a b) (safePower a' b') := by
  unfold safePower
  by_cases hle : a ≤ 0
  · rw [if_pos hle, if_pos ((ha.le_iff (.refl 0)).mp hle)]
  · rw [if_neg hle, if_neg (mt (ha.le_iff (.refl 0)).mpr hle)]
    -- a zero is not above zero
    have hne : ¬ (a == 0) = true := by
      intro hzero
      rcases eq_zero_or_of_beq_zero hzero with rfl | rfl <;> exact hle (by decide)
    rw [← ha.eq_of_ne_zero hne]
    exact hb.pow a

theorem flooredModulo_alike (ha : Alike a a') (hb : Alike b b') :
    Alike (flooredModulo a b) (flooredModulo a' b') := by
  unfold flooredModulo
  rw [← hb.beq_zero_eq]
  split
  next => exact .refl 0
  next hne =>
    rw [← hb.eq_of_ne_zero hne]
    have hquotient := ha.div b
    gcongr

@[gcongr] theorem fractionalPart_alike (ha : Alike a a') :
    Alike (fractionalPart a) (fractionalPart a') := by
  unfold fractionalPart
  gcongr

theorem signOf_alike (ha : Alike a a') : Alike (signOf a) (signOf a') :=
  ha.map signOf (by decide)

theorem roundUp_alike (ha : Alike a a') : Alike (roundUp a) (roundUp a') := by
  unfold roundUp
  gcongr

/-- Operators on numbers respect the relation. -/
theorem ScalarOperation.apply_alike (op : ScalarOperation) (ha : Alike a a') (hb : Alike b b') :
    Alike (op.apply a b) (op.apply a' b') := by
  cases op with
  | add => exact ha.add hb
  | subtract => exact ha.sub hb
  | multiply => exact ha.mul hb
  | divide => exact safeDivide_alike ha hb
  | power => exact safePower_alike ha hb
  | sqrt => exact safeSqrt_alike ha
  | absolute => exact ha.abs
  | floor => exact ha.floor
  | ceil => exact ha.ceil
  | round => exact roundUp_alike ha
  | fract => exact fractionalPart_alike ha
  | modulo => exact flooredModulo_alike ha hb
  | minimum => exact ha.least hb
  | maximum => exact ha.greatest hb
  | sign => exact signOf_alike ha
  | sine => exact ha.sin
  | cosine => exact ha.cos
  | tangent => exact ha.tan

end Scalars

/-! ## Vectors -/

/-- Vectors whose components are alike. -/
structure Vec3.Alike (v w : Vec3) : Prop where
  x : Number.Alike v.x w.x
  y : Number.Alike v.y w.y
  z : Number.Alike v.z w.z

namespace Vec3.Alike

variable {u u' v v' : Vec3} {a a' : Float32}

@[refl] theorem refl (v : Vec3) : v.Alike v := ⟨.refl _, .refl _, .refl _⟩

theorem splat (h : Number.Alike a a') : (Vec3.splat a).Alike (Vec3.splat a') := ⟨h, h, h⟩

theorem map {f : Float32 → Float32} (hf : ∀ {a a'}, Number.Alike a a' → Number.Alike (f a) (f a'))
    (h : u.Alike u') : (u.map f).Alike (u'.map f) :=
  ⟨hf h.x, hf h.y, hf h.z⟩

theorem zip {f : Float32 → Float32 → Float32}
    (hf : ∀ {a a' b b'}, Number.Alike a a' → Number.Alike b b' → Number.Alike (f a b) (f a' b'))
    (h : u.Alike u') (h' : v.Alike v') : (Vec3.zip f u v).Alike (Vec3.zip f u' v') :=
  ⟨hf h.x h'.x, hf h.y h'.y, hf h.z h'.z⟩

theorem add (h : u.Alike u') (h' : v.Alike v') : (u + v).Alike (u' + v') :=
  zip .add h h'

theorem sub (h : u.Alike u') (h' : v.Alike v') : (u - v).Alike (u' - v') :=
  zip .sub h h'

theorem scale (h : u.Alike u') (ha : Number.Alike a a') : (u * a).Alike (u' * a') :=
  ⟨h.x.mul ha, h.y.mul ha, h.z.mul ha⟩

@[gcongr] theorem dot (h : u.Alike u') (h' : v.Alike v') : Number.Alike (u.dot v) (u'.dot v') :=
  ((h.x.mul h'.x).add (h.y.mul h'.y)).add (h.z.mul h'.z)

theorem cross (h : u.Alike u') (h' : v.Alike v') : (u.cross v).Alike (u'.cross v') :=
  ⟨(h.y.mul h'.z).sub (h.z.mul h'.y), (h.z.mul h'.x).sub (h.x.mul h'.z),
    (h.x.mul h'.y).sub (h.y.mul h'.x)⟩

theorem length (h : u.Alike u') : Number.Alike u.length u'.length :=
  (h.dot h).sqrt

theorem normalize (h : u.Alike u') : u.normalize.Alike u'.normalize := by
  unfold Vec3.normalize
  by_cases hlt : u.length < normalizeEpsilon
  · rw [if_pos hlt, if_pos ((h.length.lt_iff (.refl _)).mp hlt)]
  · rw [if_neg hlt, if_neg (mt (h.length.lt_iff (.refl _)).mpr hlt)]
    -- a zero is below every bound
    have hne : ¬ (u.length == 0) = true := by
      intro hzero
      rcases eq_zero_or_of_beq_zero hzero with heq | heq <;> rw [heq] at hlt <;>
        exact hlt (by decide)
    rw [← h.length.eq_of_ne_zero hne]
    exact h.scale (.refl _)

end Vec3.Alike

/-- Outcomes whose vector and number are alike. -/
structure VectorOutcome.Alike (o o' : VectorOutcome) : Prop where
  vector : o.vector.Alike o'.vector
  value : Number.Alike o.value o'.value

/-- Operators on vectors respect the relation. -/
theorem VectorOperation.apply_alike (op : VectorOperation) {u u' v v' : Vec3} {a a' : Float32}
    (hu : u.Alike u') (hv : v.Alike v') (ha : Alike a a') :
    (op.apply u v a).Alike (op.apply u' v' a') := by
  have ofVector {u u' : Vec3} (h : u.Alike u') :
      (VectorOutcome.ofVector u).Alike (.ofVector u') := ⟨h, h.x⟩
  have ofValue {a a' : Float32} (h : Alike a a') :
      (VectorOutcome.ofValue a).Alike (.ofValue a') := ⟨.splat h, h⟩
  cases op with
  | add => exact ofVector (hu.add hv)
  | subtract => exact ofVector (hu.sub hv)
  | multiply => exact ofVector (hu.zip .mul hv)
  | divide => exact ofVector (hu.zip safeDivide_alike hv)
  | scale => exact ofVector (hu.scale ha)
  | crossProduct => exact ofVector (hu.cross hv)
  | dotProduct => exact ofValue (hu.dot hv)
  | length => exact ofValue hu.length
  | distance => exact ofValue (hu.sub hv).length
  | normalize => exact ofVector hu.normalize
  | floor => exact ofVector (hu.map .floor)
  | ceil => exact ofVector (hu.map .ceil)
  | fraction => exact ofVector (hu.map fractionalPart_alike)
  | absolute => exact ofVector (hu.map .abs)
  | minimum => exact ofVector (hu.zip .least hv)
  | maximum => exact ofVector (hu.zip .greatest hv)
  | sine => exact ofVector (hu.map .sin)
  | cosine => exact ofVector (hu.map .cos)
  | tangent => exact ofVector (hu.map .tan)

/-! ## Noise -/

namespace Simplex

variable {a a' b b' : Float32} {u u' v v' w w' : Vec3}

theorem mod289_alike (h : Alike a a') : Alike (mod289 a) (mod289 a') := by
  unfold mod289
  gcongr

theorem permute_alike (h : Alike a a') : Alike (permute a) (permute a') := by
  unfold permute
  refine mod289_alike ?_
  gcongr

theorem inverseSqrt_alike (h : Alike a a') : Alike (inverseSqrt a) (inverseSqrt a') := by
  unfold inverseSqrt
  gcongr

theorem step_alike (h : Alike a a') (h' : Alike b b') : Alike (step a b) (step a' b') :=
  .ite (h'.lt_iff h) (.refl 0) (.refl 1)

theorem gradient_alike (h : Alike a a') : (gradient a).Alike (gradient a') := by
  unfold gradient
  extract_lets spacing origin j column row x y height fold gx gy g
    j' column' row' x' y' height' fold' gx' gy' g'
  have hj : Alike j j' := h.sub (.mul (.refl 49) (.floor ((h.mul (.refl _)).mul (.refl _))))
  have hcolumn : Alike column column' := (hj.mul (.refl _)).floor
  have hrow : Alike row row' := (hj.sub (.mul (.refl 7) hcolumn)).floor
  have hx : Alike x x' := (hcolumn.mul (.refl _)).add (.refl _)
  have hy : Alike y y' := (hrow.mul (.refl _)).add (.refl _)
  have hheight : Alike height height' := (Alike.sub (.refl 1) hx.abs).sub hy.abs
  have hfold : Alike fold fold' := (step_alike hheight (.refl 0)).neg
  have hgx : Alike gx gx' := hx.add (((hx.floor.mul (.refl 2)).add (.refl 1)).mul hfold)
  have hgy : Alike gy gy' := hy.add (((hy.floor.mul (.refl 2)).add (.refl 1)).mul hfold)
  have hg : g.Alike g' := ⟨hgx, hgy, hheight⟩
  exact hg.scale (inverseSqrt_alike (hg.dot hg))

theorem contribution_alike (hu : u.Alike u') (hv : v.Alike v') (hw : w.Alike w') :
    Alike (contribution u v w) (contribution u' v' w') := by
  unfold contribution
  extract_lets p m m₂ p' m' m₂'
  have hz := permute_alike (hu.z.add hv.z)
  have hy := permute_alike ((hz.add hu.y).add hv.y)
  have hp : Alike p p' := permute_alike ((hy.add hu.x).add hv.x)
  have hm : Alike m m' := (Alike.sub (.refl 0.6) (hw.dot hw)).greatest (.refl 0)
  have hm₂ : Alike m₂ m₂' := hm.mul hm
  exact (hm₂.mul hm₂).mul ((gradient_alike hp).dot hw)

theorem noise_alike (h : v.Alike v') : Alike (noise v) (noise v') := by
  unfold noise
  extract_lets skew cell unskew x0 g l i1 i2 x1 x2 x3 base total
    skew' cell' unskew' x0' g' l' i1' i2' x1' x2' x3' base' total'
  have hskew : Alike skew skew' := ((h.x.add h.y).add h.z).mul (.refl _)
  have hcell : cell.Alike cell' :=
    ⟨(h.x.add hskew).floor, (h.y.add hskew).floor, (h.z.add hskew).floor⟩
  have hunskew : Alike unskew unskew' := ((hcell.x.add hcell.y).add hcell.z).mul (.refl _)
  have hx0 : x0.Alike x0' := (h.sub hcell).add (.splat hunskew)
  -- which corners of the cube the point lies between
  have hg : g.Alike g' :=
    ⟨step_alike hx0.y hx0.x, step_alike hx0.z hx0.y, step_alike hx0.x hx0.z⟩
  have hl : l.Alike l' := (Vec3.Alike.refl _).sub hg
  have hi1 : i1.Alike i1' := ⟨hg.x.least hl.z, hg.y.least hl.x, hg.z.least hl.y⟩
  have hi2 : i2.Alike i2' := ⟨hg.x.greatest hl.z, hg.y.greatest hl.x, hg.z.greatest hl.y⟩
  have hx1 : x1.Alike x1' := (hx0.sub hi1).add (.refl _)
  have hx2 : x2.Alike x2' := (hx0.sub hi2).add (.refl _)
  have hx3 : x3.Alike x3' := hx0.sub (.refl _)
  have hbase : base.Alike base' := hcell.map mod289_alike
  have htotal : Alike total total' :=
    ((Alike.add (.refl 0) (contribution_alike hbase (.refl _) hx0)).add
      (contribution_alike hbase hi1 hx1)).add (contribution_alike hbase hi2 hx2) |>.add
        (contribution_alike hbase (.refl _) hx3)
  exact .mul (.refl 42) htotal

/-- A noise texture respects the relation. -/
theorem texture_alike (h : v.Alike v') (ha : Alike a a') : Alike (texture v a) (texture v' a') := by
  have hnoise := noise_alike (h.scale ha)
  unfold texture
  gcongr

end Simplex

/-! ## Waves -/

namespace WaveSettings

/-- Settings whose numbers are alike, and that are otherwise equal. -/
structure Alike (w w' : WaveSettings) : Prop where
  waveType : w.waveType = w'.waveType
  direction : w.direction = w'.direction
  profile : w.profile = w'.profile
  detail : w.detail = w'.detail
  waveScale : Number.Alike w.waveScale w'.waveScale
  distortion : Number.Alike w.distortion w'.distortion
  detailScale : Number.Alike w.detailScale w'.detailScale
  detailRoughness : Number.Alike w.detailRoughness w'.detailRoughness

variable {w w' : WaveSettings} {u u' : Vec3} {a a' : Float32}

theorem coordinate_alike (hw : w.Alike w') (h : u.Alike u') :
    Number.Alike (w.coordinate u) (w'.coordinate u') := by
  unfold coordinate
  rw [← hw.waveType, ← hw.direction]
  split
  · exact h.length
  · exact h.x
  · exact h.y
  · exact h.z
  · exact ((h.x.add h.y).add h.z).mul (.refl _)

theorem addOctaves_alike (hw : w.Alike w') (h : u.Alike u') (k : Nat)
    {amplitude amplitude' frequency frequency' n n' : Float32}
    (hamplitude : Number.Alike amplitude amplitude')
    (hfrequency : Number.Alike frequency frequency') (hn : Number.Alike n n') :
    Number.Alike (w.addOctaves u k amplitude frequency n)
      (w'.addOctaves u' k amplitude' frequency' n') := by
  induction k generalizing amplitude amplitude' frequency frequency' n n' with
  | zero => exact hn
  | succ k ih =>
    have hamplitude := hamplitude.mul hw.detailRoughness
    have hfrequency := hfrequency.mul hw.detailScale
    have hnoise := Simplex.noise_alike (h.scale (hw.waveScale.mul hfrequency))
    exact ih hamplitude hfrequency (hn.add (hamplitude.mul hnoise))

theorem phaseAt_alike (hw : w.Alike w') (h : u.Alike u') (ha : Number.Alike a a') :
    Number.Alike (w.phaseAt u a) (w'.phaseAt u' a') := by
  have hstart := ((coordinate_alike hw h).mul hw.waveScale).add ha
  have hnoise := Simplex.noise_alike (h.scale hw.waveScale)
  have hdistorted : (w.distortion != 0) = true ↔ (w'.distortion != 0) = true := by
    rw [bne, bne, hw.distortion.beq_zero_eq]
  unfold phaseAt
  rw [← hw.detail]
  exact addOctaves_alike hw h _ (.refl 1) (.refl 1)
    (.ite hdistorted (hstart.add (hw.distortion.mul hnoise)) hstart)

theorem shape_alike (hw : w.Alike w') (ha : Number.Alike a a') :
    Number.Alike (w.shape a) (w'.shape a') := by
  unfold shape
  rw [← hw.profile]
  split <;> gcongr

/-- A wave texture respects the relation. -/
theorem texture_alike (hw : w.Alike w') (h : u.Alike u') (ha : Number.Alike a a') :
    Number.Alike (w.texture u a) (w'.texture u' a') :=
  shape_alike hw (phaseAt_alike hw h ha)

end WaveSettings
end Heightfield
