import Heightfield.Pattern.Operation
import Heightfield.Pattern.Simplex

/-!
# Wave texture

Bands or rings: a coordinate of the point is scaled, shifted by a phase, distorted by noise,
roughened by octaves of noise, and turned into a periodic profile.
-/

namespace Heightfield

open Number

/-- What the waves are measured along. -/
inductive WaveType where
  /-- along a direction -/
  | bands
  /-- along the distance from the origin -/
  | rings
  deriving DecidableEq, Repr, Inhabited

/-- The direction of bands. -/
inductive WaveDirection where
  | x | y | z | diagonal
  deriving DecidableEq, Repr, Inhabited

/-- The shape of one wave. -/
inductive WaveProfile where
  | sine | saw
  deriving DecidableEq, Repr, Inhabited

instance : Choice WaveType where
  label := "wave type"
  fallback := .bands
  names := [("BANDS", .bands), ("RINGS", .rings)]

instance : Choice WaveDirection where
  label := "wave direction"
  fallback := .x
  names := [("X", .x), ("Y", .y), ("Z", .z), ("DIAGONAL", .diagonal)]

instance : Choice WaveProfile where
  label := "wave profile"
  fallback := .sine
  names := [("SINE", .sine), ("SIN", .sine), ("SAW", .saw)]

/-- The most octaves that are added. -/
def maxWaveDetail : Nat := 10

/-- The settings of a wave texture. -/
structure WaveSettings where
  waveType : WaveType := .bands
  direction : WaveDirection := .x
  profile : WaveProfile := .sine
  /-- waves per unit -/
  waveScale : Float32 := 5
  /-- how strongly noise shifts the waves -/
  distortion : Float32 := 0
  /-- the number of octaves -/
  detail : Nat := 0
  /-- the factor between the frequencies of two octaves -/
  detailScale : Float32 := 1
  /-- the factor between the amplitudes of two octaves -/
  detailRoughness : Float32 := 0.5
  deriving DecidableEq, Repr, Inhabited

/-- The number of octaves that a setting asks for: rounded down, at most `maxWaveDetail`; none for
a setting that is not a positive finite number. -/
def clampDetail (x : Float32) : Nat :=
  if !x.isFinite || x ≤ 0 then 0 else min (floor x).toUInt32.toNat maxWaveDetail

theorem clampDetail_le (x : Float32) : clampDetail x ≤ maxWaveDetail := by
  unfold clampDetail
  split
  · exact Nat.zero_le _
  · exact Nat.min_le_right _ _

namespace WaveSettings

/-- The coordinate of a point that the waves run along. -/
def coordinate (w : WaveSettings) (p : Vec3) : Float32 :=
  match w.waveType, w.direction with
  | .rings, _ => p.length
  | .bands, .x => p.x
  | .bands, .y => p.y
  | .bands, .z => p.z
  | .bands, .diagonal => (p.x + p.y + p.z) * 0.5

/-- Adds octaves of noise. -/
def addOctaves (w : WaveSettings) (p : Vec3) :
    Nat → (amplitude frequency n : Float32) → Float32
  | 0, _, _, n => n
  | k + 1, amplitude, frequency, n =>
    let amplitude := amplitude * w.detailRoughness
    let frequency := frequency * w.detailScale
    addOctaves w p k amplitude frequency
      (n + amplitude * Simplex.noise (p * (w.waveScale * frequency)))

/-- The phase of the wave at a point: its whole part counts the waves up to there. -/
def phaseAt (w : WaveSettings) (p : Vec3) (phase : Float32) : Float32 :=
  let n := w.coordinate p * w.waveScale + phase
  let n := if w.distortion != 0 then n + w.distortion * Simplex.noise (p * w.waveScale) else n
  w.addOctaves p (min w.detail maxWaveDetail) 1 1 n

/-- A full turn in radians. -/
def fullTurn : Float32 := 6.283185307179586

/-- The value of the profile at a phase. -/
def shape (w : WaveSettings) (n : Float32) : Float32 :=
  match w.profile with
  | .saw => fractionalPart n
  | .sine => 0.5 * (sin (fullTurn * n) + 1)

/-- The texture at a point. -/
def texture (w : WaveSettings) (p : Vec3) (phase : Float32) : Float32 :=
  w.shape (w.phaseAt p phase)

end WaveSettings
end Heightfield
