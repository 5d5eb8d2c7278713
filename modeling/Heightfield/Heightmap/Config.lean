import Heightfield.Pattern.Vec3
import Heightfield.Number.Layout
import Heightfield.Text.Blank

/-!
# Heightmap configuration

A heightmap has as many rows as columns. Each texel samples the pattern at a position that depends
on its row, its column and the extent of the sampled area.

* `HeightmapConfig.validate` says which configurations can be used.
* `HeightmapConfig.position` is the position of a texel.
-/

namespace Heightfield

/-- The largest number of rows. -/
def maxResolution : Nat := 4096

/-- What computes a heightmap. -/
inductive Backend where
  /-- a graphics adapter -/
  | gpu
  /-- evaluation in software -/
  | software
  /-- a graphics adapter if there is one, otherwise software -/
  | auto
  deriving DecidableEq, Repr, Inhabited

namespace Backend

/-- The name of a backend. -/
def name : Backend → String
  | .gpu => "gpu"
  | .software => "software"
  | .auto => "auto"

/-- A name that is no backend. -/
structure Unknown where
  raw : String
  deriving DecidableEq, Repr

/-- The wording of the error; the name is given in lower case, without blanks around it. -/
def Unknown.message (e : Unknown) : String :=
  s!"unknown backend '{e.raw}' (expected gpu, software or auto)"

/-- The backend that a name stands for, in any case and with blanks around it. -/
def parse (raw : String) : Except Unknown Backend :=
  match Text.lower (Text.trim raw) with
  | "gpu" => .ok .gpu
  | "software" => .ok .software
  | "cpu" => .ok .software
  | "auto" => .ok .auto
  | other => .error ⟨other⟩

end Backend

/-- Whether there is a graphics adapter. -/
inductive Adapter where
  | present
  | absent
  deriving DecidableEq, Repr

/-- What renders the frames of a generator. -/
inductive Target where
  | software
  | graphics
  deriving DecidableEq, Repr

/-- Why a heightmap cannot be made. -/
inductive HeightmapError where
  /-- a graphics adapter was asked for, and there is none -/
  | noAdapter
  /-- the frames are drawn by a graphics adapter, which is where this library ends -/
  | onAdapter
  /-- the resolution is zero or too large -/
  | resolution (n : Nat)
  /-- an extent of the sampled area is not a positive finite number -/
  | worldSize (width depth : Float32)
  deriving DecidableEq, Repr

/-- The wording of the error. -/
def HeightmapError.message : HeightmapError → String
  | .noAdapter => "no suitable GPU adapter found"
  | .onAdapter => "heightmaps of a graphics adapter are not computed here"
  | .resolution n => s!"heightmap resolution must be within 1..={maxResolution}, got {n}"
  | .worldSize width depth =>
    let w := Number.Layout.listing.writeFloat32 width
    let d := Number.Layout.listing.writeFloat32 depth
    s!"world size must be finite and positive, got [{w}, {d}]"

/-- The side of the sampled square unless a world size is given. -/
def gridWorldSize : Float32 := 10

/-- How a heightmap is sampled. -/
structure HeightmapConfig where
  /-- the number of rows, and of columns -/
  resolution : Nat := 64
  /-- the width of the sampled area in world units -/
  worldWidth : Float32 := gridWorldSize
  /-- the depth of the sampled area in world units -/
  worldDepth : Float32 := gridWorldSize
  /-- the world size is used; otherwise a square of fixed size is sampled -/
  useWorldPos : Bool := false
  backend : Backend := .auto
  deriving DecidableEq, Repr, Inhabited

/-- The number is positive and finite. -/
def isPositiveFinite (x : Float32) : Bool :=
  x.isFinite && !(x ≤ 0)

namespace HeightmapConfig

/-- Checks the resolution, then the two extents. -/
def validate (c : HeightmapConfig) : Except HeightmapError Unit :=
  if c.resolution = 0 || maxResolution < c.resolution then .error (.resolution c.resolution)
  else if isPositiveFinite c.worldWidth && isPositiveFinite c.worldDepth then .ok ()
  else .error (.worldSize c.worldWidth c.worldDepth)

/-- The number of bytes of a frame, four for each texel, counted in a word of 64 bits. -/
def byteLength (c : HeightmapConfig) : Nat :=
  c.resolution * c.resolution * 4 % UInt64.size

/-- The count fits the word for every resolution that can be used. -/
theorem byteLength_of_le {c : HeightmapConfig} (h : c.resolution ≤ maxResolution) :
    c.byteLength = c.resolution * c.resolution * 4 := by
  have square : c.resolution * c.resolution ≤ maxResolution * maxResolution := Nat.mul_le_mul h h
  refine Nat.mod_eq_of_lt ?_
  simp only [maxResolution, UInt64.size] at *
  omega

/-- The coordinates of column `i` and row `j` in the unit square: the corner next to the origin. -/
def unitPosition (resolution i j : Nat) : Float32 × Float32 :=
  let n := Float32.ofNat resolution
  (Float32.ofNat i / n, Float32.ofNat j / n)

/-- The width and depth of the sampled area. -/
def extent (c : HeightmapConfig) : Float32 × Float32 :=
  if c.useWorldPos then (c.worldWidth, c.worldDepth) else (gridWorldSize, gridWorldSize)

/-- The position that the texel in column `i` and row `j` samples. -/
def position (c : HeightmapConfig) (i j : Nat) : Vec3 :=
  let (u, v) := unitPosition c.resolution i j
  let (width, depth) := c.extent
  ⟨(u - 0.5) * width, (v - 0.5) * depth, 0⟩

end HeightmapConfig
end Heightfield
