import Heightfield.Pattern.Vec3

/-!
# Simplex noise

Three-dimensional simplex noise without tables or integer arithmetic: a polynomial permutes the
corners of the grid, and a gradient is read off a 7 by 7 grid that is folded onto an octahedron.
The order of the operations is the order of the shader text, operation for operation.
-/

namespace Heightfield.Simplex

open Number

/-- The factor that skews a point onto the cubic grid. -/
def skewFactor : Float32 := 1 / 3

/-- The factor that leads back from the cubic grid. -/
def unskewFactor : Float32 := 1 / 6

/-- The width of a cell of the gradient grid. -/
def cellWidth : Float32 := 0.142857142857

/-- The remainder modulo 289. -/
def mod289 (x : Float32) : Float32 :=
  x - floor (x * (1 / 289)) * 289

/-- A permutation of the remainders modulo 289. -/
def permute (x : Float32) : Float32 :=
  mod289 ((x * 34 + 1) * x)

/-- A linear approximation of the inverse square root near 1. -/
def inverseSqrt (r : Float32) : Float32 :=
  1.7928429 - 0.8537347 * r

/-- 0 below the edge and 1 from the edge on. -/
def step (edge x : Float32) : Float32 :=
  if x < edge then 0 else 1

/-- The gradient of the corner with the permuted index `p`. -/
def gradient (p : Float32) : Vec3 :=
  let spacing := cellWidth * 2
  let origin := cellWidth * 0.5 - 1
  let j := p - 49 * floor (p * cellWidth * cellWidth)
  let column := floor (j * cellWidth)
  let row := floor (j - 7 * column)
  let x := column * spacing + origin
  let y := row * spacing + origin
  let h := 1 - x.abs - y.abs
  let fold := -(step h 0)
  let gx := x + (floor x * 2 + 1) * fold
  let gy := y + (floor y * 2 + 1) * fold
  let g : Vec3 := ⟨gx, gy, h⟩
  g * inverseSqrt (g.dot g)

/-- What one corner of the simplex contributes: `cell` is the cell of the point modulo 289,
`offset` leads from it to the corner, and `corner` leads from the corner to the point. -/
def contribution (cell offset corner : Vec3) : Float32 :=
  let p := permute (permute (permute (cell.z + offset.z) + cell.y + offset.y) + cell.x + offset.x)
  let m := greatest (0.6 - corner.dot corner) 0
  let m := m * m
  m * m * (gradient p).dot corner

/-- Simplex noise, in about the range from -1 to 1. -/
def noise (v : Vec3) : Float32 :=
  let skew := (v.x + v.y + v.z) * skewFactor
  let cell : Vec3 := ⟨floor (v.x + skew), floor (v.y + skew), floor (v.z + skew)⟩
  let unskew := (cell.x + cell.y + cell.z) * unskewFactor
  let x0 := v - cell + Vec3.splat unskew
  let g : Vec3 := ⟨step x0.y x0.x, step x0.z x0.y, step x0.x x0.z⟩
  let l := Vec3.splat 1 - g
  let i1 : Vec3 := ⟨least g.x l.z, least g.y l.x, least g.z l.y⟩
  let i2 : Vec3 := ⟨greatest g.x l.z, greatest g.y l.x, greatest g.z l.y⟩
  let x1 := x0 - i1 + Vec3.splat unskewFactor
  let x2 := x0 - i2 + Vec3.splat skewFactor
  let x3 := x0 - Vec3.splat 0.5
  let cell := cell.map mod289
  let total := 0 + contribution cell Vec3.zero x0 + contribution cell i1 x1 +
    contribution cell i2 x2 + contribution cell (Vec3.splat 1) x3
  42 * total

/-- One octave of noise at a scale, moved into the unit range. -/
def texture (p : Vec3) (scale : Float32) : Float32 :=
  0.5 * noise (p * scale) + 0.5

end Heightfield.Simplex
