import Heightfield.Number.Rounding

/-!
# Vectors

Positions and directions: three single-precision numbers, with the operations that patterns are
made of. Sums are taken from left to right, each with its own rounding.
-/

namespace Heightfield

/-- A vector of three numbers. -/
structure Vec3 where
  x : Float32
  y : Float32
  z : Float32
  deriving DecidableEq, Repr, Inhabited

namespace Vec3

/-- The vector with three equal components. -/
def splat (a : Float32) : Vec3 := ⟨a, a, a⟩

/-- The origin. -/
def zero : Vec3 := ⟨0, 0, 0⟩

/-- Applies a function to each component. -/
def map (f : Float32 → Float32) (v : Vec3) : Vec3 := ⟨f v.x, f v.y, f v.z⟩

/-- Applies a function to the components of two vectors. -/
def zip (f : Float32 → Float32 → Float32) (v w : Vec3) : Vec3 := ⟨f v.x w.x, f v.y w.y, f v.z w.z⟩

/-- The componentwise sum. -/
def add (v w : Vec3) : Vec3 := zip (· + ·) v w

/-- The componentwise difference. -/
def sub (v w : Vec3) : Vec3 := zip (· - ·) v w

/-- The vector scaled by a number. -/
def scale (v : Vec3) (a : Float32) : Vec3 := v.map (· * a)

instance : Add Vec3 := ⟨add⟩
instance : Sub Vec3 := ⟨sub⟩
instance : HMul Vec3 Float32 Vec3 := ⟨scale⟩

/-- The dot product. -/
def dot (v w : Vec3) : Float32 := v.x * w.x + v.y * w.y + v.z * w.z

/-- The cross product. -/
def cross (v w : Vec3) : Vec3 :=
  ⟨v.y * w.z - v.z * w.y, v.z * w.x - v.x * w.z, v.x * w.y - v.y * w.x⟩

/-- The Euclidean length. -/
def length (v : Vec3) : Float32 := (v.dot v).sqrt

@[simp] theorem splat_x (a : Float32) : (splat a).x = a := rfl

@[simp] theorem splat_y (a : Float32) : (splat a).y = a := rfl

@[simp] theorem splat_z (a : Float32) : (splat a).z = a := rfl

end Vec3
end Heightfield
