import Heightfield.Pattern.Vec3

/-!
# Faces of a cube

A terrace is one flat grid, or the same grid on all six sides of a cube. Each side rotates the grid
so that its upward direction becomes the normal of the side.
-/

namespace Heightfield

/-- A side of the cube. -/
inductive CubeFace where
  | posX | negX | posY | negY | posZ | negZ
  deriving DecidableEq, Repr, Inhabited

/-- A rotation, by the rows of its matrix. -/
structure Rotation where
  row0 : Vec3
  row1 : Vec3
  row2 : Vec3
  deriving DecidableEq, Repr

namespace Rotation

/-- The rotation that changes nothing. -/
def identity : Rotation := ⟨⟨1, 0, 0⟩, ⟨0, 1, 0⟩, ⟨0, 0, 1⟩⟩

/-- The rotated vector. -/
def apply (r : Rotation) (v : Vec3) : Vec3 := ⟨r.row0.dot v, r.row1.dot v, r.row2.dot v⟩

/-- The matrix with its columns scaled, one column after the other. -/
def scaledColumns (r : Rotation) (s : Vec3) : Vec3 × Vec3 × Vec3 :=
  (⟨r.row0.x * s.x, r.row1.x * s.x, r.row2.x * s.x⟩,
    ⟨r.row0.y * s.y, r.row1.y * s.y, r.row2.y * s.y⟩,
    ⟨r.row0.z * s.z, r.row1.z * s.z, r.row2.z * s.z⟩)

end Rotation

namespace CubeFace

/-- All sides in their fixed order. -/
def all : List CubeFace := [.posX, .negX, .posY, .negY, .posZ, .negZ]

/-- The direction that a side looks in. -/
def normal : CubeFace → Vec3
  | .posX => ⟨1, 0, 0⟩
  | .negX => ⟨-1, 0, 0⟩
  | .posY => ⟨0, 1, 0⟩
  | .negY => ⟨0, -1, 0⟩
  | .posZ => ⟨0, 0, 1⟩
  | .negZ => ⟨0, 0, -1⟩

/-- The rotation that turns the upward direction into the normal. -/
def rotation : CubeFace → Rotation
  | .posX => ⟨⟨0, 1, 0⟩, ⟨-1, 0, 0⟩, ⟨0, 0, 1⟩⟩
  | .negX => ⟨⟨0, -1, 0⟩, ⟨1, 0, 0⟩, ⟨0, 0, 1⟩⟩
  | .posY => .identity
  | .negY => ⟨⟨1, 0, 0⟩, ⟨0, -1, 0⟩, ⟨0, 0, -1⟩⟩
  | .posZ => ⟨⟨1, 0, 0⟩, ⟨0, 0, -1⟩, ⟨0, 1, 0⟩⟩
  | .negZ => ⟨⟨1, 0, 0⟩, ⟨0, 0, 1⟩, ⟨0, -1, 0⟩⟩

end CubeFace

/-- How many sides a terrace has. -/
inductive FaceMode where
  /-- one flat grid -/
  | single
  /-- the same grid on the six sides of a cube, pushed out by half its extent -/
  | cube
  deriving DecidableEq, Repr, Inhabited

namespace FaceMode

/-- The name of a mode. -/
def name : FaceMode → String
  | .single => "single"
  | .cube => "cube"

/-- The sides of the terrace; the flat grid is no side of a cube. -/
def faces : FaceMode → List (Option CubeFace)
  | .single => [none]
  | .cube => CubeFace.all.map some

end FaceMode
end Heightfield
