import Heightfield.Terrace.Cube
import Heightfield.Terrace.Ramp

/-!
# Terrace mesh

A terrace has a column of boxes for each texel of a heightmap, one box for each layer that is drawn
there. A box is drawn by an instance: a transformation and a colour.

* `TerraceConfig.capacity` is the number of boxes that a terrace may need, within a fixed limit.
* `TerraceMesh.boxes` lists the boxes of a heightmap: by side, row, column and layer.
* `TerraceMesh.rebuild` rebuilds the mesh from a heightmap, and `TerraceMesh.update` is the mesh
  that it leaves behind.
-/

namespace Heightfield

/-- The most instances that a mesh may hold. -/
def maxInstances : Nat := Nat.pow 2 22

/-- The measures of a terrace. -/
structure TerraceConfig where
  /-- the number of rows, and of columns -/
  resolution : Nat := 64
  /-- the side of a cell -/
  cellSize : Float32 := 0.15
  /-- the height of a layer -/
  layerHeight : Float32 := 0.1
  deriving DecidableEq, Repr, Inhabited

/-- Why a terrace cannot be made or updated. -/
inductive TerraceError where
  | noResolution
  | cellSize (x : Float32)
  | layerHeight (x : Float32)
  | tooLarge (resolution layers faces : Nat)
  | byteCount (found resolution : Nat)
  deriving DecidableEq, Repr

/-- The wording of the error. -/
def TerraceError.message : TerraceError → String
  | .noResolution => "terrace resolution must be positive"
  | .cellSize x =>
    let text := Number.Layout.plain.writeFloat32 x
    s!"cell size must be finite and positive, got {text}"
  | .layerHeight x =>
    let text := Number.Layout.plain.writeFloat32 x
    s!"layer height must be finite and positive, got {text}"
  | .tooLarge n layers faces =>
    s!"a {n}x{n} terrace with {layers} layers on {faces} face(s) exceeds {maxInstances} instances"
  | .byteCount found n =>
    let expected := n * n * 4
    s!"heightmap has {found} bytes; a {n}x{n} terrace needs {expected}"

namespace TerraceConfig

/-- Checks the resolution, the cell size and the layer height. -/
def validate (c : TerraceConfig) : Except TerraceError Unit :=
  if c.resolution = 0 then .error .noResolution
  else if !c.cellSize.isFinite || c.cellSize ≤ 0 then .error (.cellSize c.cellSize)
  else if !c.layerHeight.isFinite || c.layerHeight ≤ 0 then .error (.layerHeight c.layerHeight)
  else .ok ()

/-- The product of two counts, if a word of 64 bits can hold it. -/
def product? (a b : Nat) : Option Nat :=
  if a * b < UInt64.size then some (a * b) else none

/-- The number of boxes with every layer of every cell drawn, if it is within the limit. It is
multiplied out in words of 64 bits, and nothing comes of a product that does not fit. -/
def boxCount? (resolution layers faces : Nat) : Option Nat :=
  (((product? resolution resolution).bind (product? · layers)).bind (product? · faces)).filter
    (· ≤ maxInstances)

/-- The number of instances with every layer of every cell drawn. -/
def capacity (c : TerraceConfig) (ramp : ColorRamp) (faces : FaceMode) :
    Except TerraceError Nat := do
  c.validate
  match boxCount? c.resolution ramp.layerCount faces.faces.length with
  | some n => return n
  | none => throw (.tooLarge c.resolution ramp.layerCount faces.faces.length)

/-- The distance from the middle of the grid to its edge. -/
def halfExtent (c : TerraceConfig) : Float32 :=
  Float32.ofNat c.resolution * c.cellSize / 2

/-- The middle of the box of a layer in column `i` and row `j`, on the flat grid. -/
def center (c : TerraceConfig) (i j layer : Nat) : Vec3 :=
  ⟨Float32.ofNat i * c.cellSize - c.halfExtent + c.cellSize / 2,
    Float32.ofNat layer * c.layerHeight + c.layerHeight / 2,
    Float32.ofNat j * c.cellSize - c.halfExtent + c.cellSize / 2⟩

/-- The measures of a box. -/
def boxSize (c : TerraceConfig) : Vec3 :=
  ⟨c.cellSize, c.layerHeight, c.cellSize⟩

end TerraceConfig

/-- A box of a terrace. -/
structure TerraceBox where
  face : Option CubeFace
  /-- the row -/
  j : Nat
  /-- the column -/
  i : Nat
  layer : Nat
  deriving DecidableEq, Repr

/-- What a box is drawn with: the columns of its transformation, and its colour. -/
structure Instance where
  axisX : Vec3
  axisY : Vec3
  axisZ : Vec3
  /-- the place of its middle -/
  offset : Vec3
  color : Color
  deriving DecidableEq, Repr, Inhabited

/-- A terrace mesh. Its buffer has room for every layer of every cell; only the first entries are
of the last update. -/
structure TerraceMesh where
  config : TerraceConfig
  ramp : ColorRamp
  faces : FaceMode
  buffer : Array Instance
  /-- how many entries of the buffer are of the last update -/
  activeCount : Nat
  /-- how many instances of each layer there are -/
  layerCounts : Array Nat
  deriving DecidableEq, Repr

namespace TerraceMesh

/-- A mesh without instances. -/
def create (c : TerraceConfig) (ramp : ColorRamp) (faces : FaceMode) :
    Except TerraceError TerraceMesh := do
  let capacity ← c.capacity ramp faces
  return ⟨c, ramp, faces, Array.replicate capacity default, 0, Array.replicate ramp.layerCount 0⟩

/-- The most instances that the mesh may need. -/
def capacity (m : TerraceMesh) : Nat := m.buffer.size

/-- The instances of the last update. -/
def instances (m : TerraceMesh) : List Instance := (m.buffer.extract 0 m.activeCount).toList

/-- The height of the terrain in column `i` and row `j`: the red channel of the texel. -/
def heightAt (resolution : Nat) (pixels : Array UInt8) (i j : Nat) : Float32 :=
  Number.ofByte (pixels[(j * resolution + i) * 4]?.getD 0)

/-- The boxes of a heightmap, by side, row, column and layer. -/
def boxes (m : TerraceMesh) (pixels : Array UInt8) : List TerraceBox :=
  let n := m.config.resolution
  m.faces.faces.flatMap fun face =>
    (List.range n).flatMap fun j =>
      (List.range n).flatMap fun i =>
        (List.range (m.ramp.layersAt (heightAt n pixels i j))).map fun layer => ⟨face, j, i, layer⟩

/-- How a side is turned, and how far it is pushed out. -/
def placement (c : TerraceConfig) : Option CubeFace → Rotation × Vec3
  | some face => (face.rotation, face.normal * c.halfExtent)
  | none => (.identity, Vec3.zero)

/-- The instance that draws a box. -/
def instanceOf (c : TerraceConfig) (ramp : ColorRamp) (b : TerraceBox) : Instance :=
  let (rotation, push) := placement c b.face
  let (axisX, axisY, axisZ) := rotation.scaledColumns c.boxSize
  { axisX, axisY, axisZ
    offset := rotation.apply (c.center b.i b.j b.layer) + push
    color := ramp.colorOf b.layer }

/-- Takes all instances away; the buffer keeps its entries. -/
def clear (m : TerraceMesh) : TerraceMesh :=
  { m with activeCount := 0, layerCounts := m.layerCounts.map fun _ => 0 }

/-- Writes the instance of a box behind the instances that are there. -/
def draw (m : TerraceMesh) (b : TerraceBox) : TerraceMesh :=
  { m with
    buffer := m.buffer.setIfInBounds m.activeCount (instanceOf m.config m.ramp b)
    activeCount := m.activeCount + 1
    layerCounts := m.layerCounts.modify b.layer (· + 1) }

/-- The number of bytes of a heightmap, four for each texel, counted in a word of 64 bits. -/
def byteCount (resolution : Nat) : Nat :=
  resolution * resolution * 4 % UInt64.size

/-- Draws the boxes of one cell from the lowest layer up, as many as the height asks for. -/
def drawCell (face : Option CubeFace) (j i layers : Nat) (m : TerraceMesh) : TerraceMesh :=
  (List.range layers).foldl (fun m layer => m.draw ⟨face, j, i, layer⟩) m

/-- Rebuilds the mesh from a heightmap of the configured resolution: side by side, row by row and
cell by cell. Gives the number of instances. A heightmap of another size is refused, and the mesh
stays as it is. -/
def rebuild (m : TerraceMesh) (pixels : Array UInt8) : Except TerraceError Nat × TerraceMesh :=
  let n := m.config.resolution
  if pixels.size = byteCount n then
    let drawn := m.faces.faces.foldl (fun drawn face =>
      (List.range n).foldl (fun drawn j =>
        (List.range n).foldl (fun drawn i =>
          drawn.drawCell face j i (m.ramp.layersAt (heightAt n pixels i j)))
          drawn) drawn) m.clear
    (.ok drawn.activeCount, drawn)
  else (.error (.byteCount pixels.size n), m)

/-- The mesh of a heightmap, if the heightmap is not refused. -/
def update (m : TerraceMesh) (pixels : Array UInt8) : Except TerraceError TerraceMesh :=
  let (outcome, rebuilt) := m.rebuild pixels
  outcome.map fun _ => rebuilt

end TerraceMesh
end Heightfield
