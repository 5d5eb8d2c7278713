import Heightfield.Number.Layout
import Heightfield.Terrace.Color

/-!
# Colour ramps

A ramp is a list of colours at heights in the unit range, sorted by height. Each stop is a layer of
a terrace: the lowest one is always drawn, a higher one when the terrain reaches its height. So the
layers that are drawn are always the first ones, and higher terrain has no fewer of them.
-/

namespace Heightfield

/-- The most stops that a ramp may have. -/
def maxLayers : Nat := 8

/-- A colour at a height. -/
structure ColorStop where
  position : Float32
  color : Color
  deriving DecidableEq, Repr, Inhabited

/-- Why stops do not make a ramp. -/
inductive RampError where
  | empty
  | tooMany (count : Nat)
  | outside (position : Float32)
  deriving DecidableEq, Repr

/-- The wording of the error. -/
def RampError.message : RampError → String
  | .empty => "color ramp needs at least one stop"
  | .tooMany count => s!"color ramp has {count} stops; at most {maxLayers} layers are supported"
  | .outside position =>
    let x := Number.Layout.plain.writeFloat32 position
    s!"color stop position {x} is outside [0, 1]"

/-- A colour ramp: at least one stop. -/
structure ColorRamp where
  /-- the stop of the layer that is always drawn -/
  base : ColorStop
  /-- the stops above it, sorted by height -/
  upper : List ColorStop
  deriving DecidableEq, Repr

namespace ColorRamp

/-- The stops from the lowest to the highest. -/
def stops (r : ColorRamp) : List ColorStop := r.base :: r.upper

/-- The number of layers. -/
def layerCount (r : ColorRamp) : Nat := r.stops.length

/-- The stop has a height in the unit range. -/
def isInside (s : ColorStop) : Bool :=
  s.position.isFinite && 0 ≤ s.position && s.position ≤ 1

/-- Stops sorted by height; of equal ones the first given stays first. -/
def sorted (stops : List ColorStop) : List ColorStop :=
  stops.mergeSort fun a b => Number.orderKey a.position ≤ Number.orderKey b.position

/-- The ramp of at least one and at most `maxLayers` stops, all in the unit range. -/
def ofStops (stops : List ColorStop) : Except RampError ColorRamp :=
  if maxLayers < stops.length then .error (.tooMany stops.length)
  else match stops.find? fun s => !isInside s with
    | some s => .error (.outside s.position)
    | none =>
      match sorted stops with
      | [] => .error .empty
      | base :: upper => .ok ⟨base, upper⟩

/-- A layer is drawn at a height. -/
def isDrawn (r : ColorRamp) (layer : Nat) (height : Float32) : Bool :=
  layer = 0 || (r.stops[layer]?).any fun s => s.position ≤ height

/-- How many layers are drawn at a height: they are the first ones. -/
def layersAt (r : ColorRamp) (height : Float32) : Nat :=
  1 + (r.upper.takeWhile fun s => s.position ≤ height).length

/-- The colour of a layer. -/
def colorOf (r : ColorRamp) (layer : Nat) : Color :=
  (r.stops[layer]?.getD r.base).color

/-- Four layers from deep blue to sand. -/
def standard : ColorRamp :=
  ⟨⟨0, 0.106, 0.149, 0.231⟩,
    [⟨0.25, 0.180, 0.384, 0.463⟩, ⟨0.5, 0.471, 0.667, 0.510⟩, ⟨0.75, 0.937, 0.871, 0.631⟩]⟩

instance : Inhabited ColorRamp := ⟨standard⟩

theorem layersAt_le (r : ColorRamp) (height : Float32) : r.layersAt height ≤ r.layerCount := by
  have := (List.takeWhile_prefix (fun s : ColorStop => decide (s.position ≤ height))
    (l := r.upper)).length_le
  simp only [layersAt, layerCount, stops, List.length_cons]
  omega

end ColorRamp
end Heightfield
