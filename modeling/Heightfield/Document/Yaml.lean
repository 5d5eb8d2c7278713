import Heightfield.Document.Yaml.Core

/-!
# YAML text

Reading of YAML text into located documents. A part is reported at its own start, whatever is wrong
with it; only an element too many is reported at the list that holds it, and a repeated key at its
record. A list never stands for a record.

An alias stays an alias. All together a hundred times as many of them may be followed as the
document has scalars, aliases and ends of lists and records.

* `Part.toNode` is the located form of a part.
* `Yaml.parse?` reads a whole text.
-/

namespace Heightfield.Document.Yaml

namespace Part

/-- The part, and the parts within it, with their anchors. -/
def anchored : Part → List (Nat × Part)
  | .alias .. => []
  | .scalar p style s => own p (.scalar p style s)
  | .list p items => own p (.list p items) ++ anchoredItems items
  | .record p fields => own p (.record p fields) ++ anchoredFields fields
where
  /-- the anchor of a part itself -/
  own (p : Properties) (part : Part) : List (Nat × Part) := p.anchor.toList.map (·, part)
  /-- the anchors within elements -/
  anchoredItems : List Part → List (Nat × Part)
    | [] => []
    | item :: rest => item.anchored ++ anchoredItems rest
  /-- the anchors within fields -/
  anchoredFields : List (Part × Part) → List (Nat × Part)
    | [] => []
    | (key, value) :: rest => key.anchored ++ value.anchored ++ anchoredFields rest

/-- The number of scalars and aliases, and of starts and ends of lists and records. -/
def extent : Part → Nat
  | .alias .. => 1
  | .scalar .. => 1
  | .list _ items => extentItems items + 2
  | .record _ fields => extentFields fields + 2
where
  /-- the extent of elements -/
  extentItems : List Part → Nat
    | [] => 0
    | item :: rest => item.extent + extentItems rest
  /-- the extent of fields -/
  extentFields : List (Part × Part) → Nat
    | [] => 0
    | (key, value) :: rest => key.extent + value.extent + extentFields rest

/-- The place of a part that starts at a position, within the list or record at another one. -/
def placeOf (position around : Position) : Place := ⟨position, position, around⟩

mutual

/-- The located form of a part within the list or record at a position. -/
def toNode (around : Position) : Part → Node
  | .alias position anchor => .alias (placeOf position around) anchor
  | .scalar p style s => .scalar (placeOf p.position around) (reading p.tag style s)
  | .list p items =>
    .list (placeOf p.position around) (isLocal p.tag) (toNodes p.position items)
  | .record p fields =>
    .record (placeOf p.position around) (isLocal p.tag) (toFields p.position fields)

/-- The located forms of elements. -/
def toNodes (around : Position) : List Part → List Node
  | [] => []
  | item :: rest => item.toNode around :: toNodes around rest

/-- The located forms of fields. -/
def toFields (around : Position) : List (Part × Part) → List (Node × Node)
  | [] => []
  | (key, value) :: rest => (key.toNode around, value.toNode around) :: toFields around rest

end

/-- The located document of a whole text. Of several parts with one anchor the last is meant. -/
def toDocument (root : Part) : Located where
  root := root.toNode ⟨1, 1⟩
  scope := {
    targets := root.anchored.reverse.map fun (anchor, part) => (anchor, part.toNode ⟨1, 1⟩)
    limit := 100 * root.extent
    listsAsRecords := false }

end Part

/-- The document that a text holds; `none` if the text is not well-formed. -/
def parse? (s : String) : Option Located := do
  let tokens ← tokens? s.toList
  let root ← Part.document? tokens
  return root.toDocument

end Heightfield.Document.Yaml
