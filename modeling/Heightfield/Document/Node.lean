import Heightfield.Document.Fault

/-!
# Located documents

A document as it was written: every part with its place in the text. A scalar keeps all the ways
in which a field may want to read it, since the forms differ in what they accept (one form lets a
bare `5` count as a text, another does not).

A part may be an alias, which stands for another part of the document. Aliases are kept as they
are: a part may hold an alias of itself, and one that nobody reads is never followed. What they
stand for is in the `Scope` of the document.

* `Located` is a document with its scope.
* `Located.ofValue` makes a document of a value in memory.
* `Located.isReadable` says that every part of a document stands for a value.
-/

namespace Heightfield.Document

/-- The positions that messages about one part of a document refer to. -/
structure Place where
  /-- where the part is entered -/
  opening : Position
  /-- where it has been read completely -/
  closing : Position
  /-- where it is reported that the part should not be there at all -/
  surplus : Position
  deriving DecidableEq, Repr, Inhabited

/-- A scalar, read in every way in which a field may want it. -/
structure Scalar where
  /-- how messages name it, or what is wrong with it whatever is expected -/
  found : Except Cause Found
  /-- its text, if it may stand for one -/
  text : Option String
  /-- its number, if it may stand for one -/
  real : Option Float32
  /-- its whole number, if it may stand for a count -/
  count : Option Int
  /-- it means that an optional field has no value; an error if that cannot be said -/
  absent : Except Cause Bool
  /-- it may stand for an empty list or record -/
  vacant : Bool
  /-- its value, or why it has none -/
  value : Except Cause Value

namespace Scalar

/-- The readings of a scalar of a form that tells texts from numbers by their quotes. -/
def strict (v : Value) (found : Found) : Scalar where
  found := .ok found
  text := match v with
    | .text s => some s
    | _ => none
  real := match v with
    | .int n => some (if n < 0 then -(Float32.ofNat n.natAbs) else Float32.ofNat n.toNat)
    | .float x => some x.toFloat32
    | _ => none
  count := match v with
    | .int n => some n
    | _ => none
  absent := match v with
    | .null => .ok true
    | _ => .ok false
  vacant := false
  value := .ok v

/-- A scalar that stands for no value. -/
def unreadable : Scalar where
  found := .error .unreadable
  text := none
  real := none
  count := none
  absent := .error .unreadable
  vacant := false
  value := .error .unreadable

/-- The scalar stands for a value, of whatever type. -/
def isReadable (s : Scalar) : Bool :=
  match s.found with
  | .error .unreadable => false
  | _ => true

end Scalar

/-- A part of a document. -/
inductive Node where
  | scalar (place : Place) (s : Scalar)
  /-- a list; `marked` says that it carries a name of its own -/
  | list (place : Place) (marked : Bool) (items : List Node)
  /-- a record, each field with its key, in the order of the text, repeated ones included -/
  | record (place : Place) (marked : Bool) (fields : List (Node × Node))
  /-- what stands for the part with this number -/
  | alias (place : Place) (anchor : Nat)

namespace Node

/-- The place of the part. -/
def place : Node → Place
  | .scalar p _ => p
  | .list p _ _ => p
  | .record p _ _ => p
  | .alias p _ => p

/-- How messages name the part, or what is wrong with it whatever is expected. An alias has to be
followed before anything can be said. -/
def found : Node → Except Cause Found
  | .scalar _ s => s.found
  | .list .. => .ok .list
  | .record .. => .ok .record
  | .alias .. => .error .unreadable

/-- Where a message about the type of the part points: behind a scalar, before a bracket. -/
def blame : Node → Position
  | .scalar p _ => p.closing
  | .list p _ _ => p.opening
  | .record p _ _ => p.opening
  | .alias p _ => p.opening

/-- The fault that the part has the wrong type. -/
def wrongType (n : Node) (path : Path) (expected : String) : Fault :=
  let cause := match n.found with
    | .ok found => .wrongType found expected
    | .error cause => cause
  ⟨cause, n.blame, path⟩

/-- Whether the part means that there is no value. -/
def isAbsent : Node → Except Cause Bool
  | .scalar _ s => s.absent
  | _ => .ok false

/-- How paths go on into the field of a key. Only a text that stands there itself names a step. -/
def step : Node → Step
  | .scalar _ s =>
    match s.text with
    | some name => .field name
    | none => .unnamed
  | _ => .unnamed

/-- The fault that a list has more elements than expected. -/
def tooLong (p : Place) (path : Path) (ns : List Node) (limit : Nat) : Fault :=
  let position := match ns[limit]? with
    | some extra => extra.place.surplus
    | none => p.closing
  ⟨.tooLong ns.length limit, position, path⟩

mutual

/-- Every scalar of the part stands for a value. -/
def isReadable : Node → Bool
  | .scalar _ s => s.isReadable
  | .list _ _ items => isReadableItems items
  | .record _ _ fields => isReadableFields fields
  | .alias .. => true

/-- Every scalar of the elements stands for a value. -/
def isReadableItems : List Node → Bool
  | [] => true
  | n :: rest => n.isReadable && isReadableItems rest

/-- Every scalar of the fields, their keys included, stands for a value. -/
def isReadableFields : List (Node × Node) → Bool
  | [] => true
  | (key, n) :: rest => key.isReadable && n.isReadable && isReadableFields rest

end

end Node

/-- What the reading of a part depends on besides the part. -/
structure Scope where
  /-- the parts that aliases stand for, by their numbers -/
  targets : List (Nat × Node)
  /-- the number of aliases that may be followed all together -/
  limit : Nat
  /-- a list may stand for a record, whose fields it holds in the order of their declaration -/
  listsAsRecords : Bool

/-- The scope of a form without aliases. -/
def Scope.strict : Scope := ⟨[], 0, true⟩

/-- A document. -/
structure Located where
  root : Node
  scope : Scope

/-- Every part of the document stands for a value. -/
def Located.isReadable (d : Located) : Bool := d.root.isReadable

/-! ## Values as documents -/

namespace Node

mutual

/-- A value in memory as a part without positions. -/
def ofValue : Value → Node
  | .null => .scalar default (.strict .null .null)
  | .bool b => .scalar default (.strict (.bool b) (.bool b))
  | .int n => .scalar default (.strict (.int n) (.int n))
  | .float x => .scalar default (.strict (.float x) (.float x))
  | .text s => .scalar default (.strict (.text s) (.text s))
  | .list items => .list default false (ofItems items)
  | .record fields => .record default false (ofFields fields)

/-- The elements of a list as parts. -/
def ofItems : List Value → List Node
  | [] => []
  | v :: rest => ofValue v :: ofItems rest

/-- The fields of a record as parts. -/
def ofFields : List (String × Value) → List (Node × Node)
  | [] => []
  | (k, v) :: rest => (.scalar default (.strict (.text k) (.text k)), ofValue v) :: ofFields rest

end

end Node

/-- A value in memory as a document without positions. -/
def Located.ofValue (v : Value) : Located := ⟨.ofValue v, .strict⟩

end Heightfield.Document
