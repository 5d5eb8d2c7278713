import Heightfield.Document.Value
import Heightfield.Text.Quoted

/-!
# Faults of documents

A document that does not have the expected shape is reported by a `Fault`: its cause, the position
that it is reported at, if there is one, and the path to the part that it is about.

* `Found.describe` and `Cause.describe` are the wording; it differs between the forms in which a
  document arrives.
* `Path.write` spells a path.
-/

namespace Heightfield.Document

open Heightfield.Number (Layout)

/-- A line, counted from 1, and a column. -/
structure Position where
  line : Nat
  column : Nat
  deriving DecidableEq, Repr, Inhabited

/-- The forms in which a document arrives. -/
inductive Form where
  /-- JSON text -/
  | json
  /-- YAML text -/
  | yaml
  /-- a value in memory, which has no positions -/
  | memory
  deriving DecidableEq, Repr

/-- What was found where something else was expected. -/
inductive Found where
  | null
  | bool (b : Bool)
  | int (n : Int)
  /-- a whole number beyond 64 bits -/
  | wideInt (n : Int)
  | float (x : Float)
  | text (s : String)
  | list
  | record
  /-- a value marked with a name of its own -/
  | marked

/-- How messages name what was found. -/
def Found.describe (form : Form) : Found → String
  | .null => if form = .yaml then "unit value" else "null"
  | .bool b => s!"boolean `{b}`"
  | .int n => s!"integer `{n}`"
  | .wideInt n =>
    let width := if n < 0 then "i128" else "u128"
    s!"integer `{n}` as {width}"
  | .float x =>
    let layout := if form = .yaml then Layout.withPoint else Layout.document
    s!"floating point `{layout.writeFloat x}`"
  | .text s => s!"string {Text.quoted s}"
  | .list => "sequence"
  | .record => "map"
  | .marked => "enum"

/-- Why a document does not have the expected shape. -/
inductive Cause where
  /-- a part has another type -/
  | wrongType (found : Found) (expected : String)
  /-- a part has the right type and a value out of range -/
  | wrongValue (found : Found) (expected : String)
  /-- a record lacks a required field -/
  | missing (field : String)
  /-- a record has a field twice -/
  | repeated (field : String)
  /-- a list ends too early -/
  | tooShort (length : Nat) (expected : String)
  /-- a list goes on after its last expected element -/
  | tooLong (length limit : Nat)
  /-- a whole number is beyond 64 bits where any smaller one would do -/
  | outOfRange
  /-- lists and records are nested too deeply -/
  | tooDeep
  /-- too many aliases had to be followed -/
  | tooManyAliases
  /-- a part is spelled as its form demands and stands for no value -/
  | unreadable

/-- The wording of a cause. -/
def Cause.describe (form : Form) : Cause → String
  | .wrongType found expected => s!"invalid type: {found.describe form}, expected {expected}"
  | .wrongValue found expected => s!"invalid value: {found.describe form}, expected {expected}"
  | .missing field => s!"missing field `{field}`"
  | .repeated field => s!"duplicate field `{field}`"
  | .tooShort length expected => s!"invalid length {length}, expected {expected}"
  | .tooLong length limit =>
    match form with
    | .json => "trailing characters"
    | .yaml =>
      let noun := if limit = 1 then "element" else "elements"
      s!"invalid length {length}, expected sequence of {limit} {noun}"
    | .memory => s!"invalid length {length}, expected fewer elements in array"
  | .outOfRange => "JSON number out of range"
  | .tooDeep => "recursion limit exceeded"
  | .tooManyAliases => "repetition limit exceeded"
  | .unreadable => "malformed value"

/-- What a value of any shape is, in messages. -/
def anyValue : String := "any valid JSON value"

/-- One step from a part of a document into it. -/
inductive Step where
  /-- into the field of this name -/
  | field (name : String)
  /-- into the field of a name that is no text -/
  | unnamed
  /-- into the element of this index -/
  | index (i : Nat)
  deriving DecidableEq, Repr

/-- The steps from the root to a part, the last step first. -/
abbrev Path := List Step

/-- The text of a path; the root is a point. -/
def Path.write : Path → String
  | [] => "."
  | .index i :: parent => s!"{Path.write parent}[{i}]"
  | .field name :: [] => name
  | .unnamed :: [] => "?"
  | .field name :: parent => s!"{Path.write parent}.{name}"
  | .unnamed :: parent => s!"{Path.write parent}.?"

/-- An error of shape, with the position, if there is one, and the part that it is reported for. -/
structure Fault where
  cause : Cause
  position : Option Position
  path : Path

end Heightfield.Document
