import Heightfield.Number.Layout

/-!
# Document values

The value of a structured document, free of the form it was written in. Whole numbers and
fractional ones stay apart. The fields of a record are sorted by key and each key occurs once, so
equal records are equal terms.

* `Value.field?` looks a key up.
* `Value.compact` writes a value on one line without blanks.
-/

namespace Heightfield.Document

open Heightfield.Number (Layout)

/-- A document value. -/
inductive Value where
  /-- no value -/
  | null
  /-- a truth value -/
  | bool (b : Bool)
  /-- a whole number -/
  | int (n : Int)
  /-- a finite fractional number -/
  | float (x : Float)
  /-- a text -/
  | text (s : String)
  /-- a list of values -/
  | list (items : List Value)
  /-- a record; its fields are sorted by key -/
  | record (fields : List (String × Value))
  deriving Inhabited

namespace Value

/-- Puts a field at its place among sorted fields; a field of the same key is replaced. -/
def insertField (key : String) (v : Value) : List (String × Value) → List (String × Value)
  | [] => [(key, v)]
  | (k, w) :: rest =>
    if key < k then (key, v) :: (k, w) :: rest
    else if k = key then (key, v) :: rest
    else (k, w) :: insertField key v rest

/-- A record from fields in any order; of several fields with one key the last counts. -/
def ofFields (fields : List (String × Value)) : Value :=
  .record (fields.foldl (fun sorted f => insertField f.1 f.2 sorted) [])

/-- The field of a record; other values have none. -/
def field? (key : String) : Value → Option Value
  | .record fields => fields.lookup key
  | _ => none

/-- The number nearest to a numeric value. -/
def real? : Value → Option Float
  | .int n => some (Float.ofInt n)
  | .float x => some x
  | _ => none

/-- One character of a text between double quotes. -/
def escape (c : Char) : List Char :=
  match c with
  | '"' => ['\\', '"']
  | '\\' => ['\\', '\\']
  | '\x08' => ['\\', 'b']
  | '\x0c' => ['\\', 'f']
  | '\n' => ['\\', 'n']
  | '\r' => ['\\', 'r']
  | '\t' => ['\\', 't']
  | _ =>
    if c.toNat < 0x20 then
      let ds := Nat.toDigits 16 c.toNat
      ['\\', 'u'] ++ List.replicate (4 - ds.length) '0' ++ ds
    else [c]

/-- A text between double quotes. -/
def writeText (s : String) : List Char :=
  '"' :: s.toList.flatMap escape ++ ['"']

mutual

/-- The value on one line. -/
def write : Value → List Char
  | .null => "null".toList
  | .bool b => (if b then "true" else "false").toList
  | .int n => (toString n).toList
  | .float x => (if x.isFinite then Layout.document.writeFloat x else "null").toList
  | .text s => writeText s
  | .list items => '[' :: writeItems items ++ [']']
  | .record fields => '\x7b' :: writeFields fields ++ ['\x7d']

/-- Values with commas between them. -/
def writeItems : List Value → List Char
  | [] => []
  | [v] => v.write
  | v :: rest => v.write ++ ',' :: writeItems rest

/-- Fields with commas between them. -/
def writeFields : List (String × Value) → List Char
  | [] => []
  | [(k, v)] => writeText k ++ ':' :: v.write
  | (k, v) :: rest => writeText k ++ ':' :: (v.write ++ ',' :: writeFields rest)

end

/-- The value on one line without blanks. -/
def compact (v : Value) : String :=
  String.ofList v.write

end Value
end Heightfield.Document
