import Heightfield.Document.Value

/-!
# Outlines

Documents that are written for people: each field and each element on a line of its own, indented by
two blanks for each level. The fields of a record keep their order.
-/

namespace Heightfield.Document

open Heightfield.Number (Layout)

/-- A document to be written. -/
inductive Outline where
  | whole (n : Nat)
  | number (x : Float32)
  | text (s : String)
  | list (items : List Outline)
  | record (fields : List (String × Outline))

namespace Outline

/-- A line feed and the indentation of a level. -/
def newline (level : Nat) : List Char :=
  '\n' :: List.replicate (2 * level) ' '

mutual

/-- The document; its first line is not indented. A number that is not finite has no value. -/
def write (level : Nat) : Outline → List Char
  | .whole n => Nat.toDigits 10 n
  | .number x => (if x.isFinite then Layout.document32.writeFloat32 x else "null").toList
  | .text s => Value.writeText s
  | .list [] => ['[', ']']
  | .list items => '[' :: writeItems (level + 1) items ++ newline level ++ [']']
  | .record [] => ['\x7b', '\x7d']
  | .record fields => '\x7b' :: writeFields (level + 1) fields ++ newline level ++ ['\x7d']

/-- Elements on lines of their own, with commas between them. -/
def writeItems (level : Nat) : List Outline → List Char
  | [] => []
  | [v] => newline level ++ v.write level
  | v :: rest => newline level ++ v.write level ++ ',' :: writeItems level rest

/-- Fields on lines of their own, with commas between them. -/
def writeFields (level : Nat) : List (String × Outline) → List Char
  | [] => []
  | [(k, v)] => newline level ++ Value.writeText k ++ ':' :: ' ' :: v.write level
  | (k, v) :: rest =>
    newline level ++ Value.writeText k ++ ':' :: ' ' :: v.write level ++
      ',' :: writeFields level rest

end

/-- The text of a document, ending in a line feed. -/
def display (o : Outline) : String :=
  String.ofList (o.write 0 ++ ['\n'])

end Outline
end Heightfield.Document
