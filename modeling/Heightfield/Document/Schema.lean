import Heightfield.Document.Reading

/-!
# Record schemas

A `Schema` lists the fields of a record type and how each is read. A document part is read either
as a record, by name, or, where the form of the document admits it, as a list, by the order of the
declaration.

Fields are read in the order of the text. A repeated field is reported when it is met, a missing
one when the record has been read completely; of several missing fields the first declared one is
reported.
-/

namespace Heightfield.Document

/-- A field of a record type `δ`. -/
structure Field (δ : Type) where
  /-- the name that messages use -/
  name : String
  /-- further names under which the field may be written -/
  aliases : List String
  /-- the record is refused without it -/
  required : Bool
  /-- reads the field into a record -/
  read : Node → Path → δ → Reading δ

/-- A record type: how messages name it, its fields, and the record before any field is read. -/
structure Schema (δ : Type) where
  name : String
  fields : List (Field δ)
  blank : δ

variable {δ : Type}

/-- A field that must be present. -/
def Field.needed {α : Type} (name : String) (decode : Node → Path → Reading α)
    (put : α → δ → δ) : Field δ :=
  ⟨name, [], true, fun n path d => (put · d) <$> decode n path⟩

/-- A field that keeps its default when it is absent. -/
def Field.optional {α : Type} (name : String) (aliases : List String)
    (decode : Node → Path → Reading α) (put : α → δ → δ) : Field δ :=
  ⟨name, aliases, false, fun n path d => (put · d) <$> decode n path⟩

/-- The field goes by this name. -/
def Field.answers (f : Field δ) (name : String) : Bool :=
  f.name = name || f.aliases.contains name

namespace Schema

/-- Reads fields by name. `seen` holds the names of the fields that have been read; fields that the
schema does not know are passed over. -/
def readFields (s : Schema δ) (path : Path) :
    List (Node × Node) → List String → δ → Reading (List String × δ)
  | [], seen, d => return (seen, d)
  | (key, n) :: rest, seen, d => do
    let name ← key.textAs "field identifier" path
    match s.fields.find? (·.answers name) with
    | none => readFields s path rest seen d
    | some f =>
      if seen.contains f.name then throw ⟨.repeated f.name, key.place.surplus, path⟩
      else
        let d ← f.read n (key.step :: path) d
        readFields s path rest (f.name :: seen) d

/-- The first required field that has not been read. -/
def lacking? (s : Schema δ) (seen : List String) : Option String :=
  (s.fields.find? fun f => f.required && !seen.contains f.name).map (·.name)

/-- Reads fields by position, counting from `i`. -/
def readPositions (s : Schema δ) (p : Place) (path : Path) :
    Nat → List (Field δ) → List Node → δ → Reading δ
  | _, [], _, d => return d
  | i, f :: fs, [], d => do
    if f.required then
      throw ⟨.tooShort i s!"{s.name} with {s.fields.length} elements", p.closing, path⟩
    else readPositions s p path (i + 1) fs [] d
  | i, f :: fs, n :: ns, d => do
    let d ← f.read n (.index i :: path) d
    readPositions s p path (i + 1) fs ns d

/-- Reads fields by name and checks that none is lacking. -/
def readRecord (s : Schema δ) (p : Place) (path : Path) (fields : List (Node × Node)) :
    Reading δ := do
  let (seen, d) ← s.readFields path fields [] s.blank
  match s.lacking? seen with
  | some field => throw ⟨.missing field, p.closing, path⟩
  | none => return d

/-- Reads fields by position and checks that there are no further elements. -/
def readList (s : Schema δ) (p : Place) (path : Path) (ns : List Node) : Reading δ := do
  let d ← s.readPositions p path 0 s.fields ns s.blank
  if ns.length ≤ s.fields.length then return d
  else throw (Node.tooLong p path ns s.fields.length)

/-- Reads a part of a document as a record of the schema. -/
def decode (s : Schema δ) (n : Node) (path : Path) : Reading δ := do
  let n ← n.resolve
  match n with
  | .record p _ fields => s.readRecord p path fields
  | .list p _ ns =>
    if (← read).listsAsRecords then s.readList p path ns else throw (n.wrongType path s.name)
  | .scalar p sc =>
    if sc.vacant then s.readRecord p path [] else throw (n.wrongType path s.name)
  | .alias .. => throw (n.wrongType path s.name)

end Schema
end Heightfield.Document
