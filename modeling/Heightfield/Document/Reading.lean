import Heightfield.Document.Node

/-!
# Reading of documents

A part of a document is read as what a field expects: a text, a number, a list, a table, or a value
of any shape. A reading step fails with a `Fault`, or it yields a result; it may follow aliases,
and it counts how many have been followed so far.

* `Node.resolve` follows an alias.
* `Node.text`, `Node.real`, `Node.count`, `Node.optional`, `Node.items`, `Node.pair` and
  `Node.textTable` are the typed readings.
* `Node.value` reads a value of any shape.
* `Located.read` reads a whole document.

What no field asks for is passed over: it is not read, and its aliases are not followed.
-/

namespace Heightfield.Document

/-- A reading step: within a scope it counts the aliases that have been followed. -/
abbrev Reading := ReaderT Scope (StateT Nat (Except Fault))

/-- Reads a whole document. -/
def Located.read {α : Type} (d : Located) (decode : Node → Path → Reading α) : Except Fault α :=
  ((decode d.root []).run d.scope).run' 0

namespace Node

/-- The part itself, or the part that it stands for. -/
def resolve (n : Node) : Reading Node := do
  match n with
  | .alias _ anchor =>
    let scope ← read
    let followed ← get
    if scope.limit ≤ followed then throw ⟨.tooManyAliases, none, []⟩
    set (followed + 1)
    return (scope.targets.lookup anchor).getD n
  | _ => return n

/-! ## Typed readings -/

/-- The part as a text, which messages call by the given name. -/
def textAs (expected : String) (n : Node) (path : Path) : Reading String := do
  let n ← n.resolve
  match n with
  | .scalar _ s =>
    match s.text with
    | some t => return t
    | none => throw (n.wrongType path expected)
  | _ => throw (n.wrongType path expected)

/-- The part as a text. -/
def text (n : Node) (path : Path) : Reading String := n.textAs "a string" path

/-- The part as a number. -/
def real (n : Node) (path : Path) : Reading Float32 := do
  let n ← n.resolve
  match n with
  | .scalar _ s =>
    match s.real with
    | some x => return x
    | none => throw (n.wrongType path "f32")
  | _ => throw (n.wrongType path "f32")

/-- The part as a whole number of 32 bits. -/
def count (n : Node) (path : Path) : Reading Nat := do
  let n ← n.resolve
  match n with
  | .scalar p s =>
    match s.count with
    | some k =>
      if 0 ≤ k ∧ k.toNat < Nat.pow 2 32 then return k.toNat
      else throw ⟨.wrongValue (.int k) "u32", p.closing, path⟩
    | none => throw (n.wrongType path "u32")
  | _ => throw (n.wrongType path "u32")

/-- The part as an optional value. If it cannot be said whether there is one, the record around the
part is at fault. -/
def optional {α : Type} (decode : Node → Path → Reading α) (n : Node) (path : Path) :
    Reading (Option α) := do
  let target ← n.resolve
  match target.isAbsent with
  | .ok true => return none
  | .ok false => return some (← decode target path)
  | .error cause => throw ⟨cause, n.place.surplus, path.tail⟩

/-- Reads the elements in turn, counting from `i`. -/
def readItems {α : Type} (decode : Node → Path → Reading α) (path : Path) :
    Nat → List Node → Reading (List α)
  | _, [] => return []
  | i, n :: rest => do
    let x ← decode n (.index i :: path)
    let xs ← readItems decode path (i + 1) rest
    return x :: xs

/-- The part as a list. -/
def items {α : Type} (decode : Node → Path → Reading α) (n : Node) (path : Path) :
    Reading (List α) := do
  let n ← n.resolve
  match n with
  | .list _ _ ns => readItems decode path 0 ns
  | .scalar _ s => if s.vacant then return [] else throw (n.wrongType path "a sequence")
  | _ => throw (n.wrongType path "a sequence")

/-- The part as a pair of numbers. -/
def pair (n : Node) (path : Path) : Reading (Float32 × Float32) := do
  let expected := "an array of length 2"
  let elements (p : Place) (ns : List Node) : Reading (Float32 × Float32) := do
    match ns with
    | [] => throw ⟨.tooShort 0 expected, p.closing, path⟩
    | [a] =>
      let _ ← a.real (.index 0 :: path)
      throw ⟨.tooShort 1 expected, p.closing, path⟩
    | a :: b :: rest =>
      let x ← a.real (.index 0 :: path)
      let y ← b.real (.index 1 :: path)
      if rest.isEmpty then return (x, y) else throw (tooLong p path ns 2)
  let n ← n.resolve
  match n with
  | .list p _ ns => elements p ns
  | .scalar p s => if s.vacant then elements p [] else throw (n.wrongType path expected)
  | _ => throw (n.wrongType path expected)

/-- Puts an entry at its place in a table that is sorted by key. -/
def insertEntry {α : Type} (key : String) (v : α) : List (String × α) → List (String × α)
  | [] => [(key, v)]
  | (k, w) :: rest =>
    if key < k then (key, v) :: (k, w) :: rest
    else if k = key then (key, v) :: rest
    else (k, w) :: insertEntry key v rest

/-- The part as a table from texts to optional texts, sorted by key; of several fields with one
key the last counts. -/
def textTable (n : Node) (path : Path) : Reading (List (String × Option String)) := do
  let n ← n.resolve
  match n with
  | .record _ _ fields =>
    fields.foldlM (fun table (key, v) => do
      let name ← key.text path
      let t ← optional text v (key.step :: path)
      return insertEntry name t table) []
  | .scalar _ s => if s.vacant then return [] else throw (n.wrongType path "a map")
  | _ => throw (n.wrongType path "a map")

/-! ## Values of any shape -/

/-- The number of lists and records that may lie one in another. -/
def maxDepth : Nat := 128

/-- Reads fields in the order of the text. Messages call the first key by the given name, and the
later ones just texts. -/
def readFields {α : Type} (decode : Node → Path → Reading α) (path : Path) :
    String → List (Node × Node) → Reading (List (String × α))
  | _, [] => return []
  | expected, (key, n) :: rest => do
    let name ← key.textAs expected path
    let v ← decode n (key.step :: path)
    let vs ← readFields decode path "a string" rest
    return (name, v) :: vs

/-- The part as a value of any shape with at most `depth` lists and records one in another. A list
or record that carries a name of its own is refused. -/
def valueWithin (depth : Nat) (n : Node) (path : Path) : Reading Value := do
  match ← n.resolve with
  | .scalar p s =>
    match s.value with
    | .ok v => return v
    | .error cause => throw ⟨cause, p.closing, path⟩
  | .list p marked ns =>
    if marked then throw ⟨.wrongType .marked anyValue, p.opening, path⟩
    match depth with
    | 0 => throw ⟨.tooDeep, p.opening, []⟩
    | depth + 1 => return .list (← readItems (valueWithin depth) path 0 ns)
  | .record p marked fields =>
    if marked then throw ⟨.wrongType .marked anyValue, p.opening, path⟩
    match depth with
    | 0 => throw ⟨.tooDeep, p.opening, []⟩
    | depth + 1 =>
      return .ofFields (← readFields (valueWithin depth) path "a string key" fields)
  | .alias p _ => throw ⟨.unreadable, p.opening, path⟩

/-- The part as a value of any shape; every step of its path has entered a list or record. -/
def value (n : Node) (path : Path) : Reading Value :=
  n.valueWithin (maxDepth - path.length) path

end Node
end Heightfield.Document
