import Heightfield.Document.Yaml.TokenStream

/-!
# YAML parts

The tree of a YAML text: scalars, lists and records with their tags and anchors. Aliases are kept;
each names its anchor by a number.

* `Part.document?` reads the one document of a token list.
* A missing element, key or value is an empty plain scalar at the place where it was expected.
* An anchor has the number of different names that came before it, so that a second anchor of one
  name counts as new.

Every reading step takes a token or leads to one that does, so the number of tokens bounds the
recursion.
-/

namespace Heightfield.Document.Yaml

/-- What stands in front of a part. -/
structure Properties where
  /-- where the part starts, its properties included -/
  position : Position
  anchor : Option Nat
  tag : Option TagName

/-- A part of a text. -/
inductive Part where
  | alias (position : Position) (anchor : Nat)
  | scalar (p : Properties) (style : Style) (text : String)
  | list (p : Properties) (items : List Part)
  | record (p : Properties) (fields : List (Part × Part))

namespace Part

/-- The scalar that stands for a missing part. -/
def missing (p : Position) : Part := .scalar ⟨p, none, none⟩ .plain ""

/-- What is left of a token list, and the numbers of the anchor names so far. -/
structure Source where
  tokens : List Token
  anchors : List (String × Nat)

/-- A reader of parts. -/
abbrev Reader := StateT Source Option

namespace Reader

/-- The next token. -/
def peek : Reader Token := do
  match (← get).tokens with
  | t :: _ => return t
  | [] => failure

/-- Passes the next token. -/
def skip : Reader Unit := modify fun s => { s with tokens := s.tokens.drop 1 }

/-- Passes the next token if it is of the kind. -/
def pass (kind : Token.Kind) : Reader Unit := do
  if (← peek).kind = kind then skip else failure

/-- Passes the next token if it is of the kind, and says whether it was. -/
def passed (kind : Token.Kind) : Reader Bool := do
  if (← peek).kind = kind then
    skip
    return true
  else return false

/-- Gives an anchor its number. -/
def nameAnchor (name : String) : Reader Nat :=
  modifyGet fun s =>
    let n := s.anchors.length
    (n, { s with anchors := (name, n) :: s.anchors.filter (·.1 ≠ name) })

/-- The number of the anchor that an alias names. -/
def findAnchor (name : String) : Reader Nat := do
  match (← get).anchors.lookup name with
  | some n => return n
  | none => failure

/-- The anchor at the cursor, if there is one. -/
def anchor? : Reader (Option String) := do
  match (← peek).kind with
  | .anchor name =>
    skip
    return some name
  | _ => return none

/-- The tag at the cursor, if there is one; `handles` says what handles stand for. -/
def tag? (handles : List (String × TagName)) : Reader (Option TagName) := do
  match (← peek).kind with
  | .tag t =>
    skip
    if t.handle.isEmpty then return some t.suffix
    else match handles.lookup t.handle with
      | some start => return some (start ++ t.suffix)
      | none => failure
  | _ => return none

/-- The properties of a part: anchor and tag in either order, or neither. -/
def properties (handles : List (String × TagName)) : Reader Properties := do
  let position := (← peek).start
  let anchor ← anchor?
  let tag ← tag? handles
  let anchor ← match anchor with
    | some name => pure (some name)
    | none => anchor?
  let anchor ← anchor.mapM nameAnchor
  return ⟨position, anchor, tag⟩

end Reader

open Reader

/-! ## Blocks and brackets -/

/-- The kinds of places in which a part may stand. -/
inductive Context where
  /-- within brackets -/
  | flow
  /-- in a block -/
  | block
  /-- behind a key or a colon, where a list needs no indentation of its own -/
  | field
  deriving DecidableEq, Repr

mutual

/-- A part. -/
def part (handles : List (String × TagName)) : Nat → Context → Reader Part
  | 0, _ => failure
  | fuel + 1, context => do
    let t ← peek
    match t.kind with
    | .alias name =>
      skip
      return .alias t.start (← findAnchor name)
    | _ =>
      let p ← properties handles
      match (← peek).kind with
      | .scalar style text =>
        skip
        return .scalar p style text
      | .listStart =>
        skip
        return .list p (← listItems handles fuel true)
      | .recordStart =>
        skip
        return .record p (← recordFields handles fuel true)
      | kind =>
        if context = .field ∧ kind = .blockEntry then
          return .list p (← fieldItems handles fuel)
        else if context ≠ .flow ∧ kind = .blockListStart then
          skip
          return .list p (← blockItems handles fuel)
        else if context ≠ .flow ∧ kind = .blockRecordStart then
          skip
          return .record p (← blockFields handles fuel)
        else if p.anchor.isSome || p.tag.isSome then
          return .scalar p .plain ""
        else failure

/-- A part, or the missing part at `position` if the next token is one of `ends`. -/
def partUnless (handles : List (String × TagName)) :
    Nat → Context → List Token.Kind → Position → Reader Part
  | 0, _, _, _ => failure
  | fuel + 1, context, ends, position => do
    if ends.contains (← peek).kind then return missing position
    else part handles fuel context

/-- The elements of a block. -/
def blockItems (handles : List (String × TagName)) : Nat → Reader (List Part)
  | 0 => failure
  | fuel + 1 => do
    let t ← peek
    skip
    match t.kind with
    | .blockEntry =>
      let item ← partUnless handles fuel .block [.blockEntry, .blockEnd] t.stop
      return item :: (← blockItems handles fuel)
    | .blockEnd => return []
    | _ => failure

/-- The elements of a list without indentation of its own. -/
def fieldItems (handles : List (String × TagName)) : Nat → Reader (List Part)
  | 0 => failure
  | fuel + 1 => do
    let t ← peek
    if t.kind = .blockEntry then
      skip
      let item ← partUnless handles fuel .block [.blockEntry, .key, .value, .blockEnd] t.stop
      return item :: (← fieldItems handles fuel)
    else return []

/-- The fields of a block. -/
def blockFields (handles : List (String × TagName)) : Nat → Reader (List (Part × Part))
  | 0 => failure
  | fuel + 1 => do
    let ends := [.key, .value, .blockEnd]
    let t ← peek
    skip
    match t.kind with
    | .key =>
      let key ← partUnless handles fuel .field ends t.stop
      let t ← peek
      let value ←
        if t.kind = .value then
          skip
          partUnless handles fuel .field ends t.stop
        else pure (missing t.start)
      return (key, value) :: (← blockFields handles fuel)
    | .blockEnd => return []
    | _ => failure

/-- The elements of a list in brackets, behind the opening bracket or, if not `first`, behind an
element. A single field may stand for a record. -/
def listItems (handles : List (String × TagName)) : Nat → Bool → Reader (List Part)
  | 0, _ => failure
  | fuel + 1, first => do
    if ← passed .listEnd then return []
    else
      if !first then pass .entry
      let t ← peek
      if t.kind = .key then
        skip
        let field ← singleField handles fuel
        return .record ⟨t.start, none, none⟩ [field] :: (← listItems handles fuel false)
      else if ← passed .listEnd then return []
      else
        let item ← part handles fuel .flow
        return item :: (← listItems handles fuel false)

/-- A field that stands for a record among the elements of a list. Where the key is missing, the
token in its place is passed. -/
def singleField (handles : List (String × TagName)) : Nat → Reader (Part × Part)
  | 0 => failure
  | fuel + 1 => do
    let t ← peek
    let key ←
      if [.value, .entry, .listEnd].contains t.kind then
        skip
        pure (missing t.stop)
      else part handles fuel .flow
    let value ← flowValue handles fuel .listEnd
    return (key, value)

/-- The fields of a record in brackets, behind the opening bracket or, if not `first`, behind a
field. -/
def recordFields (handles : List (String × TagName)) : Nat → Bool → Reader (List (Part × Part))
  | 0, _ => failure
  | fuel + 1, first => do
    if ← passed .recordEnd then return []
    else
      if !first then pass .entry
      if ← passed .key then
        let key ← partUnless handles fuel .flow [.value, .entry, .recordEnd] (← peek).start
        let value ← flowValue handles fuel .recordEnd
        return (key, value) :: (← recordFields handles fuel false)
      else if ← passed .recordEnd then return []
      else
        let key ← part handles fuel .flow
        let value := missing (← peek).start
        return (key, value) :: (← recordFields handles fuel false)

/-- The value behind a key within brackets that end with the given token. -/
def flowValue (handles : List (String × TagName)) : Nat → Token.Kind → Reader Part
  | 0, _ => failure
  | fuel + 1, close => do
    if ← passed .value then partUnless handles fuel .flow [.entry, close] (← peek).start
    else return missing (← peek).start

end

/-! ## Documents -/

/-- The handles that every document has. -/
def standardHandles : List (String × TagName) :=
  [("!", .ofString "!"), ("!!", .ofString "tag:yaml.org,2002:")]

/-- The directives in front of a document: at most one version, which must be 1.1 or 1.2, and
handles with different names. -/
def directives : Nat → Bool → List (String × TagName) → Reader (List (String × TagName))
  | 0, _, _ => failure
  | fuel + 1, versioned, handles => do
    match (← peek).kind with
    | .version major minor =>
      if versioned || major ≠ 1 || (minor ≠ 1 && minor ≠ 2) then failure
      else
        skip
        directives fuel true handles
    | .handle name start =>
      if (handles.lookup name).isSome then failure
      else
        skip
        directives fuel versioned ((name, start) :: handles)
    | _ => return handles

/-- A directive in front of a document. -/
def isDirective : Token.Kind → Bool
  | .version .. => true
  | .handle .. => true
  | _ => false

/-- A token that ends a document without content. -/
def endsDocument (kind : Token.Kind) : Bool :=
  isDirective kind || [.documentStart, .documentEnd, .streamEnd].contains kind

/-- The one document of the stream. A stream without any holds the missing part. -/
def document (fuel : Nat) : Reader Part := do
  let t ← peek
  if t.kind = .streamEnd then return missing t.start
  else
    let declared ← directives fuel false []
    let handles := declared ++ standardHandles
    let marked ← passed .documentStart
    if isDirective t.kind && !marked then failure
    let t ← peek
    let root ←
      if marked && endsDocument t.kind then pure (missing t.start)
      else part handles fuel .block
    dropEnds fuel
    pass .streamEnd
    return root
where
  /-- passes all marks of a document's end -/
  dropEnds : Nat → Reader Unit
    | 0 => failure
    | fuel + 1 => do
      if ← passed .documentEnd then dropEnds fuel else pure ()

/-- The document of a token list. -/
def document? (tokens : List Token) : Option Part :=
  ((document (4 * tokens.length + 4)).run ⟨tokens, []⟩).map (·.1)

end Part
end Heightfield.Document.Yaml
