import Heightfield.Document.Yaml.Text
import Heightfield.Number.Reading

/-!
# YAML tokens

The tokens of a YAML text. Blocks that are set off by indentation have tokens at their start and
end, just as brackets do.

This module also reads the tokens that consist of names: anchors, aliases, tags and directives.
-/

namespace Heightfield.Document.Yaml

/-- The name of a tag. It is a sequence of bytes, since a percent sign spells any byte of an
encoding, and a zero byte ends it. -/
abbrev TagName := List UInt8

/-- The name that consists of the bytes of a text. -/
def TagName.ofString (s : String) : TagName := s.toUTF8.toList

/-- The bytes in front of the first zero byte. -/
def TagName.cut (bytes : List UInt8) : TagName := bytes.takeWhile (· ≠ 0)

/-- A tag as it is written: a handle that stands for the start of the name, and the rest. -/
structure Tag where
  handle : String
  suffix : TagName
  deriving DecidableEq, Repr

/-- The kinds of tokens. -/
inductive Token.Kind where
  | streamEnd
  | version (major minor : Nat)
  /-- a handle and what it stands for -/
  | handle (name : String) (start : TagName)
  | documentStart
  | documentEnd
  | blockListStart
  | blockRecordStart
  | blockEnd
  | listStart
  | listEnd
  | recordStart
  | recordEnd
  /-- the dash in front of an element -/
  | blockEntry
  /-- the comma between elements or fields -/
  | entry
  | key
  | value
  | alias (name : String)
  | anchor (name : String)
  | tag (t : Tag)
  | scalar (style : Style) (text : String)
  deriving DecidableEq, Repr

/-- A token and the positions of its first character and of the character behind it. -/
structure Token where
  kind : Token.Kind
  start : Position
  stop : Position

namespace Cursor

/-! ## Names -/

/-- The signs that may follow the name of an anchor directly. -/
def endsName (ch : Char) : Bool :=
  [ '?', ':', ',', ']', '\x7d', '%', '@', '\x60'].contains ch

/-- The name behind the sign of an anchor or an alias, and the cursor behind it. -/
def anchorName? (c : Cursor) : Option (String × Cursor) :=
  let (name, c) := c.advance.span isNameChar
  if name.isEmpty then none
  else if c.next?.all fun ch => isSpace ch || endsName ch then some (String.ofList name, c)
  else none

/-- The number of bytes that a character takes whose encoding starts with the byte. -/
def encodedLength? (b : Nat) : Option Nat :=
  if b < 0x80 then some 1
  else if 0xc0 ≤ b && b < 0xe0 then some 2
  else if 0xe0 ≤ b && b < 0xf0 then some 3
  else if 0xf0 ≤ b && b < 0xf8 then some 4
  else none

/-- The byte that a percent sign and two digits stand for. -/
def percentByte? (c : Cursor) : Option Nat :=
  match c.rest with
  | '%' :: a :: b :: _ => ofHexDigits? [a, b]
  | _ => none

/-- The last `n` bytes of an encoding. -/
def percentTail? : Nat → Cursor → Option (List UInt8 × Cursor)
  | 0, c => some ([], c)
  | n + 1, c => do
    let b ← c.percentByte?
    if 0x80 ≤ b && b < 0xc0 then
      let (bytes, c) ← percentTail? n (c.advanceBy 3)
      return (UInt8.ofNat b :: bytes, c)
    else failure

/-- The bytes of an encoding, as many as the first one announces. They need not encode a
character. -/
def percentBytes? (c : Cursor) : Option (List UInt8 × Cursor) := do
  let b ← c.percentByte?
  let length ← encodedLength? b
  let (bytes, c) ← percentTail? (length - 1) (c.advanceBy 3)
  return (UInt8.ofNat b :: bytes, c)

/-- The characters of a tag. In a tag within angle brackets further ones are allowed. -/
def isTagChar (verbatim : Bool) (ch : Char) : Bool :=
  isNameChar ch || ";/?:@&=+$.%!~*'()".contains ch || (verbatim && ",[]".contains ch)

/-- The bytes of the run of tag characters at the cursor. -/
def tagText? (verbatim : Bool) : Nat → Cursor → Option (List UInt8 × Cursor)
  | 0, _ => none
  | fuel + 1, c =>
    match c.rest with
    | [] => some ([], c)
    | ch :: _ =>
      if !isTagChar verbatim ch then some ([], c)
      else do
        let (bytes, c) ←
          if ch = '%' then c.percentBytes? else some (String.utf8EncodeChar ch, c.advance)
        let (more, c) ← tagText? verbatim fuel c
        return (bytes ++ more, c)

/-- The name that a run of tag characters stands for, which is not empty. -/
def tagName? (verbatim : Bool) (c : Cursor) : Option (TagName × Cursor) := do
  let (bytes, c) ← c.tagText? verbatim (c.rest.length + 1)
  if bytes.isEmpty then failure else return (TagName.cut bytes, c)

/-- The part of a tag that may be a handle: an exclamation mark with a name behind it, and a second
exclamation mark if there is one. -/
def handlePart (c : Cursor) : String × Cursor :=
  let (name, after) := c.advance.span isNameChar
  if after.sees (· = '!') then (String.ofList ('!' :: name ++ ['!']), after.advance)
  else (String.ofList ('!' :: name), after)

/-- The tag at the cursor, which stands on its exclamation mark. -/
def tagParts? (c : Cursor) : Option (Tag × Cursor) :=
  if c.at? 1 = some '<' then do
    let (name, c) ← (c.advanceBy 2).tagName? true
    let c ← c.pass? (· = '>')
    return (⟨"", name⟩, c)
  else do
    let (handle, after) := c.handlePart
    if handle.length > 1 && handle.endsWith "!" then
      let (suffix, c) ← after.tagName? false
      return (⟨handle, suffix⟩, c)
    else
      let (more, c) ← after.tagText? false (after.rest.length + 1)
      let suffix := TagName.cut (TagName.ofString (handle.drop 1).toString ++ more)
      return (if suffix.isEmpty then ⟨"", .ofString "!"⟩ else ⟨"!", suffix⟩, c)

/-- The tag at the cursor. It ends at a space, within brackets also at a comma. -/
def tag? (flow : Bool) (c : Cursor) : Option (Tag × Cursor) := do
  let (t, c) ← c.tagParts?
  if separates c.next? || (flow && c.sees (· = ',')) then return (t, c) else failure

/-! ## Directives -/

/-- A part of a version number, of at most nine digits. -/
def versionPart? (c : Cursor) : Option (Nat × Cursor) :=
  let (digits, c) := c.span Char.isDigit
  if digits.isEmpty || 9 < digits.length then none
  else some (Number.ofDigits digits, c)

/-- The directive at the cursor, which stands on its percent sign, and the cursor on the line behind
it. -/
def directive? (c : Cursor) : Option (Token.Kind × Cursor × Cursor) := do
  let (name, c) := c.advance.span isNameChar
  if name.isEmpty || !separates c.next? then none
  else
    let c := c.skip isBlank
    let (kind, c) ←
      if name = "YAML".toList then do
        let (major, c) ← c.versionPart?
        let c ← c.pass? (· = '.')
        let (minor, c) ← c.versionPart?
        some (Token.Kind.version major minor, c)
      else if name = "TAG".toList then do
        let _ ← c.pass? (· = '!')
        let (handle, c) := c.handlePart
        let c ← if handle.endsWith "!" then c.pass? isBlank else none
        let (start, c) ← (c.skip isBlank).tagName? true
        if separates c.next? then some (Token.Kind.handle handle start, c) else none
      else none
    let after ← c.endLine?
    return (kind, c, after)

end Cursor
end Heightfield.Document.Yaml
