import Heightfield.Document.Node

/-!
# YAML characters

The character classes of YAML and a cursor over its text.

* `isPrintable` says which characters a text may hold at all.
* `Cursor` is the unread text with its place; columns count characters from zero, so that the
  column of a part is its indentation.
* `Cursor.lineBreak?` reads a line break as the character that stands for it in a text.
-/

namespace Heightfield.Document.Yaml

/-! ## Characters -/

/-- The byte order mark. -/
def byteOrderMark : Char := Char.ofNat 0xfeff

/-- The characters that a text may hold. -/
def isPrintable (ch : Char) : Bool :=
  let n := ch.toNat
  n = 0x09 || n = 0x0a || n = 0x0d || (0x20 ≤ n && n ≤ 0x7e) || n = 0x85 ||
    (0xa0 ≤ n && n ≤ 0xfffd) || 0x10000 ≤ n

/-- Blanks within a line. -/
def isBlank (ch : Char) : Bool :=
  ch = ' ' || ch = '\t'

/-- The characters that end a line. -/
def isBreak (ch : Char) : Bool :=
  ch = '\n' || ch = '\r' || ch.toNat = 0x85 || ch.toNat = 0x2028 || ch.toNat = 0x2029

/-- The characters of names. -/
def isNameChar (ch : Char) : Bool :=
  ch.isAlphanum || ch = '_' || ch = '-'

/-- Blanks and line breaks. -/
def isSpace (ch : Char) : Bool :=
  isBlank ch || isBreak ch

/-- What may follow an indicator: a blank, a line break or the end of the text. -/
def separates (next : Option Char) : Bool :=
  next.all isSpace

/-- The value of a hexadecimal digit. -/
def hexDigit? (ch : Char) : Option Nat :=
  if ch.isDigit then some (ch.toNat - '0'.toNat)
  else if 'a' ≤ ch && ch ≤ 'f' then some (ch.toNat - 'a'.toNat + 10)
  else if 'A' ≤ ch && ch ≤ 'F' then some (ch.toNat - 'A'.toNat + 10)
  else none

/-- The number that a run of digits stands for. -/
def ofHexDigits? (cs : List Char) : Option Nat :=
  cs.foldlM (fun n ch => (hexDigit? ch).map (16 * n + ·)) 0

/-! ## The cursor -/

/-- Unread text and the place of its first character. -/
structure Cursor where
  rest : List Char
  /-- the number of bytes before it -/
  index : Nat
  /-- the line, from one -/
  line : Nat
  /-- the characters of the line before it -/
  column : Nat

namespace Cursor

/-- The start of a text. -/
def start (cs : List Char) : Cursor := ⟨cs, 0, 1, 0⟩

/-- The position that messages give for the cursor. -/
def position (c : Cursor) : Position := ⟨c.line, c.column + 1⟩

/-- The character at a distance from the cursor. -/
def at? (c : Cursor) (n : Nat) : Option Char := c.rest[n]?

/-- The next character. -/
def next? (c : Cursor) : Option Char := c.rest.head?

/-- Whether the text goes on with a character of the class. -/
def sees (c : Cursor) (p : Char → Bool) : Bool := c.next?.any p

/-- The cursor behind the next character. A carriage return before a line feed does not end the
line. -/
def advance (c : Cursor) : Cursor :=
  match c.rest with
  | [] => c
  | '\r' :: '\n' :: rest => ⟨'\n' :: rest, c.index + 1, c.line, c.column⟩
  | ch :: rest =>
    if isBreak ch then ⟨rest, c.index + ch.utf8Size, c.line + 1, 0⟩
    else ⟨rest, c.index + ch.utf8Size, c.line, c.column + 1⟩

/-- The cursor behind `n` characters. -/
def advanceBy (c : Cursor) : Nat → Cursor
  | 0 => c
  | n + 1 => advanceBy c.advance n

/-- The characters of a class at the cursor, and the cursor behind them. -/
def span (c : Cursor) (p : Char → Bool) : List Char × Cursor :=
  let cs := c.rest.takeWhile p
  (cs, c.advanceBy cs.length)

/-- The cursor behind the characters of a class. -/
def skip (c : Cursor) (p : Char → Bool) : Cursor := (c.span p).2

/-- The cursor behind a character of the class. -/
def pass? (c : Cursor) (p : Char → Bool) : Option Cursor :=
  if c.sees p then some c.advance else none

/-- The cursor behind a comment, if one starts here. -/
def skipComment (c : Cursor) : Cursor :=
  if c.sees (· = '#') then c.skip (!isBreak ·) else c

/-- The line break at the cursor and the cursor behind it. Line and paragraph separators stand for
themselves, all other line breaks for a line feed. -/
def lineBreak? (c : Cursor) : Option (Char × Cursor) :=
  match c.rest with
  | '\r' :: '\n' :: _ => some ('\n', c.advanceBy 2)
  | ch :: _ =>
    if isBreak ch then
      some (if ch.toNat = 0x2028 || ch.toNat = 0x2029 then ch else '\n', c.advance)
    else none
  | [] => none

/-- The cursor behind the rest of a line that holds nothing but blanks and a comment. -/
def endLine? (c : Cursor) : Option Cursor :=
  let c := (c.skip isBlank).skipComment
  if c.rest.isEmpty then some c else c.lineBreak?.map (·.2)

/-- Whether a line starts here with the mark three times, as before and behind documents. -/
def marksDocument (c : Cursor) (mark : Char) : Bool :=
  c.column = 0 && c.rest.take 3 = [mark, mark, mark] && separates (c.at? 3)

/-- Whether a line starts here that belongs to no document. -/
def leavesDocument (c : Cursor) : Bool :=
  c.marksDocument '-' || c.marksDocument '.'

end Cursor
end Heightfield.Document.Yaml
