import Heightfield.Document.Yaml.Cursor

/-!
# YAML texts

The three ways to write a text, and what each stands for.

* A plain text is a sequence of words with gaps between them. `Gap.fold` says what a gap stands
  for: within a line itself; a single line break is a space, and of several line breaks the first
  one does not count.
* A quoted text folds its gaps in the same way; a text in double quotes has escapes.
* A block text is a sequence of lines. `joinLines` puts them together: a literal text keeps its line
  breaks, a folded one folds those between lines that do not start with a blank.

The number of unread characters bounds every recursion.
-/

namespace Heightfield.Document.Yaml

/-- How a text is written. -/
inductive Style where
  | plain
  | quoted
  | literal
  | folded
  deriving DecidableEq, Repr

/-! ## Gaps -/

/-- A gap between the words of a text. -/
structure Gap where
  /-- the blanks up to the first line break -/
  blanks : List Char
  /-- the line breaks; the blanks around the later ones do not count -/
  breaks : List Char

namespace Gap

/-- No gap. -/
def empty : Gap := ⟨[], []⟩

/-- The text that the gap stands for. -/
def fold (g : Gap) : List Char :=
  match g.breaks with
  | [] => g.blanks
  | ['\n'] => [' ']
  | '\n' :: more => more
  | breaks => breaks

end Gap

namespace Cursor

/-- The cursor behind the blanks at the start of a line, among which no tab may stand before the
column `margin`. -/
def indent? (margin : Nat) (c : Cursor) : Option Cursor :=
  let (blanks, after) := c.span isBlank
  if (blanks.take (margin - c.column)).contains '\t' then none else some after

/-- The line breaks at the cursor, and the cursor behind them and the blanks that follow each. -/
def breaks? (margin : Nat) : Nat → Cursor → Option (List Char × Cursor)
  | 0, _ => none
  | fuel + 1, c =>
    match c.lineBreak? with
    | none => some ([], c)
    | some (b, c) => do
      let c ← c.indent? margin
      let (bs, c) ← breaks? margin fuel c
      return (b :: bs, c)

/-- The gap at the cursor, and the cursor behind it. -/
def gap? (margin : Nat) (c : Cursor) : Option (Gap × Cursor) := do
  let (blanks, c) := c.span isBlank
  let (breaks, c) ← c.breaks? margin (c.rest.length + 1)
  return (⟨blanks, breaks⟩, c)

end Cursor

/-! ## Plain texts -/

/-- The characters that separate parts of lists and records in brackets. -/
def isFlowIndicator (ch : Char) : Bool :=
  ch = ',' || ch = '[' || ch = ']' || ch = '\x7b' || ch = '\x7d'

/-- The word of a plain text at the start of the characters. Within brackets a colon directly before
an indicator is refused. -/
def word? (flow : Bool) : List Char → Option (List Char)
  | [] => some []
  | ch :: rest =>
    if isSpace ch then some []
    else if flow && ch = ':' && rest.head?.any fun d => isFlowIndicator d || d = '?' then none
    else if (ch = ':' && separates rest.head?) || (flow && isFlowIndicator ch) then some []
    else (word? flow rest).map (ch :: ·)

/-- The rest of a plain text behind a gap, with the cursor behind it and the gap that ends it.
Outside of brackets a text ends before a line with less than `margin` characters of
indentation. -/
def plainRest? (flow : Bool) (margin : Nat) :
    Nat → Gap → Cursor → Option (List Char × Gap × Cursor)
  | 0, _, _ => none
  | fuel + 1, before, c =>
    if c.leavesDocument || c.sees (· = '#') then some ([], before, c)
    else do
      let word ← word? flow c.rest
      if word.isEmpty then some ([], before, c)
      else do
        let c := c.advanceBy word.length
        let (after, c) ← c.gap? margin
        let ends := (after.blanks.isEmpty && after.breaks.isEmpty) || (!flow && c.column < margin)
        let (more, last, c) ←
          if ends then some ([], after, c) else plainRest? flow margin fuel after c
        return (before.fold ++ word ++ more, last, c)

/-- The plain text at the cursor, with the cursor behind it and the gap that ends it. -/
def plainText? (flow : Bool) (margin : Nat) (c : Cursor) :
    Option (List Char × Gap × Cursor) :=
  plainRest? flow margin (c.rest.length + 1) .empty c

/-! ## Quoted texts -/

/-- The rest of a text in single quotes, in which two quotes stand for one. -/
def singleQuoted? : Nat → Cursor → Option (List Char × Cursor)
  | 0, _ => none
  | fuel + 1, c =>
    if c.leavesDocument then none
    else match c.rest with
      | '\'' :: '\'' :: _ => (singleQuoted? fuel (c.advanceBy 2)).map fun (t, c) => ('\'' :: t, c)
      | '\'' :: _ => some ([], c.advance)
      | ch :: _ =>
        if isSpace ch then do
          let (g, c) ← c.gap? 0
          let (t, c) ← singleQuoted? fuel c
          return (g.fold ++ t, c)
        else (singleQuoted? fuel c.advance).map fun (t, c) => (ch :: t, c)
      | [] => none

/-- The character that an escape of one letter stands for. -/
def letterEscape? (ch : Char) : Option Char :=
  match ch with
  | '0' => some '\x00'
  | 'a' => some '\x07'
  | 'b' => some '\x08'
  | 't' => some '\t'
  | '\t' => some '\t'
  | 'n' => some '\n'
  | 'v' => some '\x0b'
  | 'f' => some '\x0c'
  | 'r' => some '\r'
  | 'e' => some '\x1b'
  | ' ' => some ' '
  | '"' => some '"'
  | '/' => some '/'
  | '\\' => some '\\'
  | 'N' => some '\x85'
  | '_' => some '\xa0'
  | 'L' => some '\u2028'
  | 'P' => some '\u2029'
  | _ => none

/-- The number of digits in an escape that names a code point. -/
def codeLength? (ch : Char) : Option Nat :=
  match ch with
  | 'x' => some 2
  | 'u' => some 4
  | 'U' => some 8
  | _ => none

/-- The character of an escape, with the cursor behind the backslash. -/
def escape? (c : Cursor) : Option (Char × Cursor) := do
  let ch ← c.next?
  match codeLength? ch with
  | some length =>
    let digits := (c.rest.drop 1).take length
    let n ← ofHexDigits? digits
    if digits.length < length || (0xd800 ≤ n && n ≤ 0xdfff) || 0x10ffff < n then failure
    else return (Char.ofNat n, c.advanceBy (length + 1))
  | none => return (← letterEscape? ch, c.advance)

/-- The rest of a text in double quotes. A line break behind a backslash joins two lines. -/
def doubleQuoted? : Nat → Cursor → Option (List Char × Cursor)
  | 0, _ => none
  | fuel + 1, c =>
    if c.leavesDocument then none
    else match c.rest with
      | '"' :: _ => some ([], c.advance)
      | '\\' :: _ =>
        match c.advance.lineBreak? with
        | some (_, c) => do
          let (g, c) ← c.gap? 0
          let (t, c) ← doubleQuoted? fuel c
          return (g.breaks ++ t, c)
        | none => do
          let (ch, c) ← escape? c.advance
          let (t, c) ← doubleQuoted? fuel c
          return (ch :: t, c)
      | ch :: _ =>
        if isSpace ch then do
          let (g, c) ← c.gap? 0
          let (t, c) ← doubleQuoted? fuel c
          return (g.fold ++ t, c)
        else (doubleQuoted? fuel c.advance).map fun (t, c) => (ch :: t, c)
      | [] => none

/-- The quoted text at the cursor, which stands on its opening quote. -/
def quotedText? (single : Bool) (c : Cursor) : Option (List Char × Cursor) :=
  if single then singleQuoted? c.rest.length c.advance
  else doubleQuoted? c.rest.length c.advance

/-! ## Block texts -/

/-- What becomes of the line breaks at the end of a block text. -/
inductive Chomping where
  /-- none is kept -/
  | strip
  /-- that of the last line is kept -/
  | clip
  /-- all are kept -/
  | keep
  deriving DecidableEq, Repr

/-- A line of a block text. -/
structure Line where
  text : List Char
  /-- its line break; the last line of a document may have none -/
  own : Option Char
  /-- the line breaks of the empty lines behind it -/
  empty : List Char

namespace Line

/-- The line starts with a blank, so that it is not folded. -/
def isIndented (l : Line) : Bool := l.text.head?.any isBlank

/-- What stands between two lines that follow each other. -/
def between (folds : Bool) (a b : Line) : List Char :=
  if folds && a.own = some '\n' && !a.isIndented && !b.isIndented then
    if a.empty.isEmpty then [' '] else a.empty
  else a.own.toList ++ a.empty

/-- What stands behind the last line. -/
def tail (chomping : Chomping) (l : Line) : List Char :=
  match chomping with
  | .strip => []
  | .clip => l.own.toList
  | .keep => l.own.toList ++ l.empty

end Line

/-- The text of a line and the lines behind it. -/
def joinLines (folds : Bool) (chomping : Chomping) : Line → List Line → List Char
  | l, [] => l.text ++ l.tail chomping
  | l, m :: more => l.text ++ l.between folds m ++ joinLines folds chomping m more

/-- The sign of a chomping. -/
def chomping? (ch : Char) : Option Chomping :=
  match ch with
  | '+' => some .keep
  | '-' => some .strip
  | _ => none

/-- The signs in front of a block text: chomping and further indentation, in either order. -/
def blockSigns? (c : Cursor) : Option (Chomping × Option Nat × Cursor) :=
  match c.next?.bind chomping? with
  | some chomping =>
    let c := c.advance
    if c.sees (· = '0') then none
    else match indentation? c with
      | some n => some (chomping, some n, c.advance)
      | none => some (chomping, none, c)
  | none =>
    if c.sees (· = '0') then none
    else match indentation? c with
      | some n =>
        let c := c.advance
        match c.next?.bind chomping? with
        | some chomping => some (chomping, some n, c.advance)
        | none => some (.clip, some n, c)
      | none => some (.clip, none, c)
where
  /-- the digit at the cursor -/
  indentation? (c : Cursor) : Option Nat :=
    match c.next? with
    | some ch => if ch.isDigit then some (ch.toNat - '0'.toNat) else none
    | none => none

/-- The line breaks of empty lines at the cursor, the widest indentation met, and the cursor behind
the indentation of the line after them. At most `margin` columns are indentation, if it is known. -/
def emptyLines? (margin : Option Nat) : Nat → Nat → Cursor → Option (List Char × Nat × Cursor)
  | 0, _, _ => none
  | fuel + 1, widest, c =>
    let spaces := (c.rest.takeWhile (· = ' ')).length
    let c := c.advanceBy (match margin with
      | some m => min spaces (m - c.column)
      | none => spaces)
    let widest := max widest c.column
    if margin.all (c.column < ·) && c.sees (· = '\t') then none
    else match c.lineBreak? with
      | none => some ([], widest, c)
      | some (b, c) => do
        let (bs, widest, c) ← emptyLines? margin fuel widest c
        return (b :: bs, widest, c)

/-- The lines with exactly `margin` columns of indentation at the cursor, which stands behind the
indentation of the first one. -/
def blockLines? (margin : Nat) : Nat → Cursor → Option (List Line × Cursor)
  | 0, _ => none
  | fuel + 1, c =>
    if c.column ≠ margin || c.rest.isEmpty then some ([], c)
    else do
      let (text, c) := c.span (!isBreak ·)
      let (own, c) := match c.lineBreak? with
        | some (b, c) => (some b, c)
        | none => (none, c)
      let (empty, _, c) ← emptyLines? (some margin) (c.rest.length + 1) 0 c
      let (more, c) ← blockLines? margin fuel c
      return (⟨text, own, empty⟩ :: more, c)

/-- The block text at the cursor, which stands on its indicator; `floor` is the least indentation
of the text. -/
def blockText? (folds : Bool) (floor : Nat) (c : Cursor) : Option (List Char × Cursor) := do
  let (chomping, further, c) ← blockSigns? c.advance
  let c ← c.endLine?
  let given := further.map (floor - 1 + ·)
  let (empty, widest, c) ← emptyLines? given (c.rest.length + 1) 0 c
  let margin := given.getD (max widest (max floor 1))
  let (lines, c) ← blockLines? margin (c.rest.length + 1) c
  return (joinLines folds chomping ⟨[], none, empty⟩ lines, c)

end Heightfield.Document.Yaml
