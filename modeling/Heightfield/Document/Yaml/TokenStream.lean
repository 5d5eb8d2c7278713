import Heightfield.Document.Yaml.Token

/-!
# YAML token streams

The tokens of a whole text. Two things make them more than a list of words:

* Blocks are set off by indentation. `TokenStream.openBlock` starts a block where the text moves to
  the right, `TokenStream.closeBlocks` ends those that the text moves out of.
* A key is seen to be one only at the colon behind it. `TokenStream.noteKey` remembers where a key
  may have started, and `TokenStream.value?` puts the token in front of it.

`tokens?` is the list of tokens, or `none` if the text has none.
-/

namespace Heightfield.Document.Yaml

/-- A place where a key may have started. -/
structure PossibleKey where
  /-- nothing but a key can stand there -/
  required : Bool
  /-- the number of tokens before it -/
  number : Nat
  /-- the cursor there -/
  start : Cursor

/-- The tokens of the text up to a cursor. -/
structure TokenStream where
  cursor : Cursor
  tokens : Array Token
  /-- the columns of the open blocks, the innermost first -/
  blocks : List Nat
  /-- a key may start here -/
  keyAllowed : Bool
  /-- the possible key within the innermost brackets, or outside of brackets -/
  possibleKey : Option PossibleKey
  /-- the possible keys around the open brackets, the innermost first -/
  outerKeys : List (Option PossibleKey)

namespace TokenStream

/-- The stream before the first token. -/
def start (cs : List Char) : TokenStream :=
  ⟨.start cs, #[], [], true, none, []⟩

/-- The cursor is within brackets. -/
def flow (s : TokenStream) : Bool := !s.outerKeys.isEmpty

/-- The least indentation of a part of the innermost block. -/
def floor (s : TokenStream) : Nat :=
  match s.blocks with
  | [] => 0
  | column :: _ => column + 1

/-- Appends a token that ends at the given cursor, and goes on there. -/
def push (s : TokenStream) (kind : Token.Kind) (after : Cursor) : TokenStream :=
  { s with
    tokens := s.tokens.push ⟨kind, s.cursor.position, after.position⟩
    cursor := after }

/-- Appends a token of `n` characters. -/
def pushSign (s : TokenStream) (kind : Token.Kind) (n : Nat) : TokenStream :=
  s.push kind (s.cursor.advanceBy n)

/-! ## Blocks -/

/-- Starts a block at the given place, in front of the tokens from `number` on, if the place lies to
the right of the innermost block. Within brackets there are no blocks. -/
def openBlock (s : TokenStream) (kind : Token.Kind) (number : Nat) (c : Cursor) : TokenStream :=
  if s.flow || c.column < s.floor then s
  else
    { s with
      tokens := s.tokens.insertIdxIfInBounds number ⟨kind, c.position, c.position⟩
      blocks := c.column :: s.blocks }

/-- Ends the blocks at the column `bound` and to the right of it. -/
def closeBlocks (s : TokenStream) (bound : Nat) : TokenStream :=
  if s.flow then s
  else
    let p := s.cursor.position
    let closed := s.blocks.takeWhile (bound ≤ ·)
    { s with
      tokens := s.tokens ++ (closed.map fun _ => (⟨.blockEnd, p, p⟩ : Token)).toArray
      blocks := s.blocks.drop closed.length }

/-! ## Keys -/

/-- Gives up the possible key; a required one must not be given up. -/
def dropKey? (s : TokenStream) : Option TokenStream :=
  if s.possibleKey.any (·.required) then none else some { s with possibleKey := none }

/-- Remembers that a key may start at the cursor. -/
def noteKey? (s : TokenStream) : Option TokenStream :=
  if s.keyAllowed then do
    let s ← s.dropKey?
    let required := !s.flow && s.blocks.head? = some s.cursor.column
    return { s with possibleKey := some ⟨required, s.tokens.size, s.cursor⟩ }
  else some s

/-- The key has ended before the cursor: it must lie on one line and have at most 1024 bytes. -/
def isStale (c : Cursor) (k : PossibleKey) : Bool :=
  k.start.line < c.line || k.start.index + 1024 < c.index

/-- Gives up the possible key if it has ended. Those around the open brackets are looked at when the
bracket behind them is closed. -/
def dropStale? (s : TokenStream) : Option TokenStream :=
  if s.possibleKey.any (isStale s.cursor) then s.dropKey? else some s

/-! ## Tokens -/

/-- A line that starts or ends a document, or a directive: it ends all blocks. -/
def leaveBlocks? (s : TokenStream) : Option TokenStream := do
  let s ← (s.closeBlocks 0).dropKey?
  return { s with keyAllowed := false }

/-- The end of the text, which counts as the start of a line. -/
def finish? (s : TokenStream) : Option TokenStream := do
  let c := s.cursor
  let s :=
    if c.column = 0 then s else { s with cursor := { c with line := c.line + 1, column := 0 } }
  let s ← s.leaveBlocks?
  return s.push .streamEnd s.cursor

/-- A directive. -/
def directiveLine? (s : TokenStream) : Option TokenStream := do
  let s ← s.leaveBlocks?
  let (kind, stop, after) ← s.cursor.directive?
  return { s.push kind stop with cursor := after }

/-- An opening bracket. -/
def openBracket? (s : TokenStream) (kind : Token.Kind) : Option TokenStream := do
  let s ← s.noteKey?
  return { s.pushSign kind 1 with
    possibleKey := none, outerKeys := s.possibleKey :: s.outerKeys, keyAllowed := true }

/-- A closing bracket. -/
def closeBracket? (s : TokenStream) (kind : Token.Kind) : Option TokenStream := do
  let s ← s.dropKey?
  let s := match s.outerKeys with
    | [] => s
    | k :: outer => { s with possibleKey := k, outerKeys := outer }
  return { s.pushSign kind 1 with keyAllowed := false }

/-- A comma. -/
def comma? (s : TokenStream) : Option TokenStream := do
  let s ← s.dropKey?
  return { s.pushSign .entry 1 with keyAllowed := true }

/-- A sign that may start a block of the given kind. -/
def blockSign? (s : TokenStream) (block kind : Token.Kind) (keyAllowed : Bool) :
    Option TokenStream :=
  if !s.flow && !s.keyAllowed then none
  else do
    let s ← (s.openBlock block s.tokens.size s.cursor).dropKey?
    return { s.pushSign kind 1 with keyAllowed }

/-- A colon. If a key may have started before it, that was one. -/
def value? (s : TokenStream) : Option TokenStream :=
  match s.possibleKey with
  | some k =>
    let p := k.start.position
    let s := { s with tokens := s.tokens.insertIdxIfInBounds k.number ⟨.key, p, p⟩ }
    let s := s.openBlock .blockRecordStart k.number k.start
    some { s.pushSign .value 1 with possibleKey := none, keyAllowed := false }
  | none => s.blockSign? .blockRecordStart .value (!s.flow)

/-- A token that may be a key or stand in front of one. -/
def part? (s : TokenStream) (kind : Token.Kind) (after : Cursor) : Option TokenStream := do
  let s ← s.noteKey?
  return { s.push kind after with keyAllowed := false }

/-- A text in quotes. -/
def quoted? (s : TokenStream) (single : Bool) : Option TokenStream := do
  let (text, after) ← quotedText? single s.cursor
  s.part? (.scalar .quoted (String.ofList text)) after

/-- A plain text. A line break behind it allows a key. -/
def plain? (s : TokenStream) : Option TokenStream := do
  let (text, last, after) ← plainText? s.flow s.floor s.cursor
  let s ← s.part? (.scalar .plain (String.ofList text)) after
  return { s with keyAllowed := !last.breaks.isEmpty }

/-- A block text. It ends in front of a line, where a key may start. -/
def block? (s : TokenStream) (style : Style) : Option TokenStream := do
  let s ← s.dropKey?
  let (text, after) ← blockText? (style = .folded) s.floor s.cursor
  return { s.push (.scalar style (String.ofList text)) after with keyAllowed := true }

/-- The characters that do not start a plain text. -/
def isIndicator (ch : Char) : Bool :=
  [ '-', '?', ':', ',', '[', ']', '\x7b', '\x7d', '#', '&', '*', '!', '|', '>', '\'', '"', '%',
    '@', '\x60'].contains ch

/-- A plain text starts with the character. -/
def startsPlain (s : TokenStream) (ch : Char) : Bool :=
  let next := s.cursor.at? 1
  (!isSpace ch && !isIndicator ch) || (ch = '-' && !next.any isBlank) ||
    (!s.flow && (ch = '?' || ch = ':') && !separates next)

/-- The token at the cursor, which stands on the given character. -/
def token? (s : TokenStream) (ch : Char) : Option TokenStream :=
  let c := s.cursor
  let isSign := s.flow || separates (c.at? 1)
  if c.column = 0 && ch = '%' then s.directiveLine?
  else if c.marksDocument '-' then (·.pushSign .documentStart 3) <$> s.leaveBlocks?
  else if c.marksDocument '.' then (·.pushSign .documentEnd 3) <$> s.leaveBlocks?
  else if ch = '[' then s.openBracket? .listStart
  else if ch = '\x7b' then s.openBracket? .recordStart
  else if ch = ']' then s.closeBracket? .listEnd
  else if ch = '\x7d' then s.closeBracket? .recordEnd
  else if ch = ',' then s.comma?
  else if ch = '-' && separates (c.at? 1) then s.blockSign? .blockListStart .blockEntry true
  else if ch = '?' && isSign then s.blockSign? .blockRecordStart .key (!s.flow)
  else if ch = ':' && isSign then s.value?
  else if ch = '*' then c.anchorName?.bind fun (name, after) => s.part? (.alias name) after
  else if ch = '&' then c.anchorName?.bind fun (name, after) => s.part? (.anchor name) after
  else if ch = '!' then (c.tag? s.flow).bind fun (t, after) => s.part? (.tag t) after
  else if ch = '|' && !s.flow then s.block? .literal
  else if ch = '>' && !s.flow then s.block? .folded
  else if ch = '\'' then s.quoted? true
  else if ch = '"' then s.quoted? false
  else if s.startsPlain ch then s.plain?
  else none

/-- The stream with its cursor on the next token. A byte order mark may start a line, and takes a
column like any character. A tab may stand where no key can start; a line break outside of brackets
allows one. -/
def skipToToken (s : TokenStream) : Nat → TokenStream
  | 0 => s
  | fuel + 1 =>
    let c := s.cursor
    let c := if c.column = 0 && c.sees (· = byteOrderMark) then c.advance else c
    let tabs := s.flow || !s.keyAllowed
    let c := (c.skip fun ch => ch = ' ' || (tabs && ch = '\t')).skipComment
    match c.lineBreak? with
    | some (_, c) => skipToToken { s with cursor := c, keyAllowed := s.keyAllowed || !s.flow } fuel
    | none => { s with cursor := c }

/-- All tokens. Every one but the last takes a character, so that the number of unread characters
bounds both the number of tokens and that of the line breaks before the next one. -/
def run? : Nat → TokenStream → Option (Array Token)
  | 0, _ => none
  | fuel + 1, s => do
    let s ← (s.skipToToken (fuel + 1)).dropStale?
    let s := s.closeBlocks (s.cursor.column + 1)
    match s.cursor.next? with
    | none => return (← s.finish?).tokens
    | some ch => run? fuel (← s.token? ch)

end TokenStream

/-- The tokens of a text. -/
def tokens? (cs : List Char) : Option (List Token) :=
  if cs.all isPrintable then
    ((TokenStream.start cs).run? (cs.length + 1)).map Array.toList
  else none

end Heightfield.Document.Yaml
