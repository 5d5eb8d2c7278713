import Heightfield.Document.Reading
import Heightfield.Number.Reading

/-!
# JSON text

Reading of JSON text into located documents. Positions are lines from 1 and columns in bytes; a
column counts the bytes of its line that have been read.

* `Json.Cursor` is the unread text with its position.
* `Json.number?` reads a number. Whole numbers of 64 bits stay whole; all others become doubles,
  by scaling at most twenty significant digits with one power of ten.
* `Json.parse?` reads a whole text, and `Json.value?` the value that it stands for.

Three kinds of parts follow the grammar and stand for no value: numbers that are too large, texts
with half of a surrogate pair, and whatever is in more than 127 brackets. They are read as
`Scalar.unreadable`, so that they do no harm where nobody reads them.

Every step consumes text, so the number of characters bounds the recursion.
-/

namespace Heightfield.Document.Json

/-- Unread text and the position of its first character. -/
structure Cursor where
  rest : List Char
  line : Nat
  column : Nat

namespace Cursor

/-- The start of a text. -/
def start (s : String) : Cursor := ⟨s.toList, 1, 0⟩

/-- The cursor behind the next character. -/
def advance (c : Cursor) : Cursor :=
  match c.rest with
  | [] => c
  | ch :: rest =>
    if ch = '\n' then ⟨rest, c.line + 1, 0⟩ else ⟨rest, c.line, c.column + ch.utf8Size⟩

/-- The position that messages give for the cursor. -/
def position (c : Cursor) : Position := ⟨c.line, c.column⟩

/-- The blanks of JSON. -/
def isBlank (ch : Char) : Bool :=
  ch = ' ' || ch = '\n' || ch = '\t' || ch = '\r'

/-- The cursor behind all blanks. -/
def skipBlanks (c : Cursor) : Cursor :=
  go c.rest c
where
  go : List Char → Cursor → Cursor
    | [], c => c
    | ch :: rest, c => if isBlank ch then go rest c.advance else c

/-- The cursor behind `n` characters. -/
def advanceBy (c : Cursor) : Nat → Cursor
  | 0 => c
  | n + 1 => advanceBy c.advance n

/-- The cursor behind `word`, if the text goes on with it. -/
def expect? (c : Cursor) (word : String) : Option Cursor :=
  if word.toList.isPrefixOf c.rest then some (c.advanceBy word.length) else none

/-- The digits at the cursor, and the cursor behind them. -/
def digits (c : Cursor) : List Char × Cursor :=
  let ds := c.rest.takeWhile Char.isDigit
  (ds, c.advanceBy ds.length)

end Cursor

/-! ## Numbers -/

/-- A power of ten as a double. -/
def tenTo (n : Nat) : Float := Float.ofScientific 1 false n

/-- The significand times a power of ten, with one rounding for each factor. Beyond the largest
power of ten the number is divided down in steps; an overflow is an error. After three steps any
significand of 64 bits has become zero. -/
def scale? : Nat → Float → Int → Option Float
  | 0, x, _ => some x
  | steps + 1, x, e =>
    if e.natAbs ≤ 308 then
      if 0 ≤ e then
        let y := x * tenTo e.natAbs
        if y.isInf then none else some y
      else some (x / tenTo e.natAbs)
    else if x == 0 then some x
    else if 0 ≤ e then none
    else scale? steps (x / tenTo 308) (e + 308)

/-- Appends digits to a significand as long as it fits 64 bits; also the number of digits that
were taken. -/
def accumulate : Nat → List Char → Nat × Nat
  | n, [] => (n, 0)
  | n, d :: rest =>
    let m := 10 * n + (d.toNat - '0'.toNat)
    if Nat.pow 2 64 ≤ m then (n, 0)
    else
      let (k, taken) := accumulate m rest
      (k, taken + 1)

/-- A double from a significand and an exponent. -/
def assemble? (negative : Bool) (significand : Nat) (exponent : Int) : Option Value :=
  (scale? 4 (Float.ofNat significand) exponent).map fun x =>
    .float (if negative then -x else x)

/-- The value behind an exponent, if there is one; an exponent beyond 31 bits makes the number zero
or too large. -/
def exponentPart? (negative : Bool) (significand : Nat) (before : Int) (c : Cursor) :
    Option (Option Value × Cursor) :=
  let c := c.advance
  let (down, c) := match c.rest with
    | '-' :: _ => (true, c.advance)
    | '+' :: _ => (false, c.advance)
    | _ => (false, c)
  let (ds, c) := c.digits
  if ds.isEmpty then none else
    let e := Number.ofDigits ds
    if Nat.pow 2 31 ≤ e then
      if significand = 0 || down then some (some (.float (if negative then -0 else 0)), c)
      else some (none, c)
    else some (assemble? negative significand (if down then before - e else before + e), c)

/-- What follows the digits of a significand: nothing, or an exponent. -/
def afterDigits? (negative : Bool) (significand : Nat) (exponent : Int) (c : Cursor) :
    Option (Option Value × Cursor) :=
  match c.rest with
  | 'e' :: _ => exponentPart? negative significand exponent c
  | 'E' :: _ => exponentPart? negative significand exponent c
  | _ => some (assemble? negative significand exponent, c)

/-- The number at the cursor, with its value unless it is too large. Digits that do not fit the
significand count only for the exponent, and behind the point not at all. -/
def number? (c : Cursor) : Option (Option Value × Cursor) := do
  let (negative, c) := match c.rest with
    | '-' :: _ => (true, c.advance)
    | _ => (false, c)
  let (whole, c) := c.digits
  if whole.isEmpty || (whole.length > 1 && whole.head? = some '0') then none else
    let (n, taken) := accumulate 0 whole
    let dropped := whole.length - taken
    match c.rest with
    | '.' :: _ =>
      let (places, c) := c.advance.digits
      if places.isEmpty then none else
        let (m, used) := accumulate n places
        afterDigits? negative m ((dropped : Int) - used) c
    | 'e' :: _ => afterDigits? negative n dropped c
    | 'E' :: _ => afterDigits? negative n dropped c
    | _ =>
      if dropped > 0 then afterDigits? negative n dropped c
      else if !negative then some (some (.int n), c)
      else if n = 0 || Nat.pow 2 63 < n then some (some (.float (-(Float.ofNat n))), c)
      else some (some (.int (-(n : Int))), c)

/-! ## Texts -/

/-- The value of four hexadecimal digits. -/
def hex4? : List Char → Option Nat
  | [a, b, c, d] =>
    [a, b, c, d].foldlM (fun n ch => do
      let v ← digit? ch
      return 16 * n + v) 0
  | _ => none
where
  digit? (ch : Char) : Option Nat :=
    if ch.isDigit then some (ch.toNat - '0'.toNat)
    else if 'a' ≤ ch && ch ≤ 'f' then some (ch.toNat - 'a'.toNat + 10)
    else if 'A' ≤ ch && ch ≤ 'F' then some (ch.toNat - 'A'.toNat + 10)
    else none

/-- The character of an escape that names a code point, with the cursor on its first digit. A code
point above the basic plane is spelled by a pair of surrogates, and half of a pair stands for
nothing. -/
def escapedCodePoint? (c : Cursor) : Option (Option Char × Cursor) := do
  let n ← hex4? (c.rest.take 4)
  let c := c.advanceBy 4
  if 0xd800 ≤ n && n ≤ 0xdbff then
    match c.rest with
    | '\\' :: 'u' :: more =>
      match (hex4? (more.take 4)).filter fun m => 0xdc00 ≤ m && m ≤ 0xdfff with
      | some m =>
        some (some (Char.ofNat (0x10000 + (n - 0xd800) * 0x400 + (m - 0xdc00))), c.advanceBy 6)
      | none => some (none, c)
    | _ => some (none, c)
  else if 0xdc00 ≤ n && n ≤ 0xdfff then some (none, c)
  else some (some (Char.ofNat n), c)

/-- The characters up to the closing quote, and the cursor behind the quote. `read` holds the
characters before the cursor, the latest first, unless one of them stands for nothing. -/
def textBody? : Nat → Option (List Char) → Cursor → Option (Option String × Cursor)
  | 0, _, _ => none
  | fuel + 1, read, c =>
    let put (ch : Char) : Option (List Char) := read.map (ch :: ·)
    match c.rest with
    | [] => none
    | '"' :: _ => some (read.map fun cs => String.ofList cs.reverse, c.advance)
    | '\\' :: e :: _ =>
      let c' := c.advanceBy 2
      match e with
      | '"' => textBody? fuel (put '"') c'
      | '\\' => textBody? fuel (put '\\') c'
      | '/' => textBody? fuel (put '/') c'
      | 'b' => textBody? fuel (put '\x08') c'
      | 'f' => textBody? fuel (put '\x0c') c'
      | 'n' => textBody? fuel (put '\n') c'
      | 'r' => textBody? fuel (put '\r') c'
      | 't' => textBody? fuel (put '\t') c'
      | 'u' =>
        match escapedCodePoint? c' with
        | some (some ch, c'') => textBody? fuel (put ch) c''
        | some (none, c'') => textBody? fuel none c''
        | none => none
      | _ => none
    | ch :: _ => if ch.toNat < 0x20 then none else textBody? fuel (put ch) c.advance

/-- The text at the cursor, which stands on its opening quote. -/
def text? (c : Cursor) : Option (Option String × Cursor) :=
  textBody? (c.rest.length + 1) (some []) c.advance

/-! ## Documents -/

/-- The place of a part that was read between two cursors. Where it should not be at all, it is
reported with its first character read. -/
def placeOf (start stop : Cursor) : Place :=
  ⟨start.position, stop.position, start.advance.position⟩

/-- The scalar of a value that was read between two cursors. -/
def scalar (start stop : Cursor) (v : Value) (found : Found) : Node :=
  .scalar (placeOf start stop) (.strict v found)

/-- What stands between two cursors and stands for no value. -/
def unreadable (start stop : Cursor) : Node :=
  .scalar (placeOf start stop) .unreadable

/-- The key of a field, a text with a cursor behind it. A key is complete behind the blanks after
it, where its repetition is reported. -/
def key (start stop behind : Cursor) (name : Option String) : Node :=
  let place : Place := ⟨start.position, stop.position, behind.position⟩
  match name with
  | some s => .scalar place (.strict (.text s) (.text s))
  | none => .scalar place .unreadable

mutual

/-- The document part at the cursor; `depth` brackets may still be opened. -/
def node? : Nat → Nat → Cursor → Option (Node × Cursor)
  | 0, _, _ => none
  | fuel + 1, depth, c0 =>
    let c := c0.skipBlanks
    match c.rest with
    | 'n' :: _ => (c.expect? "null").map fun c' => (scalar c c' .null .null, c')
    | 't' :: _ => (c.expect? "true").map fun c' => (scalar c c' (.bool true) (.bool true), c')
    | 'f' :: _ => (c.expect? "false").map fun c' => (scalar c c' (.bool false) (.bool false), c')
    | '"' :: _ =>
      (text? c).map fun
        | (some s, c') => (scalar c c' (.text s) (.text s), c')
        | (none, c') => (unreadable c c', c')
    | '[' :: _ =>
      (listBody? fuel (depth - 1) c.advance.skipBlanks).map fun (ns, c') =>
        (if depth = 0 then unreadable c c' else .list (placeOf c c') false ns, c')
    | '\x7b' :: _ =>
      (recordBody? fuel (depth - 1) c.advance.skipBlanks).map fun (fs, c') =>
        (if depth = 0 then unreadable c c' else .record (placeOf c c') false fs, c')
    | ch :: _ =>
      if ch.isDigit || ch = '-' then
        (number? c).map fun
          | (some (.int n), c') => (scalar c c' (.int n) (.int n), c')
          | (some (.float x), c') => (scalar c c' (.float x) (.float x), c')
          | (_, c') => (unreadable c c', c')
      else none
    | [] => none

/-- The elements of a list, behind its bracket and the blanks after that, and the cursor behind the
closing bracket. -/
def listBody? : Nat → Nat → Cursor → Option (List Node × Cursor)
  | 0, _, _ => none
  | fuel + 1, depth, c =>
    match c.rest with
    | ']' :: _ => some ([], c.advance)
    | _ => items? fuel depth c

/-- The fields of a record, behind its brace and the blanks after that, and the cursor behind the
closing brace. -/
def recordBody? : Nat → Nat → Cursor → Option (List (Node × Node) × Cursor)
  | 0, _, _ => none
  | fuel + 1, depth, c =>
    match c.rest with
    | '\x7d' :: _ => some ([], c.advance)
    | _ => fields? fuel depth c

/-- Elements up to the closing bracket, at least one. -/
def items? : Nat → Nat → Cursor → Option (List Node × Cursor)
  | 0, _, _ => none
  | fuel + 1, depth, c => do
    let (n, c) ← node? fuel depth c
    let c := c.skipBlanks
    match c.rest with
    | ']' :: _ => some ([n], c.advance)
    | ',' :: _ => do
      let (ns, c) ← items? fuel depth c.advance
      some (n :: ns, c)
    | _ => none

/-- Fields up to the closing brace, at least one. -/
def fields? : Nat → Nat → Cursor → Option (List (Node × Node) × Cursor)
  | 0, _, _ => none
  | fuel + 1, depth, c0 => do
    let c := c0.skipBlanks
    match c.rest with
    | '"' :: _ => do
      let (name, c1) ← text? c
      let c2 := c1.skipBlanks
      match c2.rest with
      | ':' :: _ => do
        let (n, c3) ← node? fuel depth c2.advance
        let field := (key c c1 c2 name, n)
        let c4 := c3.skipBlanks
        match c4.rest with
        | '\x7d' :: _ => some ([field], c4.advance)
        | ',' :: _ => do
          let (fs, c5) ← fields? fuel depth c4.advance
          some (field :: fs, c5)
        | _ => none
      | _ => none
    | _ => none

end

/-- The document that a text holds; `none` if the text does not follow the grammar. -/
def parse? (s : String) : Option Located := do
  let c := Cursor.start s
  let (n, c) ← node? (3 * c.rest.length + 3) 127 c
  if c.skipBlanks.rest.isEmpty then some ⟨n, .strict⟩ else none

/-- The value that a text stands for. -/
def value? (s : String) : Option Value :=
  (parse? s).bind fun d => (d.read Node.value).toOption

end Heightfield.Document.Json
