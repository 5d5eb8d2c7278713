import Heightfield.Number.Rounding
import Heightfield.Report
import Heightfield.Text.Blank

/-!
# Colours

Colours as three channels in the unit range, and their text form: a number sign and two hexadecimal
digits for each channel.
-/

namespace Heightfield

/-- A colour without opacity. -/
structure Color where
  red : Float32
  green : Float32
  blue : Float32
  deriving DecidableEq, Repr, Inhabited

/-- Why a text is no colour. -/
inductive ColorError where
  /-- there are neither three nor six digits -/
  | length (raw : String)
  /-- the digits are no ASCII characters -/
  | notAscii (raw : String)
  /-- a pair of characters is no hexadecimal number -/
  | digits (raw : String)
  deriving DecidableEq, Repr

/-- The wording of the error. -/
def ColorError.report : ColorError → Report
  | .length raw => [s!"color '{raw}' must be #rgb or #rrggbb"]
  | .notAscii raw => [s!"color '{raw}' is not ASCII hex"]
  | .digits raw => [s!"color '{raw}' has invalid hex digits", "invalid digit found in string"]

namespace Color

/-- The value of a hexadecimal digit. -/
def hexDigit? (c : Char) : Option Nat :=
  if c.isDigit then some (c.toNat - '0'.toNat)
  else if 'a' ≤ c && c ≤ 'f' then some (c.toNat - 'a'.toNat + 10)
  else if 'A' ≤ c && c ≤ 'F' then some (c.toNat - 'A'.toNat + 10)
  else none

/-- The number that a pair of characters stands for: two digits, or a plus sign and a digit. -/
def pairValue? : List Char → Option Nat
  | ['+', d] => hexDigit? d
  | [c, d] => do
    let hi ← hexDigit? c
    let lo ← hexDigit? d
    return 16 * hi + lo
  | _ => none

/-- The length of characters in UTF-8. -/
def byteLength (cs : List Char) : Nat :=
  cs.foldl (fun n c => n + c.utf8Size) 0

/-- The characters that fill the first `n` bytes, and the rest; nothing if byte `n` is inside a
character. -/
def splitBytes? : Nat → List Char → Option (List Char × List Char)
  | 0, cs => some ([], cs)
  | _, [] => none
  | n + 1, c :: rest =>
    if c.utf8Size ≤ n + 1 then
      (splitBytes? (n + 1 - c.utf8Size) rest).map fun (first, rest) => (c :: first, rest)
    else none
termination_by _ cs => cs.length

/-- The channel that the next two bytes stand for, and the rest. -/
def channel (raw : String) (cs : List Char) : Except ColorError (Float32 × List Char) :=
  match splitBytes? 2 cs with
  | none => .error (.notAscii raw)
  | some (pair, rest) =>
    match pairValue? pair with
    | none => .error (.digits raw)
    | some n => .ok (Number.ofByte (UInt8.ofNat n), rest)

/-- The colour that a text spells: number signs, then six digits or three that stand for two each.
Lengths are counted in bytes. -/
def parseHex (raw : String) : Except ColorError Color := do
  let digits := (Text.stripBlanks raw.toList).dropWhile (· = '#')
  let expanded ←
    if byteLength digits = 3 then .ok (digits.flatMap fun c => [c, c])
    else if byteLength digits = 6 then .ok digits
    else .error (.length raw)
  let (red, rest) ← channel raw expanded
  let (green, rest) ← channel raw rest
  let (blue, _) ← channel raw rest
  return ⟨red, green, blue⟩

/-- A byte as two hexadecimal digits. -/
def byteHex (b : UInt8) : List Char :=
  [Nat.digitChar (b.toNat / 16), Nat.digitChar (b.toNat % 16)]

/-- The text of a colour; channels are rounded to bytes. -/
def formatHex (c : Color) : String :=
  String.ofList ('#' :: [c.red, c.green, c.blue].flatMap fun x => byteHex (Number.toByte x))

end Color
end Heightfield
