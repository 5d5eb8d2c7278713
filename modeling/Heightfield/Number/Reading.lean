import Heightfield.Number.Shortest

/-!
# Reading numbers from text

A number is an optional sign before digits with at most one point and an optional exponent, or
before `inf`, `infinity` or `nan` in any case. `Numeral.parse` reads the whole text or says why it
is no number; `Numeral.toFloat32` and `Numeral.toFloat` round the exact value once.
-/

namespace Heightfield.Number

/-- The value that the text of a number stands for. -/
inductive Numeral where
  /-- a decimal number -/
  | finite (negative : Bool) (value : Decimal)
  /-- an infinity -/
  | infinite (negative : Bool)
  /-- no number -/
  | nan
  deriving DecidableEq, Repr

/-- Why a text is not a number. -/
inductive NumeralError where
  /-- the text is empty -/
  | empty
  /-- the text is none of the known forms -/
  | malformed
  deriving DecidableEq, Repr

/-- The wording of a reading error. -/
def NumeralError.message : NumeralError → String
  | .empty => "cannot parse float from empty string"
  | .malformed => "invalid float literal"

/-- The integer that a run of decimal digits stands for. -/
def ofDigits (cs : List Char) : Nat :=
  cs.foldl (fun n c => 10 * n + (c.toNat - '0'.toNat)) 0

/-- The sign in front of a numeral, and what follows it. -/
def takeSign : List Char → Bool × List Char
  | '-' :: rest => (true, rest)
  | '+' :: rest => (false, rest)
  | rest => (false, rest)

/-- The exponent at the end of a numeral: nothing, or `e` with a signed run of digits. -/
def exponentOf? : List Char → Option Int
  | [] => some 0
  | c :: rest =>
    if c = 'e' || c = 'E' then
      let (negative, digits) := takeSign rest
      if digits.isEmpty || !digits.all Char.isDigit then none
      else some (if negative then -(ofDigits digits : Int) else ofDigits digits)
    else none

/-- An unsigned decimal: digits, a point with more digits, an exponent. One digit is needed. -/
def decimalOf? (cs : List Char) : Option Decimal :=
  let whole := cs.takeWhile Char.isDigit
  let rest := cs.dropWhile Char.isDigit
  let (places, rest) := match rest with
    | '.' :: more => (more.takeWhile Char.isDigit, more.dropWhile Char.isDigit)
    | _ => ([], rest)
  if whole.isEmpty && places.isEmpty then none
  else (exponentOf? rest).map fun e => ⟨ofDigits (whole ++ places), e - places.length⟩

/-- The numeral that the text spells. -/
def Numeral.parse (s : String) : Except NumeralError Numeral :=
  if s.isEmpty then .error .empty else
    let (negative, body) := takeSign s.toList
    let word := String.ofList (body.map Char.toLower)
    if word = "nan" then .ok .nan
    else if word = "inf" || word = "infinity" then .ok (.infinite negative)
    else match decimalOf? body with
      | some d => .ok (.finite negative d)
      | none => .error .malformed

/-- A decimal of moderate size with the same nearest binary numbers: beyond four hundred places on
either side of the point all decimals round to infinity or to zero. -/
def Decimal.bounded (d : Decimal) : Decimal :=
  let top := d.exponent + (Nat.toDigits 10 d.digits).length
  if d.digits = 0 then ⟨0, 0⟩
  else if 400 < top then ⟨1, 400⟩
  else if top < -400 then ⟨1, -400⟩
  else d

/-- The nearest single-precision number. -/
def Numeral.toFloat32 : Numeral → Float32
  | .finite negative d =>
    let d := d.bounded
    let x := Float32.ofScientific d.digits (d.exponent < 0) d.exponent.natAbs
    if negative then -x else x
  | .infinite negative => if negative then -(1 / 0) else 1 / 0
  | .nan => 0 / 0

/-- The nearest double-precision number. -/
def Numeral.toFloat : Numeral → Float
  | .finite negative d =>
    let d := d.bounded
    let x := Float.ofScientific d.digits (d.exponent < 0) d.exponent.natAbs
    if negative then -x else x
  | .infinite negative => if negative then -(1 / 0) else 1 / 0
  | .nan => 0 / 0

/-- The single-precision number that a text spells. -/
def parseFloat32 (s : String) : Except NumeralError Float32 :=
  (Numeral.parse s).map Numeral.toFloat32

end Heightfield.Number
