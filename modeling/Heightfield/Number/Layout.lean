import Heightfield.Number.Shortest

/-!
# How numbers are written

A `Layout` settles what the digits leave open: where positional writing ends, whether a whole
number shows a point, and which of two equally near decimals is taken.

* `Layout.plain` never uses an exponent and writes whole numbers without a point.
* `Layout.withPoint` is `plain` with a point in every number.
* `Layout.document` and `Layout.document32` are for numbers inside structured documents.
* `Layout.listing` is for the numbers of a list in brackets.
-/

namespace Heightfield.Number

/-- The decisions of a number format. -/
structure Layout where
  /-- which of two equally near decimals is taken -/
  tie : Tie
  /-- the exponents of the first digit that are written positionally, from here on; `none` for
  all small ones -/
  positionalFrom : Option Int
  /-- the first exponent that is too large to be written positionally; `none` for no limit -/
  positionalBelow : Option Int
  /-- a whole number ends in `.0` -/
  pointed : Bool
  /-- a positive exponent carries a plus sign -/
  plus : Bool
  deriving DecidableEq, Repr

namespace Layout

/-- Positional, whole numbers without a point. -/
def plain : Layout := ⟨.up, none, none, false, false⟩

/-- Positional, whole numbers with `.0`. -/
def withPoint : Layout := ⟨.up, none, none, true, false⟩

/-- A double inside a document: positional from 1e-5 to below 1e16. -/
def document : Layout := ⟨.even, some (-5), some 16, true, true⟩

/-- A single inside a document: positional from 1e-6 to below 1e13. -/
def document32 : Layout := ⟨.even, some (-6), some 13, true, true⟩

/-- A member of a bracketed list: positional from 1e-4 to below 1e16. -/
def listing : Layout := ⟨.up, some (-4), some 16, true, false⟩

/-- Whether a first digit of weight `10^e` is written positionally. -/
def isPositional (l : Layout) (e : Int) : Bool :=
  l.positionalFrom.all (· ≤ e) && l.positionalBelow.all (e < ·)

/-- Digits with a point put at the place that the exponent asks for. -/
def positional (l : Layout) (digits : List Char) (exponent : Int) : List Char :=
  if 0 ≤ exponent then
    digits ++ List.replicate exponent.toNat '0' ++ (if l.pointed then ['.', '0'] else [])
  else
    let places := (-exponent).toNat
    if places < digits.length then
      digits.take (digits.length - places) ++ '.' :: digits.drop (digits.length - places)
    else
      '0' :: '.' :: (List.replicate (places - digits.length) '0' ++ digits)

/-- One digit, the rest behind a point, and the exponent of the first digit. -/
def scientific (l : Layout) (digits : List Char) (leading : Int) : List Char :=
  let mantissa := match digits with
    | d :: e :: rest => d :: '.' :: e :: rest
    | short => short
  let sign := if leading < 0 then ['-'] else if l.plus then ['+'] else []
  mantissa ++ 'e' :: sign ++ Nat.toDigits 10 leading.natAbs

/-- The text of a positive decimal. -/
def writeDecimal (l : Layout) (d : Decimal) : List Char :=
  let digits := Nat.toDigits 10 d.digits
  let leading := (digits.length : Int) - 1 + d.exponent
  if l.isPositional leading then l.positional digits d.exponent else l.scientific digits leading

/-- The text of a number whose sign and magnitude are known. -/
def write (l : Layout) (negative nan infinite : Bool) (b : Binary) : String :=
  if nan then "NaN" else
    let magnitude :=
      if infinite then ['i', 'n', 'f']
      else if b.significand = 0 then '0' :: (if l.pointed then ['.', '0'] else [])
      else l.writeDecimal (b.shortest l.tie)
    String.ofList (if negative then '-' :: magnitude else magnitude)

/-- The text of a single-precision number. -/
def writeFloat32 (l : Layout) (x : Float32) : String :=
  l.write (Nat.pow 2 31 ≤ x.toBits.toNat) x.isNaN x.isInf (Binary.ofFloat32 x)

/-- The text of a double-precision number. -/
def writeFloat (l : Layout) (x : Float) : String :=
  l.write (Nat.pow 2 63 ≤ x.toBits.toNat) x.isNaN x.isInf (Binary.ofFloat x)

end Layout
end Heightfield.Number
