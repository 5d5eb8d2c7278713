/-!
# Blank characters

The characters with the Unicode property White_Space, and the removal of blanks around a text.
-/

namespace Heightfield.Text

/-- The White_Space property. -/
def isBlank (c : Char) : Bool :=
  let n := c.toNat
  (0x09 ≤ n && n ≤ 0x0d) || n = 0x20 || n = 0x85 || n = 0xa0 || n = 0x1680 ||
    (0x2000 ≤ n && n ≤ 0x200a) || n = 0x2028 || n = 0x2029 || n = 0x202f || n = 0x205f ||
    n = 0x3000

/-- The characters without the blanks at either end. -/
def stripBlanks (cs : List Char) : List Char :=
  ((cs.dropWhile isBlank).reverse.dropWhile isBlank).reverse

/-- The text without the blanks at either end. -/
def trim (s : String) : String :=
  String.ofList (stripBlanks s.toList)

/-- The text with the letters `a` to `z` in upper case and all other characters kept. -/
def upper (s : String) : String :=
  String.ofList (s.toList.map Char.toUpper)

/-- The text with the letters `A` to `Z` in lower case and all other characters kept. -/
def lower (s : String) : String :=
  String.ofList (s.toList.map Char.toLower)

/-- A name as it is compared with a fixed list of names: without blanks around it, in upper
case. -/
def nameKey (s : String) : String :=
  upper (trim s)

end Heightfield.Text
