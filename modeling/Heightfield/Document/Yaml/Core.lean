import Heightfield.Document.Yaml.Part
import Heightfield.Number.Reading

/-!
# YAML scalars

What the text of a scalar stands for. A plain scalar is read by its form: nothing, a truth value, a
whole number, a number or a text. A scalar that is not plain is a text. A tag of the standard asks
for one of these types whatever the form.

* `int?` reads whole numbers: decimal, hexadecimal, octal and binary ones. Digits behind a zero are
  no number.
* `float?` reads numbers, among them `.inf` and `.nan`.
* `Part.reading` collects all the readings of a scalar.
-/

namespace Heightfield.Document.Yaml

open Heightfield.Number (Numeral)

/-! ## Forms -/

/-- The words for nothing. -/
def isNull (s : String) : Bool :=
  ["null", "Null", "NULL", "~"].contains s

/-- The words for truth values. -/
def bool? (s : String) : Option Bool :=
  if ["true", "True", "TRUE"].contains s then some true
  else if ["false", "False", "FALSE"].contains s then some false
  else none

/-- The digits of a number to a base of at most sixteen. -/
def digits? (base : Nat) (cs : List Char) : Option Nat :=
  if cs.isEmpty then none
  else cs.foldlM (fun n ch => do
    let d ← hexDigit? ch
    if d < base then return base * n + d else failure) 0

/-- The text without one plus sign in front. -/
def dropPlus : List Char → List Char
  | '+' :: rest => rest
  | cs => cs

/-- The text starts with a sign. -/
def isSigned (cs : List Char) : Bool :=
  cs.head?.any fun ch => ch = '+' || ch = '-'

/-- Digits behind a zero, which are a text. -/
def isPadded (cs : List Char) : Bool :=
  match if isSigned cs then cs.drop 1 else cs with
  | '0' :: ds => !ds.isEmpty && ds.all Char.isDigit
  | _ => false

/-- A whole number without a sign: to another base behind its mark, or decimal. -/
def magnitude? (bound : Nat) (cs : List Char) : Option Nat :=
  let n := match cs with
    | '0' :: 'x' :: ds => digits? 16 ds
    | '0' :: 'o' :: ds => digits? 8 ds
    | '0' :: 'b' :: ds => digits? 2 ds
    | _ => if isPadded cs then none else digits? 10 cs
  n.filter (· < bound)

/-- A whole number from zero on, below the bound. -/
def unsigned? (bound : Nat) (s : String) : Option Int :=
  (magnitude? bound (dropPlus s.toList)).map Int.ofNat

/-- A whole number with a minus sign, down to the negated bound. -/
def negative? (bound : Nat) (s : String) : Option Int :=
  match s.toList with
  | '-' :: cs => (magnitude? (bound + 1) cs).map fun n => -(n : Int)
  | _ => none

/-- A whole number of 64 bits, or of 128. -/
def int? (s : String) : Option Found :=
  ((unsigned? (Nat.pow 2 64) s <|> negative? (Nat.pow 2 63) s).map Found.int) <|>
    ((unsigned? (Nat.pow 2 128) s <|> negative? (Nat.pow 2 127) s).map Found.wideInt)

/-- A number. -/
def float? (s : String) : Option Float :=
  let body := String.ofList (dropPlus s.toList)
  if body.length < s.length && isSigned body.toList then none
  else if [".inf", ".Inf", ".INF"].contains body then some (1 / 0)
  else if ["-.inf", "-.Inf", "-.INF"].contains s then some (-(1 / 0))
  else if [".nan", ".NaN", ".NAN"].contains s then some (0 / 0)
  else match Numeral.parse body with
    | .ok n => some n.toFloat |>.filter Float.isFinite
    | .error _ => none

/-- What a plain scalar without a tag stands for. -/
def plainForm (s : String) : Found :=
  if s.isEmpty || isNull s then .null
  else match bool? s with
    | some b => .bool b
    | none =>
      match int? s with
      | some n => n
      | none =>
        if isPadded s.toList then .text s
        else match float? s with
          | some x => .float x
          | none => .text s

/-! ## Tags -/

/-- The name of a tag of the standard. -/
def standardTag (name : String) : TagName := .ofString ("tag:yaml.org,2002:" ++ name)

/-- A tag that is no global one: its name starts with an exclamation mark. -/
def isPrivate (tag : Option TagName) : Bool :=
  tag.any fun name => name.head? = some 0x21

/-- A tag that names a type of one application alone: behind its exclamation mark there is a
text. -/
def isLocal (tag : Option TagName) : Bool :=
  isPrivate tag && tag.any fun name => ByteArray.validateUTF8 ⟨(name.drop 1).toArray⟩

/-- What a scalar stands for. A text that is none of the type that its tag asks for is refused
whatever is expected. -/
def form (tag : Option TagName) (style : Style) (s : String) : Except Cause Found :=
  let demand (x : Option Found) (expected : String) : Except Cause Found :=
    match x with
    | some found => .ok found
    | none => .error (.wrongValue (.text s) expected)
  if tag = some (standardTag "bool") then demand ((bool? s).map .bool) "a boolean"
  else if tag = some (standardTag "int") then demand (int? s) "an integer"
  else if tag = some (standardTag "float") then demand ((float? s).map .float) "a float"
  else if tag = some (standardTag "null") then demand (if isNull s then some .null else none) "null"
  else if style = .plain && (tag.isNone || isPrivate tag) then .ok (plainForm s)
  else .ok (.text s)

/-- The free-form value of a scalar. A number that is not finite has none and becomes nothing. -/
def valueOf (tag : Option TagName) (found : Except Cause Found) : Except Cause Value :=
  if isLocal tag then .error (.wrongType .marked anyValue)
  else found.bind fun
    | .bool b => .ok (.bool b)
    | .int n => .ok (.int n)
    | .wideInt _ => .error .outOfRange
    | .float x => .ok (if x.isFinite then .float x else .null)
    | .text s => .ok (.text s)
    | _ => .ok .null

/-- All the readings of a scalar. Where a number is expected, the form of a plain scalar alone
counts, and a literal one may be tagged as such a number. -/
def reading (tag : Option TagName) (style : Style) (s : String) : Scalar :=
  let found := form tag style s
  let admits (name : String) : Bool :=
    style = .plain || (style = .literal && tag = some (standardTag name))
  { found
    text := some s
    real := if admits "float" then (float? s).map Float.toFloat32 else none
    count := if admits "int" then unsigned? (Nat.pow 2 64) s else none
    absent :=
      if style ≠ .plain then .ok false
      else if tag.isNone then .ok (s.isEmpty || isNull s)
      else if tag = some (standardTag "null") then found.map fun _ => true
      else .ok false
    vacant := style = .plain && s.isEmpty
    value := valueOf tag found }

end Heightfield.Document.Yaml
