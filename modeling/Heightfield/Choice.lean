import Heightfield.Text.Blank

/-!
# Choices by name

Some settings are picked from a fixed list. They are written as names, in any case and with blanks
around them; several names may stand for the same choice.
-/

namespace Heightfield

/-- A type whose values are picked by name. -/
class Choice (α : Type) where
  /-- what messages call the setting -/
  label : String
  /-- the value that stands in for a name that is not known -/
  fallback : α
  /-- the names in upper case -/
  names : List (String × α)

namespace Choice

/-- The value that a name stands for. -/
def parse? {α : Type} [Choice α] (raw : String) : Option α :=
  (names : List (String × α)).lookup (Text.nameKey raw)

end Choice
end Heightfield
