/-!
# Identifiers for variables

Node ids are arbitrary texts. A variable is named after its node and socket by an identifier of
ASCII letters, digits and single underscores; two underscores in a row are reserved by a shader
language. A name that is already taken gets the first free number as a suffix.
-/

namespace Heightfield.Identifier

/-- The letters and digits of a text, with one underscore for each gap between two of them.
`started` says that a letter or digit has come before, `gap` that something else came since. -/
def squeeze : (started gap : Bool) → List Char → List Char
  | _, _, [] => []
  | started, gap, c :: rest =>
    if c.isAlphanum then
      if started && gap then '_' :: c :: squeeze true false rest else c :: squeeze true false rest
    else squeeze started true rest

/-- The part of a variable name that stands for a node id. -/
def sanitize (id : String) : String :=
  match squeeze false false id.toList with
  | [] => "node"
  | cs => String.ofList cs

/-- The preferred name of the variable of a socket. -/
def base (id socket : String) : String :=
  s!"n_{sanitize id}_{socket}"

/-- The first of the names `base_k`, `base_(k+1)`, … that is not taken, out of `fuel + 1`. -/
def suffixed (taken : List String) (base : String) : Nat → Nat → String
  | 0, k => s!"{base}_{k}"
  | fuel + 1, k =>
    if taken.contains s!"{base}_{k}" then suffixed taken base fuel (k + 1) else s!"{base}_{k}"

/-- The preferred name, or its first free variant. Among one more variants than there are taken
names, one is free. -/
def fresh (taken : List String) (base : String) : String :=
  if taken.contains base then suffixed taken base taken.length 2 else base

end Heightfield.Identifier
