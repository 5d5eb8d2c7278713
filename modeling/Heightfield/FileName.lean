/-!
# File names

The last part of a path, split into stem and extension at its last point. Empty parts and parts that
stand for the directory itself do not count; a point in front starts no extension.
-/

namespace Heightfield.FileName

/-- The parts of a path between its slashes. -/
def split : List Char → List (List Char)
  | [] => [[]]
  | '/' :: rest => [] :: split rest
  | c :: rest =>
    match split rest with
    | [] => [[c]]
    | part :: parts => (c :: part) :: parts

/-- The parts of a path that count. -/
def parts (path : String) : List String :=
  ((split path.toList).map String.ofList).filter fun p => p ≠ "" && p ≠ "."

/-- The last part of a path, unless it leads upwards. -/
def last? (path : String) : Option String :=
  match (parts path).getLast? with
  | some name => if name = ".." then none else some name
  | none => none

/-- The characters before and behind the last point, if there is one. -/
def splitAtPoint? (cs : List Char) : Option (List Char × List Char) :=
  let behind := cs.reverse.takeWhile (· ≠ '.')
  if behind.length = cs.length then none
  else some (cs.take (cs.length - behind.length - 1), behind.reverse)

/-- The extension of the last part. -/
def extension? (path : String) : Option String := do
  let name ← last? path
  let (before, behind) ← splitAtPoint? name.toList
  if before.isEmpty then none else some (String.ofList behind)

/-- The last part without its extension. -/
def stem? (path : String) : Option String := do
  let name ← last? path
  match splitAtPoint? name.toList with
  | some (before, _) => if before.isEmpty then some name else some (String.ofList before)
  | none => some name

end Heightfield.FileName
