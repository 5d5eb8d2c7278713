import Heightfield.CommandLine.Execution

/-!
# Directories

The directory in which a command runs, as far as a command can tell: files with texts, by name, and
no directories in it. The directories around it are known to be there, their files are not.

* `Directory.locate` follows a path.
* `Directory.read` and `Directory.write` say what comes of reading and writing at a path.
* `Command.runIn` runs a command in a directory.

A path is followed part by part, and every part but the last has to be a directory. Slashes at the
end of a path ask for a directory too, so no file is read or written there.
-/

namespace Heightfield

/-- Why a file cannot be read or written. -/
inductive FileError where
  | notFound
  | notDirectory
  | isDirectory
  | nameTooLong
  deriving DecidableEq, Repr

/-- The wording of the error, with its number. -/
def FileError.message : FileError → String
  | .notFound => "No such file or directory (os error 2)"
  | .notDirectory => "Not a directory (os error 20)"
  | .isDirectory => "Is a directory (os error 21)"
  | .nameTooLong => "File name too long (os error 36)"

/-- A directory: its files by name. -/
structure Directory where
  files : List (String × String)
  deriving DecidableEq, Repr

namespace Directory

/-- Where a path leads, whether or not there is a file. -/
inductive Target where
  /-- to a directory -/
  | directory
  /-- to a name, in the directory itself if `inside`, with slashes behind it if `slashed` -/
  | name (inside : Bool) (name : String) (slashed : Bool)
  deriving DecidableEq, Repr

/-- The number of bytes that a name may have. -/
def maxNameLength : Nat := 255

/-- Follows the parts of a path from the directory itself if `inside`, otherwise from one around
it. -/
def follow (d : Directory) : Bool → List String → Except FileError Target
  | _, [] => .ok .directory
  | inside, part :: rest =>
    if part = "" || part = "." then follow d inside rest
    else if part = ".." then follow d false rest
    else if maxNameLength < part.utf8ByteSize then .error .nameTooLong
    else if rest.all (· = "") then .ok (.name inside part !rest.isEmpty)
    else if inside && (d.files.lookup part).isSome then .error .notDirectory
    else .error .notFound

/-- Follows a path. One that starts with a slash leads out of the directory. -/
def locate (d : Directory) (path : String) : Except FileError Target :=
  if path.isEmpty then .error .notFound
  else d.follow (!path.startsWith "/") ((FileName.split path.toList).map String.ofList)

/-- The text of the file at a path. -/
def read (d : Directory) (path : String) : Except FileError String := do
  match ← d.locate path with
  | .directory => throw .isDirectory
  | .name inside name slashed =>
    match if inside then d.files.lookup name else none with
    | some text => if slashed then throw .notDirectory else return text
    | none => throw .notFound

/-- The name that a file gets in the directory when it is written at a path; none if it comes to
lie outside. -/
def write (d : Directory) (path : String) : Except FileError (Option String) := do
  match ← d.locate path with
  | .directory => throw .isDirectory
  | .name inside name slashed =>
    if slashed then throw .isDirectory
    else return if inside then some name else none

end Directory

namespace Command

/-- Runs a command in a directory: its outcome, and the file that it has written there. -/
def runIn (c : Command) (d : Directory) : Outcome × Option (String × Content) :=
  let plan := c.plan ((d.read c.presetPath).mapError FileError.message)
  match plan.failure, plan.writing with
  | none, some w =>
    match d.write w.path with
    | .ok name => (plan.finish (.ok ()), name.map (·, w.content))
    | .error e => (plan.finish (.error e.message), none)
  | _, _ => (plan.finish (.ok ()), none)

end Command
end Heightfield
