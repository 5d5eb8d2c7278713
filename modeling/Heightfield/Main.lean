import Heightfield.CommandLine.Directory

/-!
# The program

Reads the command line, the preset and nothing else; prints, and writes at most one file.
-/

namespace Heightfield

/-- What the program says when it is not used as intended. -/
def usage : String :=
  Shader.unlines [
    "usage: heightfield compile PRESET [--dialect NAME] [--world-pos] [--set NAME=VALUE]... [-o FILE]",
    "       heightfield check PRESET",
    "       heightfield render PRESET -o FILE [FRAME OPTIONS]",
    "       heightfield terrace PRESET [--cube] [FRAME OPTIONS]",
    "       heightfield variations PRESET PARAMETER [--count N]",
    "frame options: [--time SECONDS] [--resolution N] [--backend NAME] [--world-pos]",
    "               [--set NAME=VALUE]..."]

/-- The reason of a failed file operation. -/
def reason (e : IO.Error) : String :=
  match e with
  | .noFileOrDirectory .. => FileError.notFound.message
  | .inappropriateType _ 20 _ => FileError.notDirectory.message
  | .inappropriateType _ 21 _ => FileError.isDirectory.message
  | .permissionDenied .. => "Permission denied (os error 13)"
  | other => toString other

/-- The text of a file, or why it cannot be read. -/
def readText (path : String) : IO (Except String String) := do
  match ← (IO.FS.readFile path).toBaseIO with
  | .ok text => return .ok text
  | .error e => return .error (reason e)

/-- Writes a file, or says why it cannot be written. -/
def writeContent (path : String) (content : Content) : IO (Except String Unit) := do
  match ← (IO.FS.writeBinFile path ⟨content.bytes.toArray⟩).toBaseIO with
  | .ok () => return .ok ()
  | .error e => return .error (reason e)

end Heightfield

open Heightfield in
def main (args : List String) : IO UInt32 := do
  match Command.parse? args with
  | none =>
    IO.eprint usage
    return UInt32.ofNat usageStatus
  | some command =>
    let plan := command.plan (← readText command.presetPath)
    let written ← match plan.failure, plan.writing with
      | none, some w => writeContent w.path w.content
      | _, _ => pure (.ok ())
    let outcome := plan.finish written
    IO.print outcome.stdout
    IO.eprint outcome.stderr
    return UInt32.ofNat outcome.status
