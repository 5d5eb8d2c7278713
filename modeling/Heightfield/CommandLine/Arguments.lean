import Heightfield.Heightmap.Config
import Heightfield.Preset.Override
import Heightfield.Shader.Token

/-!
# Command-line arguments

A command line is a command and its arguments: positional ones, flags, and options with a value. An
option takes its value from behind an equals sign or from the next argument, which must not look
like an option itself. Flags and options may be given once; only assignments may be repeated.

* `Arguments.scan` sorts the arguments of a command by what they are.
* `Command.parse?` reads a whole command line; there is one way for it to fail.
-/

namespace Heightfield

/-- What a command accepts. -/
structure Arguments.Grammar where
  /-- the number of positional arguments -/
  positionals : Nat
  /-- the options that take a value, by their long names -/
  options : List String
  /-- the options that may be repeated -/
  repeatable : List String
  /-- the flags, by their long names -/
  flags : List String
  /-- the letters that stand for options -/
  letters : List (Char × String)

/-- Arguments sorted by what they are. -/
structure Arguments where
  positionals : List String := []
  values : List (String × String) := []
  flags : List String := []
  deriving DecidableEq, Repr

namespace Arguments

/-- The argument is no value of an option: it starts with a dash and is more than that. -/
def looksLikeOption (a : String) : Bool :=
  a.startsWith "-" && a ≠ "-"

/-- The characters before the first equals sign, and those behind it if there is one. -/
def splitAtEquals (cs : List Char) : String × Option String :=
  let name := String.ofList (cs.takeWhile (· ≠ '='))
  match cs.dropWhile (· ≠ '=') with
  | [] => (name, none)
  | _ :: value => (name, some (String.ofList value))

/-- Adds the value of an option. -/
def addValue? (g : Grammar) (a : Arguments) (name value : String) : Option Arguments :=
  if !g.repeatable.contains name && (a.values.lookup name).isSome then none
  else some { a with values := a.values ++ [(name, value)] }

/-- Adds a flag. -/
def addFlag? (a : Arguments) (name : String) : Option Arguments :=
  if a.flags.contains name then none else some { a with flags := a.flags ++ [name] }

/-- Adds a positional argument. -/
def addPositional? (g : Grammar) (a : Arguments) (value : String) : Option Arguments :=
  if a.positionals.length < g.positionals then
    some { a with positionals := a.positionals ++ [value] }
  else none

/-- What one argument starts. -/
inductive Start where
  /-- an option that is complete -/
  | complete (a : Arguments)
  /-- an option whose value is the next argument -/
  | pending (name : String)

/-- Reads an argument that looks like an option. -/
def startOption? (g : Grammar) (a : Arguments) : List Char → Option Start
  | '-' :: '-' :: cs =>
    let (name, value?) := splitAtEquals cs
    if g.options.contains name then
      match value? with
      | some value => (addValue? g a name value).map .complete
      | none => some (.pending name)
    else if g.flags.contains name && value?.isNone then (addFlag? a name).map .complete
    else none
  | '-' :: letter :: cs =>
    match g.letters.lookup letter with
    | none => none
    | some name =>
      match cs with
      | [] => some (.pending name)
      | '=' :: value => (addValue? g a name (String.ofList value)).map .complete
      | value => (addValue? g a name (String.ofList value)).map .complete
  | _ => none

/-- Sorts arguments. Behind a double dash all are positional. -/
def scan (g : Grammar) : List String → Arguments → Option Arguments
  | [], a => some a
  | "--" :: rest, a => rest.foldlM (addPositional? g) a
  | arg :: rest, a =>
    if looksLikeOption arg then
      match startOption? g a arg.toList with
      | none => none
      | some (.complete a) => scan g rest a
      | some (.pending name) =>
        match rest with
        | [] => none
        | value :: rest =>
          if looksLikeOption value then none
          else
            match addValue? g a name value with
            | some a => scan g rest a
            | none => none
    else
      match addPositional? g a arg with
      | some a => scan g rest a
      | none => none

/-- The value of an option, read by `read`; the fallback if it is not given, nothing if it cannot be
read. -/
def value? {α : Type} (a : Arguments) (name : String) (fallback : α) (read : String → Option α) :
    Option α :=
  match a.values.lookup name with
  | none => some fallback
  | some raw => read raw

/-- All values of an option. -/
def all (a : Arguments) (name : String) : List String :=
  a.values.filterMap fun (n, v) => if n = name then some v else none

/-! ## Values -/

/-- A path, which must not be empty. -/
def path? (raw : String) : Option String :=
  if raw.isEmpty then none else some raw

/-- An optional path. -/
def somePath? (raw : String) : Option (Option String) :=
  (path? raw).map some

/-- A number of 64 bits; a plus sign may stand in front. -/
def size? (raw : String) : Option Nat :=
  let digits := match raw.toList with
    | '+' :: rest => rest
    | cs => cs
  if digits.isEmpty || !digits.all Char.isDigit then none
  else
    let n := Number.ofDigits digits
    if n < Nat.pow 2 64 then some n else none

/-- A number of 32 bits; a sign may stand in front. -/
def resolution? (raw : String) : Option (Option Nat) :=
  let (negative, digits) := Number.takeSign raw.toList
  if digits.isEmpty || !digits.all Char.isDigit then none
  else
    let n := Number.ofDigits digits
    if n < Nat.pow 2 32 && !(negative && n ≠ 0) then some (some n) else none

end Arguments

/-- What the commands that render a frame have in common. -/
structure FrameOptions where
  preset : String
  /-- the seconds that have passed, before they are scaled -/
  time : Float32
  resolution : Option Nat
  backend : Backend
  worldPos : Bool
  overrides : List Override
  deriving DecidableEq, Repr

/-- A command. -/
inductive Command where
  /-- print the shader of a preset, or write it to a file -/
  | compile (preset : String) (dialect : Dialect) (worldPos : Bool) (overrides : List Override)
      (output : Option String)
  /-- print the diagnostics of a preset -/
  | check (preset : String)
  /-- write the heightmap as a grey image -/
  | render (options : FrameOptions) (output : String)
  /-- print how many instances each layer of the terrace has -/
  | terrace (options : FrameOptions) (cube : Bool)
  /-- print a digest for each variation of a parameter -/
  | variations (preset parameter : String) (count : Nat)
  deriving DecidableEq, Repr

namespace Command

open Arguments (Grammar)

/-- The grammar of `compile`. -/
def compileGrammar : Grammar :=
  ⟨1, ["dialect", "set", "output"], ["set"], ["world-pos"], [('o', "output")]⟩

/-- The grammar of `check`. -/
def checkGrammar : Grammar := ⟨1, [], [], [], []⟩

/-- The grammar of `render`. -/
def renderGrammar : Grammar :=
  ⟨1, ["time", "resolution", "backend", "set", "output"], ["set"], ["world-pos"], [('o', "output")]⟩

/-- The grammar of `terrace`. -/
def terraceGrammar : Grammar :=
  ⟨1, ["time", "resolution", "backend", "set"], ["set"], ["world-pos", "cube"], []⟩

/-- The grammar of `variations`. -/
def variationsGrammar : Grammar := ⟨2, ["count"], [], [], []⟩

/-- The assignments among the arguments. -/
def overrides? (a : Arguments) : Option (List Override) :=
  (a.all "set").mapM fun raw => (Override.parse raw).toOption

/-- The first positional argument, a path. -/
def preset? (a : Arguments) : Option String :=
  a.positionals.head?.bind Arguments.path?

/-- The options of a frame among the arguments. -/
def frameOptions? (a : Arguments) : Option FrameOptions := do
  let preset ← preset? a
  let time ← a.value? "time" 0 fun raw => (Number.parseFloat32 raw).toOption
  let resolution ← a.value? "resolution" none Arguments.resolution?
  let backend ← a.value? "backend" .auto fun raw => (Backend.parse raw).toOption
  let overrides ← overrides? a
  return ⟨preset, time, resolution, backend, a.flags.contains "world-pos", overrides⟩

/-- Reads the arguments of a command. -/
def parseAs? (name : String) (rest : List String) : Option Command := do
  match name with
  | "compile" =>
    let a ← Arguments.scan compileGrammar rest {}
    let preset ← preset? a
    let dialect ← a.value? "dialect" .wgsl fun raw => (Dialect.parse raw).toOption
    let overrides ← overrides? a
    let output ← a.value? "output" none Arguments.somePath?
    return .compile preset dialect (a.flags.contains "world-pos") overrides output
  | "check" =>
    let a ← Arguments.scan checkGrammar rest {}
    return .check (← preset? a)
  | "render" =>
    let a ← Arguments.scan renderGrammar rest {}
    let options ← frameOptions? a
    let output ← (a.values.lookup "output").bind Arguments.path?
    return .render options output
  | "terrace" =>
    let a ← Arguments.scan terraceGrammar rest {}
    return .terrace (← frameOptions? a) (a.flags.contains "cube")
  | "variations" =>
    let a ← Arguments.scan variationsGrammar rest {}
    let preset ← preset? a
    let parameter ← a.positionals[1]?
    let count ← a.value? "count" 4 Arguments.size?
    return .variations preset parameter count
  | _ => none

/-- Reads a command line; nothing if it is not used as intended. -/
def parse? : List String → Option Command
  | [] => none
  | name :: rest => parseAs? name rest

/-- The path of the preset that a command reads. -/
def presetPath : Command → String
  | .compile preset .. => preset
  | .check preset => preset
  | .render options _ => options.preset
  | .terrace options _ => options.preset
  | .variations preset .. => preset

end Command
end Heightfield
