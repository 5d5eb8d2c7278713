/-!
# Error reports

A report is a chain of messages: the first says what failed, each further one why the one before it
did.
-/

namespace Heightfield

/-- The messages of an error, from the outermost to the cause. -/
abbrev Report := List String

namespace Report

/-- The report on one line. -/
def joined (r : Report) : String :=
  ": ".intercalate r

/-- The report with one more reason in front. -/
def within (context : String) (r : Report) : Report :=
  context :: r

/-- A text whose lines but the first are indented by `n` blanks. -/
def hang (n : Nat) (s : String) : String :=
  String.ofList (s.toList.flatMap fun c =>
    if c = '\n' then '\n' :: List.replicate n ' ' else [c])

/-- The report as a program prints it when it stops: the first message, and the causes indented
below it, with numbers if there are several. All lines of a cause are indented alike. -/
def display : Report → String
  | [] => "Error: \n"
  | [message] => s!"Error: {message}\n"
  | [message, cause] => s!"Error: {message}\n\nCaused by:\n    {hang 4 cause}\n"
  | message :: causes =>
    let lines := causes.mapIdx fun i cause => s!"    {i}: {hang 7 cause}\n"
    s!"Error: {message}\n\nCaused by:\n" ++ String.join lines

end Report
end Heightfield
