import NamedGroups.CommandLine.Run

/-!
# The command line program

Reads the files that the arguments name, runs the command line and writes what
it has to say.
-/

namespace NamedGroups.CommandLine

def readFile? (path : String) : IO (Option Text) := do
  try
    return some (← IO.FS.readFile path).toList
  catch _ => return none

/-- The content of the config file in the home directory. -/
def readHomeConfig? : IO (Option Text) := do
  match ← IO.getEnv "HOME" with
  | some home =>
      if home.isEmpty then return none else readFile? (home ++ "/.nre.toml")
  | none => return none

def usageLine : String :=
  "usage: nre [OPTIONS] <compile|exec|replace|search|split> " ++
    "<PATTERN> [TEXT] [REPLACEMENT]"

def readFiles (arguments : List Text) : IO Files := do
  let path := (Invocation.parse? arguments).bind (·.config)
  let content ← match path with
    | some path => readFile? (String.ofList path)
    | none => pure none
  return ⟨fun _ => content, ← readHomeConfig?⟩

end NamedGroups.CommandLine

open NamedGroups.CommandLine in
def main (arguments : List String) : IO UInt32 := do
  let arguments := arguments.map String.toList
  match run .standard arguments (← readFiles arguments) with
  | .usage =>
      IO.eprintln usageLine
      return 2
  | .finished code output errors =>
      IO.print (String.ofList output)
      IO.eprint (String.ofList errors)
      return code.toUInt32
