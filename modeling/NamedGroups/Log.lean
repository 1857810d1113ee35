import NamedGroups.Inspection
import NamedGroups.NamedRegex.Compile

/-!
# The log of a compilation

Compiling a pattern is logged step by step: a record for each fragment of the
pattern, one for the positional source, and one for the compiled regular
expression.  Where the flags are invalid or the engine refuses the source, the
last record is missing.
-/

namespace NamedGroups

/-- How much a record matters. -/
inductive LogLevel where
  | trace
  | debug
deriving DecidableEq

def LogLevel.text : LogLevel → Text
  | trace => "trace".toList
  | debug => "debug".toList

/-- A record of the log. -/
structure LogRecord where
  level : LogLevel
  message : Text
deriving DecidableEq

namespace LogRecord

def ofFragment (number : Nat) (fragment : Fragment) : LogRecord where
  level := .trace
  message :=
    "fragment ".toList ++ Text.decimal number ++ ": ".toList ++ fragment.inspect

def ofFragments (number : Nat) : List Fragment → List LogRecord
  | [] => []
  | fragment :: fragments =>
      ofFragment number fragment :: ofFragments (number + 1) fragments

def ofPositional (pattern : Text) (positional : Positional) : LogRecord where
  level := .debug
  message :=
    "generated `".toList ++ positional.source ++ "` with ".toList ++
      Text.decimal positional.captures ++ " capture groups from `".toList ++
      pattern ++ "`".toList

def ofCompiled {engine : RegexEngine} (regex : NamedRegex engine) :
    LogRecord where
  level := .debug
  message :=
    "compiled `/".toList ++ regex.source ++ "/".toList ++ regex.flags.text ++
      "` with groups ".toList ++ regex.groups.inspect

def ofPattern (pattern : Text) : List LogRecord :=
  ofFragments 0 (Fragment.split pattern) ++
    [ofPositional pattern (Positional.ofPattern pattern)]

def ofResult {engine : RegexEngine} :
    Except PatternError (NamedRegex engine) → List LogRecord
  | .ok regex => [ofCompiled regex]
  | .error _ => []

end LogRecord

def NamedRegex.compileLog (engine : RegexEngine) (pattern : Pattern engine)
    (flags : Option Text) : List LogRecord :=
  LogRecord.ofPattern pattern.source ++
    LogRecord.ofResult (NamedRegex.compile engine pattern flags)

end NamedGroups
