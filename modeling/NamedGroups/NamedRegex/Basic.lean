import NamedGroups.Flags
import NamedGroups.Positional
import NamedGroups.RegexEngine

/-!
# Regular expressions with named groups

A regular expression keeps the pattern as it was written, the positional source
that the engine runs, and the index that leads from names and ordinals to
capture groups.  It is displayed as `/source/flags`, with a backslash before
each slash of the source that has none yet.
-/

namespace NamedGroups

/-- A regular expression with named groups, compiled by an engine. -/
structure NamedRegex (engine : RegexEngine) where
  matcher : engine.Regex
  pattern : Text
  /-- The pattern with positions in the place of names. -/
  source : Text
  flags : Flags
  groups : GroupIndex
  named : NamedSources

/-- Writes a backslash before each slash that is not escaped. -/
def escapeSlashes : Text → Text
  | [] => []
  | '\\' :: escaped :: rest => '\\' :: escaped :: escapeSlashes rest
  | '/' :: rest => '\\' :: '/' :: escapeSlashes rest
  | character :: rest => character :: escapeSlashes rest

namespace NamedRegex

def display {engine : RegexEngine} (regex : NamedRegex engine) : Text :=
  '/' :: escapeSlashes regex.source ++ '/' :: regex.flags.text

end NamedRegex

end NamedGroups
