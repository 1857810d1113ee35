import NamedGroups.Engine.BuiltIn
import NamedGroups.Json

/-!
# What the command line rests on

The command line leaves it to an engine to run patterns, and to a writer to
write JSON values.
-/

namespace NamedGroups.CommandLine

/-- An engine, and a writer of JSON values on one line. -/
structure Host where
  engine : RegexEngine
  writeJson : Json → Text

/-- The built-in engine, with compact JSON. -/
def Host.standard : Host := ⟨Engine.builtIn, Json.render⟩

end NamedGroups.CommandLine
