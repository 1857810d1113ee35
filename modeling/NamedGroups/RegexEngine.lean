import NamedGroups.Text

/-!
# Regular expression engines

A regular expression with named groups is run by an engine that knows of
positions only.  An engine compiles a pattern or refuses it, and looks for the
compiled pattern in texts.  Nothing else is known of an engine here: a result
that rests on more asks for it by name.
-/

namespace NamedGroups

/-- A range of byte offsets. -/
structure Span where
  start : Nat
  stop : Nat
deriving DecidableEq

/-- What an engine has to say when it refuses a pattern or gives up a search. -/
structure EngineError where
  message : Text
deriving DecidableEq

/-- An engine, with the three ways in which it is asked for a match. -/
structure RegexEngine where
  /-- The patterns that have been compiled. -/
  Regex : Type
  compile : Text → Except EngineError Regex
  source : Regex → Text
  /-- Whether there is a match in a text. -/
  isMatch : Regex → Text → Except EngineError Bool
  /-- The span of the first match in a text. -/
  find : Regex → Text → Except EngineError (Option Span)
  /-- The first match at or behind a byte offset: the span of each slot, the
  whole match first. -/
  search : Regex → Text → Nat → Except EngineError (Option (List (Option Span)))

end NamedGroups
