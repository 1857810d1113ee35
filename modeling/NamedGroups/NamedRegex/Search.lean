import NamedGroups.Match
import NamedGroups.NamedRegex.Basic

/-!
# Searching

The searches of a regular expression give the leftmost match at or behind a
byte offset.  Where only a truth value or an offset is asked for, so is the
engine.
-/

namespace NamedGroups

/-- The answer of a search from each byte offset. -/
abbrev Finder := Nat → Except EngineError (Option Match)

/-- What an engine answers to a search from each byte offset: the span of each
slot. -/
abbrev Searches := Nat → Except EngineError (Option (List (Option Span)))

/-- The matches of a text, from the answers of the engine. -/
def Finder.ofSearches (searches : Searches) (text : Text)
    (groups : GroupIndex) : Finder :=
  fun offset => do
    let slots ← searches offset
    return slots.map fun slots => Match.ofSlots text slots groups

namespace NamedRegex

variable {engine : RegexEngine}

def searches (regex : NamedRegex engine) (text : Text) : Searches :=
  engine.search regex.matcher text

def searchFrom (regex : NamedRegex engine) (text : Text) : Finder :=
  Finder.ofSearches (regex.searches text) text regex.groups

def exec (regex : NamedRegex engine) (text : Text) :
    Except EngineError (Option Match) :=
  regex.searchFrom text 0

def test (regex : NamedRegex engine) (text : Text) : Except EngineError Bool :=
  engine.isMatch regex.matcher text

def search (regex : NamedRegex engine) (text : Text) :
    Except EngineError (Option Nat) := do
  return (← engine.find regex.matcher text).map Span.start

end NamedRegex

end NamedGroups
