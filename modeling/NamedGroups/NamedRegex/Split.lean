import NamedGroups.NamedRegex.Search

/-!
# Splitting texts

A text is split at each match.  The texts that the groups of a separator have
captured come between the pieces, absent for groups that took no part.  An empty
match where the previous piece ended, or at the end of the text, is no
separator.  Of the empty text it is only asked whether it is a match.
-/

namespace NamedGroups

namespace Splitting

/-- The pieces from `last` on, where separators are searched for from `offset`
on. -/
def pieces (find : Finder) (text : Text) (last offset : Nat) :
    Except EngineError (List (Option Text)) :=
  if _inside : offset < text.byteSize then
    match find offset with
    | .error error => .error error
    | .ok none => .ok [some (text.dropBytes last)]
    | .ok (some found) =>
        if text.byteSize ≤ found.start then .ok [some (text.dropBytes last)]
        else if found.stop = last then
          let resume := text.nextOffset found.start
          if _ahead : offset < resume then pieces find text last resume
          else .ok [some (text.dropBytes last)]
        else
          let resume := found.resumeOffset text
          let separated := some (text.slice last found.start) :: found.captures
          if _ahead : offset < resume then
            (pieces find text found.stop resume).map (separated ++ ·)
          else .ok (separated ++ [some (text.dropBytes found.stop)])
  else .ok [some (text.dropBytes last)]
termination_by text.byteSize - offset

/-- The pieces of a text.  The empty text has none if it is a match itself. -/
def split (isMatch : Except EngineError Bool) (find : Finder) (text : Text) :
    Except EngineError (List (Option Text)) :=
  if text.isEmpty then do
    return if ← isMatch then [] else [some text]
  else pieces find text 0 0

end Splitting

namespace NamedRegex

def split {engine : RegexEngine} (regex : NamedRegex engine) (text : Text) :
    Except EngineError (List (Option Text)) :=
  Splitting.split (regex.test text) (regex.searchFrom text) text

end NamedRegex

end NamedGroups
