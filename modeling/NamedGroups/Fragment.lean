import NamedGroups.Text

/-!
# Fragments of a pattern

A pattern is cut at its parentheses.  A backslash takes the following character
out of consideration, whatever that character is, so an escaped parenthesis
stays inside a text and an escaped backslash leaves the next parenthesis alone.
The fragments start and end with a text, and texts alternate with parentheses;
each text may be empty.
-/

namespace NamedGroups

/-- A piece of a pattern. -/
inductive Fragment where
  | opening
  | closing
  | plain (content : Text)
deriving DecidableEq

namespace Fragment

def extend (characters : Text) : List Fragment → List Fragment
  | .plain content :: fragments => .plain (characters ++ content) :: fragments
  | fragments => .plain characters :: fragments

/-- Cuts a pattern at its unescaped parentheses. -/
def split : Text → List Fragment
  | [] => [.plain []]
  | '\\' :: escaped :: rest => extend ['\\', escaped] (split rest)
  | '(' :: rest => .plain [] :: .opening :: split rest
  | ')' :: rest => .plain [] :: .closing :: split rest
  | character :: rest => extend [character] (split rest)

def render : Fragment → Text
  | .opening => ['(']
  | .closing => [')']
  | .plain content => content

end Fragment

end NamedGroups
