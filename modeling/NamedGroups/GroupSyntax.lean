import NamedGroups.Text

/-!
# The syntax after an opening parenthesis

What follows an opening parenthesis decides what the parenthesis opens.  A
header `?<name>`, `:<name>` or `?P<name>` gives a capture group a name.  A
reference `?&name` or `:&name` asks for the pattern of the group of that name.
Everything else that starts with a question mark is no capture group, except for
the headers whose name is of a shape that is not known here: the engine takes
those as named groups of its own.
-/

namespace NamedGroups.GroupSyntax

def maxNameLength : Nat := 51

/-- The characters that may start a name: ASCII letters, the low line and the
dollar sign. -/
def isNameStart (character : Char) : Bool :=
  character.isAlpha || character == '_' || character == '$'

/-- The characters that may continue a name: those that may start one, and ASCII
digits. -/
def isNameContinue (character : Char) : Bool :=
  isNameStart character || character.isDigit

/-- The longest name that the text starts with, cut at the greatest length.
Empty if the text starts with no name. -/
def leadingName : Text → Text
  | [] => []
  | character :: rest =>
      if isNameStart character then
        character :: (rest.take (maxNameLength - 1)).takeWhile isNameContinue
      else []

def headerTail? : Text → Option Text
  | '?' :: '<' :: tail => some tail
  | ':' :: '<' :: tail => some tail
  | '?' :: 'P' :: '<' :: tail => some tail
  | _ => none

/-- The name in the header at the start of the text, and what follows the
header. -/
def header? (text : Text) : Option (Text × Text) :=
  match headerTail? text with
  | none => none
  | some tail =>
      match leadingName tail with
      | [] => none
      | name =>
          match tail.drop name.length with
          | '>' :: rest => some (name, rest)
          | _ => none

def referenceTail? : Text → Option Text
  | '?' :: '&' :: tail => some tail
  | ':' :: '&' :: tail => some tail
  | _ => none

/-- The name in the reference at the start of the text. -/
def reference? (text : Text) : Option Text :=
  match referenceTail? text with
  | none => none
  | some tail =>
      match leadingName tail with
      | [] => none
      | name => some name

/-- Whether a text right after an opening parenthesis starts a capture group. -/
def isCapturing : Text → Bool
  | '?' :: 'P' :: '<' :: _ => true
  | '?' :: '<' :: '=' :: _ => false
  | '?' :: '<' :: '!' :: _ => false
  | '?' :: '<' :: _ => true
  | '?' :: rest => (reference? ('?' :: rest)).isSome
  | _ => true

end NamedGroups.GroupSyntax
