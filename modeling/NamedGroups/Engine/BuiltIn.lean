import NamedGroups.Engine.Regex

/-!
# The built-in engine

The engine of this library, which the command line runs.  Other engines know
more escapes and more classes of characters; a regular expression with named
groups works with any of them.
-/

namespace NamedGroups.Engine

def SyntaxError.message : SyntaxError → Text
  | .tooDeep => "groups are nested too deeply".toList
  | .unclosedGroup => "a group is not closed".toList
  | .closingExpected => "a closing parenthesis is missing".toList
  | .endExpected => "a closing parenthesis is unopened".toList
  | .nothingToRepeat => "a quantifier follows nothing".toList
  | .badRepetition => "a repetition counts wrongly".toList
  | .trailingBackslash => "a backslash ends the pattern".toList
  | .badEscape => "an escape is unknown".toList
  | .badCodePoint => "a code point is no character".toList
  | .unclosedClass => "a class is not closed".toList
  | .badClassMember => "a class has a wrong member".toList
  | .badClassRange => "a range ends before it starts".toList
  | .badGroupName => "a group has a wrong name".toList
  | .badReference => "a reference has no group".toList
  | .numberedReference => "a numbered reference is among named groups".toList
  | .unknownFlag => "a flag is unknown".toList
  | .emptyConditional => "a conditional has no branches".toList
  | .lookbehindLength => "a lookbehind has no constant length".toList
  | .tooLarge => "the program is too large".toList

def builtIn : RegexEngine where
  Regex := Regex
  compile pattern :=
    (Regex.compile pattern).mapError fun problem => ⟨problem.message⟩
  source := Regex.source
  isMatch regex text :=
    ((regex.search text 0).map Option.isSome).mapError
      fun problem => ⟨problem.message⟩
  find regex text :=
    ((regex.search text 0).map
      (Option.map fun slots => slots.head?.join.getD ⟨0, 0⟩)).mapError
        fun problem => ⟨problem.message⟩
  search regex text offset :=
    (regex.search text offset).mapError fun problem => ⟨problem.message⟩

end NamedGroups.Engine
