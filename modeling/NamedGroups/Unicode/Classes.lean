import NamedGroups.Unicode.Alphabetic
import NamedGroups.Unicode.Mark
import NamedGroups.Unicode.Number
import NamedGroups.Unicode.Spacing

/-!
# Character classes

The classes that patterns name by an escape, and the characters of group names
that only the engine knows.  All of them are properties of Unicode 15.0 and
reach beyond ASCII.
-/

namespace NamedGroups.Unicode

def isDigit (character : Char) : Bool :=
  Ranges.contains decimalDigit character.toNat

def isSpace (character : Char) : Bool :=
  Ranges.contains whiteSpace character.toNat

/-- The two characters that join or part their neighbours without being seen. -/
def isJoinControl (character : Char) : Bool :=
  character.toNat == 0x200C || character.toNat == 0x200D

/-- A character that words are made of: letters, marks, digits and
connectors. -/
def isWord (character : Char) : Bool :=
  Ranges.contains alphabetic character.toNat ||
    Ranges.contains mark character.toNat || isDigit character ||
    Ranges.contains connectorPunctuation character.toNat ||
    isJoinControl character

def isAlphanumeric (character : Char) : Bool :=
  Ranges.contains alphabetic character.toNat || isDigit character ||
    Ranges.contains otherNumber character.toNat

end NamedGroups.Unicode
