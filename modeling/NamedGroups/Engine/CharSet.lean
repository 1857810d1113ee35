import NamedGroups.Unicode.CaseFolding
import NamedGroups.Unicode.Classes

/-!
# Sets of characters

A set is kept as the expression that describes it, and membership is decided by
evaluating that expression.  `anyCase` closes a set under changes of case.
-/

namespace NamedGroups.Engine

/-- A description of a set of characters. -/
inductive CharSet where
  /-- No character. -/
  | empty
  /-- All characters from the first to the last in the order of code points. -/
  | range (first last : Char)
  | digit
  | word
  | space
  | union (left right : CharSet)
  | inter (left right : CharSet)
  | diff (left right : CharSet)
  | complement (set : CharSet)
  /-- The characters that differ from a member by case at most. -/
  | anyCase (set : CharSet)
deriving DecidableEq

namespace CharSet

def mem : CharSet → Char → Bool
  | empty, _ => false
  | range first last, character =>
      decide (first.toNat ≤ character.toNat) &&
        decide (character.toNat ≤ last.toNat)
  | digit, character => Unicode.isDigit character
  | word, character => Unicode.isWord character
  | space, character => Unicode.isSpace character
  | union left right, character => left.mem character || right.mem character
  | inter left right, character => left.mem character && right.mem character
  | diff left right, character => left.mem character && !right.mem character
  | complement set, character => !set.mem character
  | anyCase set, character =>
      (Unicode.caseVariants character).any fun variant => set.mem variant

def single (character : Char) : CharSet := range character character

def symmetricDifference (left right : CharSet) : CharSet :=
  union (diff left right) (diff right left)

def foldIf (ignoreCase : Bool) (set : CharSet) : CharSet :=
  if ignoreCase then anyCase set else set

def ofRanges (ranges : List (Char × Char)) : CharSet :=
  ranges.foldl (fun set ends => union set (range ends.1 ends.2)) empty

def all : CharSet := complement empty

def notNewline : CharSet := complement (single '\n')

end CharSet

end NamedGroups.Engine
