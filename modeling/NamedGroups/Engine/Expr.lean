import NamedGroups.Engine.CharSet
import NamedGroups.Text

/-!
# Regular expressions of the engine

The parsed form of a pattern.  Capture groups carry their number, which counts
the opening parentheses of capture groups from the left.  Flags have been worked
into the expression: a literal that ignores case is a set, and the anchors tell
lines from texts.
-/

namespace NamedGroups.Engine

/-- Why the engine refuses a pattern. -/
inductive SyntaxError where
  | tooDeep
  | unclosedGroup
  /-- Something else stands where a closing parenthesis is due. -/
  | closingExpected
  | endExpected
  /-- A quantifier follows nothing that can be repeated. -/
  | nothingToRepeat
  /-- A repetition asks for more than it allows, or counts too far. -/
  | badRepetition
  | trailingBackslash
  /-- A backslash stands before a letter that has no meaning there. -/
  | badEscape
  /-- A code point is written in a wrong way, or is no character. -/
  | badCodePoint
  | unclosedClass
  /-- A class holds a range without two characters as its ends, or a
  reference. -/
  | badClassMember
  /-- The ends of a range in a class are in the wrong order. -/
  | badClassRange
  | badGroupName
  /-- A reference to a group that the pattern does not have. -/
  | badReference
  /-- A reference by number in a pattern that has groups with names. -/
  | numberedReference
  | unknownFlag
  /-- A conditional without branches whose condition is no reference. -/
  | emptyConditional
  /-- The body of a lookbehind may match texts of different lengths. -/
  | lookbehindLength
  /-- The program for the pattern would be too large. -/
  | tooLarge
deriving DecidableEq

/-- A condition on a position that takes up no text. -/
inductive Assertion where
  | textStart
  | textEnd
  | lineStart
  | lineEnd
  | wordBoundary
  | notWordBoundary
deriving DecidableEq

/-- A regular expression. -/
inductive Expr where
  | empty
  | literal (character : Char)
  /-- One character of a set. -/
  | charSet (set : CharSet)
  | assertion (condition : Assertion)
  | concat (parts : List Expr)
  /-- The first of the alternatives that leads to a match. -/
  | alternation (alternatives : List Expr)
  | group (number : Nat) (body : Expr)
  | look (behind negated : Bool) (body : Expr)
  /-- A repetition, between two counts or without an upper one. -/
  | repetition (body : Expr) (least : Nat) (most : Option Nat) (greedy : Bool)
  | backreference (number : Nat)
  /-- The condition that a group has captured something. -/
  | groupTest (number : Nat)
  /-- The first way in which the body matches, and no other. -/
  | atomic (body : Expr)
  /-- One of two branches, depending on whether a condition matches. -/
  | conditional (condition accepted rejected : Expr)

namespace Expr

def isEmpty : Expr → Bool
  | empty => true
  | _ => false

def isRepeatable : Expr → Bool
  | empty => false
  | assertion _ => false
  | look .. => false
  | _ => true

end Expr

end NamedGroups.Engine
