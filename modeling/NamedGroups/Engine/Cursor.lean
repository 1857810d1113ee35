import NamedGroups.Engine.Expr

/-!
# Places in a text

A cursor is a place between two characters of a text.  It keeps the characters
before it in reverse order, so that stepping in either direction looks at the
head of a list, and its byte offset.
-/

namespace NamedGroups.Engine

/-- A place in a text. -/
structure Cursor where
  /-- The characters before the place, the nearest first. -/
  before : Text
  after : Text
  offset : Nat
deriving DecidableEq

namespace Cursor

def ofText (text : Text) : Cursor := ⟨[], text, 0⟩

def next? (cursor : Cursor) : Option (Char × Cursor) :=
  match cursor.after with
  | [] => none
  | character :: rest =>
      some (character,
        ⟨character :: cursor.before, rest, cursor.offset + character.utf8Size⟩)

def previous? (cursor : Cursor) : Option Cursor :=
  match cursor.before with
  | [] => none
  | character :: rest =>
      some ⟨rest, character :: cursor.after, cursor.offset - character.utf8Size⟩

def back? : Nat → Cursor → Option Cursor
  | 0, cursor => some cursor
  | count + 1, cursor => do back? count (← cursor.previous?)

def skipText? : Text → Cursor → Option Cursor
  | [], cursor => some cursor
  | expected :: rest, cursor => do
      let (character, following) ← cursor.next?
      if character = expected then skipText? rest following else none

def seek (offset : Nat) (before : Text) (position : Nat) : Text → Cursor
  | [] => ⟨before, [], position⟩
  | character :: rest =>
      if position < offset then
        seek offset (character :: before) (position + character.utf8Size) rest
      else ⟨before, character :: rest, position⟩

def atOffset (text : Text) (offset : Nat) : Cursor := seek offset [] 0 text

end Cursor

/-- Whether an assertion holds between two neighbouring characters.  `none`
stands for the ends of the text. -/
def Assertion.holds (previous following : Option Char) : Assertion → Bool
  | .textStart => previous.isNone
  | .textEnd => following.isNone
  | .lineStart => previous.all (· == '\n')
  | .lineEnd => following.all (· == '\n')
  | .wordBoundary => previous.any Unicode.isWord != following.any Unicode.isWord
  | .notWordBoundary =>
      previous.any Unicode.isWord == following.any Unicode.isWord

end NamedGroups.Engine
