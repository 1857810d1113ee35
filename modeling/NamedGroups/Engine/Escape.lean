import NamedGroups.Engine.Expr

/-!
# Escapes

What a backslash and the characters after it stand for.  Inside a class there
are no positions to assert, so the letters of the assertions are plain there,
and `b` is the backspace.
-/

namespace NamedGroups.Engine

/-- The meaning of an escape. -/
inductive Escape where
  | character (character : Char)
  | set (set : CharSet)
  | assertion (condition : Assertion)

namespace Escape

def hexDigit? (character : Char) : Option Nat :=
  if '0' ≤ character ∧ character ≤ '9' then some (character.toNat - '0'.toNat)
  else if 'a' ≤ character ∧ character ≤ 'f' then
    some (character.toNat - 'a'.toNat + 10)
  else if 'A' ≤ character ∧ character ≤ 'F' then
    some (character.toNat - 'A'.toNat + 10)
  else none

def hexNumber? (digits : Text) : Option Nat :=
  digits.foldl
    (fun number digit => do return (← number) * 16 + (← hexDigit? digit))
    (some 0)

def ofCodePoint (codePoint : Nat) : Except SyntaxError Char :=
  if codePoint.isValidChar then .ok (Char.ofNat codePoint)
  else .error .badCodePoint

def maxBracedDigits : Nat := 8

/-- Reads a code point: exactly `width` digits, or one to eight digits between
braces. -/
def readCodePoint (width : Nat) (text : Text) :
    Except SyntaxError (Char × Text) :=
  let digits := text.take width
  match (if digits.length = width then hexNumber? digits else none), text with
  | some codePoint, _ => do return (← ofCodePoint codePoint, text.drop width)
  | none, '\x7b' :: rest =>
      let braced := rest.takeWhile fun character => (hexDigit? character).isSome
      match rest.drop braced.length with
      | '\x7d' :: after =>
          if braced ≠ [] ∧ braced.length ≤ maxBracedDigits then do
            return (← ofCodePoint ((hexNumber? braced).getD 0), after)
          else .error .badCodePoint
      | _ => .error .badCodePoint
  | none, _ => .error .badCodePoint

def control? : Char → Option Char
  | 'a' => some '\x07'
  | 'f' => some '\x0c'
  | 'n' => some '\n'
  | 'r' => some '\r'
  | 't' => some '\t'
  | 'v' => some '\x0b'
  | 'e' => some '\x1b'
  | _ => none

def set? : Char → Option CharSet
  | 'd' => some .digit
  | 'D' => some (.complement .digit)
  | 'w' => some .word
  | 'W' => some (.complement .word)
  | 's' => some .space
  | 'S' => some (.complement .space)
  | _ => none

def assertion? : Char → Option Assertion
  | 'A' => some .textStart
  | 'z' => some .textEnd
  | 'b' => some .wordBoundary
  | 'B' => some .notWordBoundary
  | _ => none

/-- The escape that starts with a letter which is neither a set nor a control
character. -/
def ofAssertionLetter (inClass : Bool) (letter : Char) :
    Except SyntaxError Escape :=
  match inClass, assertion? letter with
  | false, some condition => .ok (.assertion condition)
  | true, some .wordBoundary => .ok (.character '\x08')
  | true, some _ => .ok (.character letter)
  | inClass, none =>
      if inClass && letter == 'k' then .ok (.character letter)
      else if letter.isAlpha then .error .badEscape
      else .ok (.character letter)

/-- Reads what follows a backslash, references excepted. -/
def read (inClass : Bool) : Text → Except SyntaxError (Escape × Text)
  | [] => .error .trailingBackslash
  | 'x' :: rest => do
      let (decoded, rest) ← readCodePoint 2 rest
      return (.character decoded, rest)
  | 'u' :: rest => do
      let (decoded, rest) ← readCodePoint 4 rest
      return (.character decoded, rest)
  | letter :: rest =>
      match set? letter, control? letter with
      | some members, _ => .ok (.set members, rest)
      | none, some control => .ok (.character control, rest)
      | none, none => do return (← ofAssertionLetter inClass letter, rest)

end Escape

end NamedGroups.Engine
