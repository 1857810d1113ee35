import NamedGroups.Text
import NamedGroups.Unicode.Mark
import NamedGroups.Unicode.Unprintable

/-!
# Quoted texts

A quoted text stands between double quotes.  Quotes and backslashes inside get a
backslash, the common controls are written by a letter, and every other
character that cannot be seen on its own is written as its hexadecimal code
point between braces.
-/

namespace NamedGroups.Text

def bracedCodePoint (character : Char) : Text :=
  ['\\', 'u', '\x7b'] ++ Nat.toDigits 16 character.toNat ++ ['\x7d']

def isVisible (character : Char) : Bool :=
  !Unicode.Ranges.contains Unicode.graphemeExtend character.toNat &&
    !Unicode.Ranges.contains Unicode.unprintable character.toNat

def quoteCharacter (character : Char) : Text :=
  match character with
  | '\x00' => ['\\', '0']
  | '\t' => ['\\', 't']
  | '\r' => ['\\', 'r']
  | '\n' => ['\\', 'n']
  | '"' => ['\\', '"']
  | '\\' => ['\\', '\\']
  | _ => if isVisible character then [character] else bracedCodePoint character

def quote (text : Text) : Text := '"' :: text.flatMap quoteCharacter ++ ['"']

end NamedGroups.Text
