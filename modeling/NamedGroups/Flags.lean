import NamedGroups.Text

/-!
# Flags

Four letters change how a pattern matches: `g` replaces every match, `i` ignores
case, `m` lets the anchors match at lines, and `s` lets the dot match line ends.
A flags text is a set of them: no letter may occur twice, and the order has no
meaning.
-/

namespace NamedGroups

/-- The flags of a regular expression. -/
structure Flags where
  /-- `g`: a replacement goes through all matches. -/
  global : Bool
  /-- `i`: letters match in either case. -/
  caseInsensitive : Bool
  /-- `m`: `^` and `$` match at the ends of each line. -/
  multiLine : Bool
  /-- `s`: the dot matches line ends too. -/
  dotMatchesNewline : Bool
deriving DecidableEq

namespace Flags

def empty : Flags := ⟨false, false, false, false⟩

/-- Sets the flag of a letter, unless there is no such flag or it is set
already. -/
def add? (flags : Flags) : Char → Option Flags
  | 'g' => if flags.global then none else some { flags with global := true }
  | 'i' =>
      if flags.caseInsensitive then none
      else some { flags with caseInsensitive := true }
  | 'm' =>
      if flags.multiLine then none else some { flags with multiLine := true }
  | 's' =>
      if flags.dotMatchesNewline then none
      else some { flags with dotMatchesNewline := true }
  | _ => none

def addAll? (flags : Flags) : Text → Option Flags
  | [] => some flags
  | letter :: letters =>
      match flags.add? letter with
      | none => none
      | some extended => extended.addAll? letters

def parse? (text : Text) : Option Flags := empty.addAll? text

def letter (isSet : Bool) (character : Char) : Text :=
  if isSet then [character] else []

/-- The canonical flags text: the letters in the order `g`, `i`, `m`, `s`. -/
def text (flags : Flags) : Text :=
  letter flags.global 'g' ++ letter flags.caseInsensitive 'i' ++
    letter flags.multiLine 'm' ++ letter flags.dotMatchesNewline 's'

theorem parse?_text (flags : Flags) : parse? flags.text = some flags := by
  obtain ⟨global, caseInsensitive, multiLine, dotMatchesNewline⟩ := flags
  cases global <;> cases caseInsensitive <;> cases multiLine <;>
    cases dotMatchesNewline <;> rfl

/-- The letters of the flags that the engine has to know about. -/
def inlineLetters (flags : Flags) : Text :=
  letter flags.caseInsensitive 'i' ++ letter flags.multiLine 'm' ++
    letter flags.dotMatchesNewline 's'

/-- The group that sets the flags inside a pattern.  Empty if the engine needs
none. -/
def inlinePrefix (flags : Flags) : Text :=
  match flags.inlineLetters with
  | [] => []
  | letters => ['(', '?'] ++ letters ++ [')']

end Flags

end NamedGroups
