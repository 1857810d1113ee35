import NamedGroups.GroupSyntax
import NamedGroups.Match

/-!
# Replacement templates

A template is a text with tokens that start with a dollar sign.  It is used in
two steps.  `Template.resolve` puts the slot number of the group in the place of
each placeholder `$+{name}`; placeholders of unknown groups are dropped.
`Template.expand` then reads the tokens and writes their values: `$$` for the
sign itself, `$&` for the match, `$` with a grave accent or an apostrophe for
the text before or after it, and `$1`, `$12` or `${12}` for a slot.
-/

namespace NamedGroups.Template

/-- The name in front of the first closing brace, if it is a valid one. -/
def placeholderName? (text : Text) : Option Text :=
  let name := text.takeWhile (· != '\x7d')
  if name.length = text.length then none
  else
    match name with
    | [] => none
    | first :: rest =>
        if GroupSyntax.isNameStart first &&
            rest.all GroupSyntax.isNameContinue &&
            decide (name.length ≤ GroupSyntax.maxNameLength) then
          some name
        else none

def slotToken (slot : Nat) : Text :=
  ['$', '\x7b'] ++ Text.decimal slot ++ ['\x7d']

/-- What stands in the place of the placeholder of a name. -/
def resolved (groups : GroupIndex) (name : Text) : Text :=
  match groups.named? name with
  | some slot => slotToken slot
  | none => []

/-- Replaces each placeholder by the token for its slot. -/
def resolve (groups : GroupIndex) (template : Text) : Text :=
  match template with
  | [] => []
  | '$' :: '+' :: '\x7b' :: tail =>
      match placeholderName? tail with
      | some name =>
          resolved groups name ++ resolve groups (tail.drop (name.length + 1))
      | none => '$' :: '+' :: '\x7b' :: resolve groups tail
  | character :: rest => character :: resolve groups rest
termination_by template.length
decreasing_by all_goals simp +arith

/-- A token of a template. -/
inductive Token where
  | character (character : Char)
  /-- `$$`: a dollar sign. -/
  | dollar
  /-- `$&`: the whole match. -/
  | whole
  | before
  | after
  /-- `${12}`: a slot. -/
  | slot (number : Nat)
  /-- `$1` or `$12`: a slot, if there is one with that number.  The second digit
  belongs to the number only where a slot has the number of both. -/
  | digits (first : Char) (second : Option Char)
deriving DecidableEq

/-- The number between braces, behind the opening one, and what follows the
closing one.  Numbers beyond a machine word are no numbers here. -/
def bracedNumber? (text : Text) : Option (Nat × Text) :=
  let digits := text.takeWhile Char.isDigit
  match text.drop digits.length with
  | '\x7d' :: rest => (Text.readWord? digits).map fun number => (number, rest)
  | _ => none

private theorem length_of_bracedNumber? {text rest : Text} {number : Nat}
    (found : bracedNumber? text = some (number, rest)) :
    rest.length < text.length := by
  unfold bracedNumber? at found
  have shorter :=
    List.length_drop (i := (text.takeWhile Char.isDigit).length) (l := text)
  dsimp only at found
  split at found
  · rename_i tail equal
    rw [equal] at shorter
    cases word : Text.readWord? (text.takeWhile Char.isDigit) with
    | none => simp [word] at found
    | some value =>
        simp only [word, Option.map_some, Option.some.injEq, Prod.mk.injEq]
          at found
        obtain ⟨_, rfl⟩ := found
        simp only [List.length_cons] at shorter
        omega
  · simp at found

def tokens (template : Text) : List Token :=
  match template with
  | [] => []
  | '$' :: '$' :: rest => .dollar :: tokens rest
  | '$' :: '&' :: rest => .whole :: tokens rest
  | '$' :: '\x60' :: rest => .before :: tokens rest
  | '$' :: '\x27' :: rest => .after :: tokens rest
  | '$' :: '\x7b' :: rest =>
      match _found : bracedNumber? rest with
      | some (number, rest) => .slot number :: tokens rest
      | none => .character '$' :: tokens ('\x7b' :: rest)
  | '$' :: first :: second :: rest =>
      if first.isDigit then
        if second.isDigit then .digits first (some second) :: tokens rest
        else .digits first none :: tokens (second :: rest)
      else .character '$' :: tokens (first :: second :: rest)
  | ['$', first] =>
      if first.isDigit then [.digits first none]
      else [.character '$', .character first]
  | character :: rest => .character character :: tokens rest
termination_by template.length
decreasing_by
  all_goals simp +arith
  have shorter := length_of_bracedNumber? _found
  omega

def digitValue (digit : Char) : Nat := digit.toNat - '0'.toNat

/-- Whether a number is that of a capture group of the match. -/
def isGroup (found : Match) (number : Nat) : Bool :=
  decide (1 ≤ number) && decide (number < found.size)

def slotValue (found : Match) (slot : Nat) : Text := (found.get? slot).getD []

def Token.value (found : Match) : Token → Text
  | .character plain => [plain]
  | .dollar => ['$']
  | .whole => found.text
  | .before => found.before
  | .after => found.after
  | .slot number => slotValue found number
  | .digits first none =>
      if isGroup found (digitValue first) then
        slotValue found (digitValue first)
      else ['$', first]
  | .digits first (some second) =>
      let both := 10 * digitValue first + digitValue second
      if isGroup found both then slotValue found both
      else if isGroup found (digitValue first) then
        slotValue found (digitValue first) ++ [second]
      else ['$', first, second]

/-- The text that a template without placeholders stands for. -/
def expand (template : Text) (found : Match) : Text :=
  (tokens template).flatMap (Token.value found)

end NamedGroups.Template
