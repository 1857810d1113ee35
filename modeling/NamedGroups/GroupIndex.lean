import NamedGroups.OrderedMap
import NamedGroups.Text.Decimal

/-!
# Keys and indexes of capture groups

A capture group is found by its name, or by an ordinal if it has none of its
own.  A group index gives each key the number of its capture group, counted from
one in the order of the opening parentheses; capture zero is the whole match.
-/

namespace NamedGroups

/-- What identifies a capture group. -/
inductive GroupKey where
  | name (text : Text)
  /-- A group without one.  Ordinals count only such groups, from zero. -/
  | ordinal (number : Nat)
deriving DecidableEq

namespace GroupKey

def name? : GroupKey → Option Text
  | .name text => some text
  | .ordinal _ => none

/-- The key as it is displayed: the bare name or the decimal ordinal. -/
def text : GroupKey → Text
  | .name text => text
  | .ordinal number => Text.decimal number

end GroupKey

/-- The request for a group that is not there. -/
inductive MissingGroup where
  | noGroup (name : Text)
  | noCapture (name : Text)
  /-- No group at that position took part in the match. -/
  | noCaptureAt (position : Nat)
deriving DecidableEq

namespace MissingGroup

def message : MissingGroup → Text
  | .noGroup name => "no group named `".toList ++ name ++ "`".toList
  | .noCapture name => "no capture group named `".toList ++ name ++ "`".toList
  | .noCaptureAt position =>
      "no capture group at position ".toList ++ Text.decimal position

end MissingGroup

/-- The capture number of each group, in the order in which the groups open. -/
abbrev GroupIndex := OrderedMap GroupKey Nat

namespace GroupIndex

/-- The capture number of the group with the given name. -/
def named? (index : GroupIndex) (name : Text) : Option Nat :=
  index.get? (.name name)

def ordinal? (index : GroupIndex) (number : Nat) : Option Nat :=
  index.get? (.ordinal number)

def hasName (index : GroupIndex) (name : Text) : Bool :=
  (index.named? name).isSome

/-- The capture number of a group that has to exist. -/
def named (index : GroupIndex) (name : Text) : Except MissingGroup Nat :=
  match index.named? name with
  | some capture => .ok capture
  | none => .error (.noGroup name)

end GroupIndex

end NamedGroups
