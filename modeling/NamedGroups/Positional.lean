import NamedGroups.Fragment
import NamedGroups.GroupIndex
import NamedGroups.GroupSyntax

/-!
# Positional patterns

The engine knows capture groups by their position only.  One pass over the
fragments of a pattern drops the headers of named groups, puts the recorded
pattern of a group in the place of each reference to it, and numbers the capture
groups as they open.  The pass keeps a stack of the groups that are still open,
innermost first, each with the output produced inside it so far; when a named
group closes, that output becomes the source of its name.
-/

namespace NamedGroups

/-- The positional body of each named group, in the order in which the groups
close. -/
abbrev NamedSources := OrderedMap Text Text

/-- A group whose closing parenthesis is still to come. -/
structure OpenGroup where
  /-- The name, for the first group of that name. -/
  name : Option Text
  /-- The output since the opening parenthesis. -/
  body : Text
deriving DecidableEq

/-- The state of the pass. -/
structure Tracker where
  /-- The output outside of all open groups. -/
  base : Text
  /-- The open groups, innermost first. -/
  pending : List OpenGroup
  captures : Nat
  ordinals : Nat
  groups : GroupIndex
  named : NamedSources
deriving DecidableEq

namespace Tracker

def start : Tracker := ⟨[], [], 0, 0, ∅, ∅⟩

/-- Adds to the output of the innermost open group. -/
def emit (tracker : Tracker) (text : Text) : Tracker :=
  match tracker.pending with
  | [] => { tracker with base := tracker.base ++ text }
  | group :: outer =>
      { tracker with
        pending := { group with body := group.body ++ text } :: outer }

/-- The output as a whole.  Groups that never close are written up to where they
stand. -/
def output (tracker : Tracker) : Text :=
  tracker.base ++ tracker.pending.reverse.flatMap fun group => '(' :: group.body

def openGroup (tracker : Tracker) : Tracker :=
  { tracker with pending := ⟨none, []⟩ :: tracker.pending }

/-- The named sources after a group has closed: a name is recorded once. -/
def record (named : NamedSources) (group : OpenGroup) : NamedSources :=
  match group.name with
  | none => named
  | some name =>
      if named.contains name then named else named.insert name group.body

/-- Leaves the innermost group.  A closing parenthesis that matches none is
copied. -/
def closeGroup (tracker : Tracker) : Tracker :=
  match tracker.pending with
  | [] => tracker.emit [')']
  | group :: outer =>
      { tracker with
        pending := outer, named := record tracker.named group }.emit
        ('(' :: group.body ++ [')'])

/-- Numbers a capture group that has no name of its own. -/
def addOrdinal (tracker : Tracker) : Tracker :=
  { tracker with
    captures := tracker.captures + 1
    ordinals := tracker.ordinals + 1
    groups :=
      tracker.groups.insert (.ordinal tracker.ordinals)
        (tracker.captures + 1) }

/-- Numbers a capture group under a new name and gives the innermost open group
that name. -/
def addName (tracker : Tracker) (name : Text) : Tracker :=
  { tracker with
    captures := tracker.captures + 1
    groups := tracker.groups.insert (.name name) (tracker.captures + 1)
    pending :=
      match tracker.pending with
      | [] => []
      | group :: outer => { group with name := some name } :: outer }

/-- The body of a named group that was left empty: one or more characters of any
kind. -/
def anyNonEmpty : Text := ['[', '\\', 's', '\\', 'S', ']', '+']

/-- Numbers the capture group that starts with the given text, and drops its
header.  `closes` tells whether the group closes right after the text. -/
def enterCapture (tracker : Tracker) (text : Text) (closes : Bool) :
    Tracker × Text :=
  match GroupSyntax.header? text with
  | none => (tracker.addOrdinal, text)
  | some (name, rest) =>
      let numbered :=
        if tracker.groups.hasName name then tracker.addOrdinal
        else tracker.addName name
      (numbered, if rest.isEmpty && closes then anyNonEmpty else rest)

/-- Replaces a body that is a reference by the recorded source of its name.  A
name without a recorded source stands for nothing. -/
def resolve (named : NamedSources) (body : Text) : Text :=
  match GroupSyntax.reference? body with
  | none => body
  | some name => (named.get? name).getD []

/-- Handles the text right after the opening parenthesis of a capture group. -/
def capture (tracker : Tracker) (text : Text) (closes : Bool) : Tracker :=
  let (numbered, body) := tracker.enterCapture text closes
  numbered.emit (resolve numbered.named body)

/-- Handles the fragments from left to right.  `opened` tells whether an opening
parenthesis stands right before the first of them. -/
def run (tracker : Tracker) (opened : Bool) : List Fragment → Tracker
  | [] => tracker
  | .opening :: fragments => tracker.openGroup.run true fragments
  | .closing :: fragments => tracker.closeGroup.run false fragments
  | .plain text :: fragments =>
      if opened && GroupSyntax.isCapturing text then
        (tracker.capture text (fragments.head? == some .closing)).run false
          fragments
      else
        (tracker.emit text).run false fragments

end Tracker

/-- Deletes every unescaped `()`.  This is one pass: what comes together by a
deletion stays. -/
def removeEmptyGroups : Text → Text
  | [] => []
  | '\\' :: escaped :: rest => '\\' :: escaped :: removeEmptyGroups rest
  | '(' :: ')' :: rest => removeEmptyGroups rest
  | character :: rest => character :: removeEmptyGroups rest

/-- A pattern in which positions have taken the place of names. -/
structure Positional where
  source : Text
  /-- The number of capture groups of the named pattern. -/
  captures : Nat
  groups : GroupIndex
  named : NamedSources
deriving DecidableEq

/-- The positional pattern of a named one.  Every text has one: what makes no
sense as a pattern is left for the engine to refuse. -/
def Positional.ofPattern (pattern : Text) : Positional :=
  let tracker := Tracker.start.run false (Fragment.split pattern)
  { source := removeEmptyGroups tracker.output
    captures := tracker.captures
    groups := tracker.groups
    named := tracker.named }

end NamedGroups
