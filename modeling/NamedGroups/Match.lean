import NamedGroups.GroupIndex
import NamedGroups.RegexEngine

/-!
# Matches

A match holds the span of each slot in its text: the whole match in slot zero,
and one slot for each capture group of the engine.  A slot without a span
belongs to a group that took no part.  Groups are found by position, or through
the group index by name and by ordinal.
-/

namespace NamedGroups

namespace OrderedMap

variable {κ β γ : Type}

def mapValues (entryMap : OrderedMap κ β) (function : β → γ) :
    OrderedMap κ γ where
  entries := entryMap.entries.map fun entry => (entry.1, function entry.2)
  distinct := by
    simpa [List.map_map, Function.comp_def] using entryMap.distinct

theorem get?_mapValues [DecidableEq κ] (entryMap : OrderedMap κ β)
    (function : β → γ) (key : κ) :
    (entryMap.mapValues function).get? key =
      (entryMap.get? key).map function := by
  obtain ⟨entries, distinct⟩ := entryMap
  simp only [get?, mapValues]
  clear distinct
  induction entries with
  | nil => rfl
  | cons entry entries induction =>
      obtain ⟨other, value⟩ := entry
      simp only [List.map_cons, List.lookup_cons, induction]
      cases key == other <;> rfl

end OrderedMap

/-- The result of a successful search. -/
structure Match where
  input : Text
  slots : List (Option Span)
  groups : OrderedMap GroupKey (Option Text)

namespace Match

def slotText (input : Text) (slots : List (Option Span)) (position : Nat) :
    Option Text :=
  (slots[position]?).join.map fun span => input.slice span.start span.stop

def ofSlots (input : Text) (slots : List (Option Span)) (index : GroupIndex) :
    Match where
  input := input
  slots := slots
  groups := index.mapValues (slotText input slots)

def get? (found : Match) (position : Nat) : Option Text :=
  slotText found.input found.slots position

def named? (found : Match) (name : Text) : Option Text :=
  (found.groups.get? (.name name)).join

def ordinal? (found : Match) (number : Nat) : Option Text :=
  (found.groups.get? (.ordinal number)).join

def get (found : Match) (position : Nat) : Except MissingGroup Text :=
  match found.get? position with
  | some text => .ok text
  | none => .error (.noCaptureAt position)

/-- The text of a named group that has to be there. -/
def named (found : Match) (name : Text) : Except MissingGroup Text :=
  match found.named? name with
  | some text => .ok text
  | none => .error (.noCapture name)

def size (found : Match) : Nat := found.slots.length

def span (found : Match) : Span := (found.slots.head?.join).getD ⟨0, 0⟩

def start (found : Match) : Nat := found.span.start

def stop (found : Match) : Nat := found.span.stop

def text (found : Match) : Text := found.input.slice found.start found.stop

def before (found : Match) : Text := found.input.takeBytes found.start

def after (found : Match) : Text := found.input.dropBytes found.stop

/-- The texts of the capture groups, in the order of their slots. -/
def captures (found : Match) : List (Option Text) :=
  (List.range (found.size - 1)).map fun position => found.get? (position + 1)

/-- The byte offset from which the search for the next match goes on: the end of
this one or, if it is empty, the place behind the character that follows. -/
def resumeOffset (found : Match) (text : Text) : Nat :=
  if found.start = found.stop then text.nextOffset found.stop else found.stop

end Match

end NamedGroups
