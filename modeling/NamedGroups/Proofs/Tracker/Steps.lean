import NamedGroups.Proofs.GroupSyntax

/-!
# The steps of the pass

The pass over a pattern takes one text at a time, with the parenthesis behind
it.  A step appends to the output and changes little else, which the lemmas of
this file say for each of the parts of the state.
-/

namespace NamedGroups.Tracker

open Fragment GroupSyntax

/-- Handles a text.  `opened` tells whether an opening parenthesis stands right
before it, and `closes` whether a closing one stands right behind. -/
def read (tracker : Tracker) (opened : Bool) (text : Text) (closes : Bool) :
    Tracker :=
  if opened && isCapturing text then tracker.capture text closes
  else tracker.emit text

theorem run_last (tracker : Tracker) (opened : Bool) (text : Text) :
    tracker.run opened [.plain text] = tracker.read opened text false := by
  simp only [run, read]
  split <;> rfl

theorem run_opening (tracker : Tracker) (opened : Bool) (text : Text)
    (fragments : List Fragment) :
    tracker.run opened (.plain text :: .opening :: fragments) =
      (tracker.read opened text false).openGroup.run true fragments := by
  simp only [run, read]
  split <;> rfl

theorem run_closing (tracker : Tracker) (opened : Bool) (text : Text)
    (fragments : List Fragment) :
    tracker.run opened (.plain text :: .closing :: fragments) =
      (tracker.read opened text true).closeGroup.run false fragments := by
  simp only [run, read]
  split <;> rfl

/-- What stands behind a further opening parenthesis does not matter in front of
it. -/
theorem run_append_opening {fragments : List Fragment} (cut : Cut fragments)
    (tracker : Tracker) (opened : Bool) (others : List Fragment) :
    tracker.run opened (fragments ++ .opening :: others) =
      (tracker.run opened fragments).openGroup.run true others := by
  induction cut generalizing tracker opened with
  | last _ => rw [List.singleton_append, run_opening, run_last]
  | opening _ _ _ induction =>
      simp only [List.cons_append, run_opening, induction]
  | closing _ _ _ induction =>
      simp only [List.cons_append, run_closing, induction]

/-- The texts that start capture groups, where an opening parenthesis may stand
in front. -/
def captureTextsBehind (opened : Bool) (fragments : List Fragment) :
    List Text :=
  captureTexts (behind opened fragments)

def captured (opened : Bool) (text : Text) : List Text :=
  if opened && isCapturing text then [text] else []

@[simp] theorem captureTextsBehind_last (opened : Bool) (text : Text) :
    captureTextsBehind opened [.plain text] = captured opened text := by
  cases opened
  · rfl
  · cases kind : isCapturing text <;>
      simp [captureTextsBehind, behind, captureTexts, captured, openedTexts,
        kind]

@[simp] theorem captureTextsBehind_opening (opened : Bool) (text : Text)
    (fragments : List Fragment) :
    captureTextsBehind opened (.plain text :: .opening :: fragments) =
      captured opened text ++ captureTextsBehind true fragments := by
  cases opened
  · simp [captureTextsBehind, behind, captureTexts, captured]
  · cases kind : isCapturing text <;>
      simp [captureTextsBehind, behind, captureTexts, captured, kind]

@[simp] theorem captureTextsBehind_closing (opened : Bool) (text : Text)
    (fragments : List Fragment) :
    captureTextsBehind opened (.plain text :: .closing :: fragments) =
      captured opened text ++ captureTextsBehind false fragments := by
  cases opened
  · simp [captureTextsBehind, behind, captureTexts, captured]
  · cases kind : isCapturing text <;>
      simp [captureTextsBehind, behind, captureTexts, captured, kind]

@[simp] theorem emit_nil (tracker : Tracker) : tracker.emit [] = tracker := by
  obtain ⟨base, pending, captures, ordinals, groups, named⟩ := tracker
  cases pending <;> simp [emit]

@[simp] theorem emit_emit (tracker : Tracker) (text more : Text) :
    (tracker.emit text).emit more = tracker.emit (text ++ more) := by
  cases pending : tracker.pending <;> simp [emit, pending]

/-- What is recorded has been recorded before, or it is what the group that
closes has written. -/
theorem mem_entries_record {named : NamedSources} {group : OpenGroup}
    {entry : Text × Text} (member : entry ∈ (record named group).entries) :
    entry ∈ named.entries ∨
      (group.name = some entry.1 ∧ group.body = entry.2) := by
  unfold record at member
  split at member
  · exact .inl member
  · rename_i name isNamed
    split at member
    · exact .inl member
    · rename_i unknown
      have absent : name ∉ named.keys := by rwa [← OrderedMap.isSome_get?_iff]
      rw [OrderedMap.entries_insert_of_notMem _ absent, List.mem_append,
        List.mem_singleton] at member
      obtain old | rfl := member
      · exact .inl old
      · exact .inr ⟨isNamed, rfl⟩

section Frame

variable (tracker : Tracker)

@[simp] theorem groups_emit (text : Text) :
    (tracker.emit text).groups = tracker.groups := by
  unfold emit
  split <;> rfl

@[simp] theorem captures_emit (text : Text) :
    (tracker.emit text).captures = tracker.captures := by
  unfold emit
  split <;> rfl

@[simp] theorem ordinals_emit (text : Text) :
    (tracker.emit text).ordinals = tracker.ordinals := by
  unfold emit
  split <;> rfl

@[simp] theorem named_emit (text : Text) :
    (tracker.emit text).named = tracker.named := by
  unfold emit
  split <;> rfl

@[simp] theorem groups_closeGroup :
    tracker.closeGroup.groups = tracker.groups := by
  unfold closeGroup
  split <;> simp

@[simp] theorem captures_closeGroup :
    tracker.closeGroup.captures = tracker.captures := by
  unfold closeGroup
  split <;> simp

@[simp] theorem ordinals_closeGroup :
    tracker.closeGroup.ordinals = tracker.ordinals := by
  unfold closeGroup
  split <;> simp

@[simp] theorem named_enterCapture (text : Text) (closes : Bool) :
    (tracker.enterCapture text closes).1.named = tracker.named := by
  unfold enterCapture
  split
  · rfl
  · dsimp only
    split <;> rfl

@[simp] theorem output_emit (text : Text) :
    (tracker.emit text).output = tracker.output ++ text := by
  unfold emit
  split
  · rename_i empty
    simp [output, empty]
  · rename_i group outer pending
    simp [output, pending]

@[simp] theorem output_openGroup :
    tracker.openGroup.output = tracker.output ++ ['('] := by
  simp [openGroup, output]

@[simp] theorem output_closeGroup :
    tracker.closeGroup.output = tracker.output ++ [')'] := by
  unfold closeGroup
  split
  · simp
  · rename_i group outer pending
    rw [output_emit]
    simp [output, pending]

@[simp] theorem output_enterCapture (text : Text) (closes : Bool) :
    (tracker.enterCapture text closes).1.output = tracker.output := by
  have output_addName :
      ∀ name, (tracker.addName name).output = tracker.output := by
    intro name
    cases pending : tracker.pending <;> simp [addName, output, pending]
  unfold enterCapture
  split
  · rfl
  · dsimp only
    split
    · rfl
    · exact output_addName _

theorem output_start : start.output = [] := rfl

end Frame

/-- A text that starts a capture group is written without its header. -/
theorem snd_enterCapture (tracker : Tracker) (text : Text) (closes : Bool) :
    (tracker.enterCapture text closes).2 =
      match header? text with
      | none => text
      | some (_, rest) =>
            if rest.isEmpty && closes then anyNonEmpty else rest := by
  unfold enterCapture
  cases header? text <;> rfl

def written (tracker : Tracker) (opened : Bool) (text : Text) (closes : Bool) :
    Text :=
  if opened && isCapturing text then
    resolve tracker.named (tracker.enterCapture text closes).2
  else text

/-- The state that a text is written in: one that has numbered it, if it starts
a capture group. -/
def entered (tracker : Tracker) (opened : Bool) (text : Text) (closes : Bool) :
    Tracker :=
  if opened && isCapturing text then (tracker.enterCapture text closes).1
  else tracker

theorem read_eq_emit (tracker : Tracker) (opened : Bool) (text : Text)
    (closes : Bool) :
    tracker.read opened text closes =
      (tracker.entered opened text closes).emit (tracker.written opened text
        closes) := by
  unfold read entered written
  split
  · rw [← named_enterCapture tracker text closes]
    rfl
  · rfl

@[simp] theorem named_entered (tracker : Tracker) (opened : Bool) (text : Text)
    (closes : Bool) :
    (tracker.entered opened text closes).named = tracker.named := by
  unfold entered
  split <;> simp

theorem output_read (tracker : Tracker) (opened : Bool) (text : Text)
    (closes : Bool) :
    (tracker.read opened text closes).output =
      tracker.output ++ tracker.written opened text closes := by
  rw [read_eq_emit, output_emit]
  unfold entered
  split <;> simp

end NamedGroups.Tracker
