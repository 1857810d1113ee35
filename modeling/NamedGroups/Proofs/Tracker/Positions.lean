import NamedGroups.Proofs.Fragment.Nesting
import NamedGroups.Proofs.Tracker.Balance

/-!
# The pass at a position

The pass goes over the fragments from left to right, and has a state in front of
each of them.  What it has written there is the start of all that it writes.
-/

namespace NamedGroups.Tracker

open Fragment GroupSyntax Text

def step (fragments : List Fragment) (position : Nat) (tracker : Tracker) :
    Tracker :=
  match fragments[position]? with
  | none => tracker
  | some .opening => tracker.openGroup
  | some .closing => tracker.closeGroup
  | some (.plain text) =>
      tracker.read (opensBefore fragments position) text
        (fragments[position + 1]? == some .closing)

/-- The state in front of the fragment at a position. -/
def stateAt (fragments : List Fragment) : Nat → Tracker
  | 0 => start
  | position + 1 => step fragments position (stateAt fragments position)

/-- What has been written in front of the fragment at a position. -/
def outputAt (fragments : List Fragment) (position : Nat) : Text :=
  (stateAt fragments position).output

variable {fragments : List Fragment} {position : Nat} {text : Text}

theorem stateAt_opening (opening : fragments[position]? = some .opening) :
    stateAt fragments (position + 1) =
      (stateAt fragments position).openGroup := by
  rw [stateAt, step, opening]

theorem stateAt_closing (closing : fragments[position]? = some .closing) :
    stateAt fragments (position + 1) =
      (stateAt fragments position).closeGroup := by
  rw [stateAt, step, closing]

theorem stateAt_plain (plain : fragments[position]? = some (.plain text)) :
    stateAt fragments (position + 1) =
      (stateAt fragments position).read (opensBefore fragments position) text
        (fragments[position + 1]? == some .closing) := by
  rw [stateAt, step, plain]

theorem stateAt_end (ended : fragments[position]? = none) :
    stateAt fragments (position + 1) = stateAt fragments position := by
  rw [stateAt, step, ended]

private theorem run_drop (fragments : List Fragment) (position : Nat) :
    (stateAt fragments position).run (opensBefore fragments position)
        (fragments.drop position) = start.run false fragments := by
  induction position with
  | zero => rfl
  | succ position induction =>
      rw [← induction]
      cases found : fragments[position]? with
      | none =>
          have outside : fragments.length ≤ position :=
            List.getElem?_eq_none_iff.mp found
          rw [stateAt_end found, List.drop_of_length_le outside,
            List.drop_of_length_le (Nat.le_succ_of_le outside)]
          rfl
      | some fragment =>
          obtain ⟨inside, here⟩ := List.getElem?_eq_some_iff.mp found
          rw [List.drop_eq_getElem_cons inside, here]
          cases fragment with
          | opening =>
              rw [stateAt_opening found, run, opensBefore, found]
              rfl
          | closing =>
              rw [stateAt_closing found, run, opensBefore, found]
              rfl
          | plain text =>
              rw [stateAt_plain found, run, opensBefore, found, List.head?_drop]
              unfold read
              split <;> rfl

theorem stateAt_length (fragments : List Fragment) :
    stateAt fragments fragments.length = start.run false fragments := by
  rw [← run_drop fragments fragments.length, List.drop_length]
  rfl

section Output

theorem outputAt_zero (fragments : List Fragment) : outputAt fragments 0 = [] :=
  rfl

theorem outputAt_opening (opening : fragments[position]? = some .opening) :
    outputAt fragments (position + 1) =
      outputAt fragments position ++ ['('] := by
  rw [outputAt, stateAt_opening opening, output_openGroup]
  rfl

theorem outputAt_closing (closing : fragments[position]? = some .closing) :
    outputAt fragments (position + 1) =
      outputAt fragments position ++ [')'] := by
  rw [outputAt, stateAt_closing closing, output_closeGroup]
  rfl

theorem outputAt_plain (plain : fragments[position]? = some (.plain text)) :
    outputAt fragments (position + 1) = outputAt fragments position ++
      (stateAt fragments position).written (opensBefore fragments position) text
        (fragments[position + 1]? == some .closing) := by
  rw [outputAt, stateAt_plain plain, output_read]
  rfl

theorem outputAt_end (ended : fragments[position]? = none) :
    outputAt fragments (position + 1) = outputAt fragments position := by
  rw [outputAt, stateAt_end ended]
  rfl

/-- Nothing that has been written is taken back. -/
theorem prefix_outputAt (fragments : List Fragment) {earlier later : Nat}
    (before : earlier ≤ later) :
    outputAt fragments earlier <+: outputAt fragments later := by
  induction before with
  | refl => exact List.prefix_rfl
  | @step later _ induction =>
      apply induction.trans
      cases found : fragments[later]? with
      | none => exact (outputAt_end found).symm ▸ List.prefix_rfl
      | some fragment =>
          cases fragment with
          | opening =>
              rw [outputAt_opening found]
              exact List.prefix_append _ _
          | closing =>
              rw [outputAt_closing found]
              exact List.prefix_append _ _
          | plain text =>
              rw [outputAt_plain found]
              exact List.prefix_append _ _

theorem outputAt_opened {opening : Nat}
    (opened : openedText? fragments opening = some text) :
    outputAt fragments (opening + 2) =
      outputAt fragments (opening + 1) ++
        (stateAt fragments (opening + 1)).written true text
          (fragments[opening + 2]? == some .closing) := by
  obtain ⟨isOpening, plain⟩ := openedText?_eq_some_iff.mp opened
  have behind : opensBefore fragments (opening + 1) = true :=
    opensBefore_succ_iff.mpr isOpening
  rw [outputAt_plain plain, behind]

end Output

/-- In front of the end of a pattern all that has been written can be put
anywhere. -/
theorem sealed_stateAt (cut : Cut fragments)
    (inside : position < fragments.length) :
    Sealed (stateAt fragments position) := by
  induction position with
  | zero => exact sealed_start
  | succ position induction =>
      have seals := induction (Nat.lt_of_succ_lt inside)
      cases found : fragments[position]? with
      | none =>
          rw [stateAt_end found]
          exact seals
      | some fragment =>
          cases fragment with
          | opening =>
              rw [stateAt_opening found]
              exact seals.openGroup
          | closing =>
              rw [stateAt_closing found]
              exact seals.closeGroup
          | plain text =>
              obtain ⟨solid, followed⟩ := cut.plain_at found
              rw [stateAt_plain found]
              exact seals.read solid (followed inside).1 _ _

end NamedGroups.Tracker

namespace NamedGroups.Positional

open Fragment Tracker

theorem source_eq_outputAt (pattern : Text) :
    (ofPattern pattern).source =
      removeEmptyGroups (outputAt (split pattern) (split pattern).length) := by
  rw [outputAt, stateAt_length]
  rfl

theorem named_eq_stateAt (pattern : Text) :
    (ofPattern pattern).named =
      (stateAt (split pattern) (split pattern).length).named := by
  rw [stateAt_length]
  rfl

end NamedGroups.Positional
