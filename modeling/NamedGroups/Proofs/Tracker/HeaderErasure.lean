import Mathlib.Data.List.Forall2
import NamedGroups.Proofs.Tracker.Numbering

/-!
# Patterns without references

Where no group refers to another one, the pass does no more than take the
headers away.  The source is cut into the same parentheses as the pattern, and
unless a header hides a question mark, the same parentheses open capture groups.
-/

namespace NamedGroups

open GroupSyntax

/-- The text without its header. -/
def GroupSyntax.afterHeader (text : Text) : Text :=
  match header? text with
  | none => text
  | some (_, rest) => rest

namespace Fragment

def outline : Fragment → Fragment
  | .plain _ => .plain []
  | parenthesis => parenthesis

/-- A text without its header.  What stands in front of the closing parenthesis
does not stay empty. -/
def bodyOf (text : Text) (closes : Bool) : Text :=
  match header? text with
  | none => text
  | some (_, rest) =>
      if rest.isEmpty && closes then Tracker.anyNonEmpty else rest

/-- The fragments without the headers behind the opening parentheses. -/
def withoutHeaders (opened : Bool) : List Fragment → List Fragment
  | [] => []
  | .opening :: fragments => .opening :: withoutHeaders true fragments
  | .closing :: fragments => .closing :: withoutHeaders false fragments
  | .plain text :: fragments =>
      .plain (if opened then bodyOf text (fragments.head? == some .closing)
              else text) :: withoutHeaders false fragments

/-- What a text becomes that may stand behind an opening parenthesis. -/
def erased (opened : Bool) (text : Text) (closes : Bool) : Text :=
  if opened then bodyOf text closes else text

theorem withoutHeaders_last (opened : Bool) (text : Text) :
    withoutHeaders opened [.plain text] = [.plain (erased opened text false)] :=
  rfl

theorem withoutHeaders_opening (opened : Bool) (text : Text)
    (fragments : List Fragment) :
    withoutHeaders opened (.plain text :: .opening :: fragments) =
      .plain (erased opened text false) :: .opening ::
        withoutHeaders true fragments := rfl

theorem withoutHeaders_closing (opened : Bool) (text : Text)
    (fragments : List Fragment) :
    withoutHeaders opened (.plain text :: .closing :: fragments) =
      .plain (erased opened text true) :: .closing ::
        withoutHeaders false fragments := rfl

theorem isSolid_bodyOf {text : Text} (solid : isSolid text) (closes : Bool) :
    isSolid (bodyOf text closes) := by
  unfold bodyOf
  split
  · exact solid
  · rename_i name rest found
    obtain ⟨header, rfl, unmarked⟩ := unmarked_header found
    rw [isSolid_append_of_unmarked unmarked] at solid
    split
    · decide
    · exact solid

theorem isComplete_bodyOf {text : Text} (complete : text.isComplete)
    (closes : Bool) : (bodyOf text closes).isComplete := by
  unfold bodyOf
  split
  · exact complete
  · rename_i name rest found
    obtain ⟨header, rfl, unmarked⟩ := unmarked_header found
    rw [isComplete_append_of_unmarked unmarked] at complete
    split
    · decide
    · exact complete

/-- What stands in the place of an empty body is no reference. -/
theorem reference?_bodyOf (text : Text) (closes : Bool) :
    reference? (bodyOf text closes) = reference? (afterHeader text) := by
  unfold bodyOf afterHeader
  cases header? text with
  | none => rfl
  | some header =>
      dsimp only
      split
      · rename_i empty
        rw [List.isEmpty_iff.mp (Bool.and_eq_true_iff.mp empty).1]
        rfl
      · rfl

theorem bodyOf_ne_nil {text : Text} (filled : text ≠ []) :
    bodyOf text true ≠ [] := by
  unfold bodyOf
  split
  · exact filled
  · split
    · simp [Tracker.anyNonEmpty]
    · rename_i notEmpty
      simpa using notEmpty

theorem isCapturing_of_bodyOf {text : Text} {closes : Bool}
    (capturing : isCapturing (bodyOf text closes)) : isCapturing text := by
  unfold bodyOf at capturing
  split at capturing
  · exact capturing
  · exact isCapturing_of_header ‹_›

/-- A header that hides no question mark does not change what the parenthesis
opens. -/
theorem isCapturing_bodyOf {text : Text}
    (shown : (header? text).isSome → (afterHeader text).head? ≠ some '?')
    (closes : Bool) : isCapturing (bodyOf text closes) = isCapturing text := by
  cases found : header? text with
  | none => simp [bodyOf, found]
  | some header =>
      obtain ⟨name, rest⟩ := header
      simp only [found, afterHeader, Option.isSome_some, true_implies] at shown
      rw [isCapturing_of_header found]
      simp only [bodyOf, found]
      split
      · decide
      · exact isCapturing_of_ne_question shown

theorem Cut.withoutHeaders {fragments : List Fragment} (cut : Cut fragments)
    (opened : Bool) : Cut (withoutHeaders opened fragments) := by
  have solid_erased : ∀ opened text closes,
      isSolid text → isSolid (erased opened text closes) := by
    intro opened text closes solid
    cases opened
    · exact solid
    · exact isSolid_bodyOf solid closes
  have complete_erased : ∀ opened text closes, text.isComplete →
      (erased opened text closes).isComplete := by
    intro opened text closes complete
    cases opened
    · exact complete
    · exact isComplete_bodyOf complete closes
  induction cut generalizing opened with
  | last solid => exact .last (solid_erased _ _ _ solid)
  | opening solid complete _ induction =>
      exact .opening (solid_erased _ _ _ solid) (complete_erased _ _ _ complete)
        (induction true)
  | closing solid complete _ induction =>
      exact .closing (solid_erased _ _ _ solid) (complete_erased _ _ _ complete)
        (induction false)

theorem Cut.hasEmptyGroup_withoutHeaders {fragments : List Fragment}
    (cut : Cut fragments) (opened : Bool)
    (empty :
      HasEmptyGroup (behind opened
        (Fragment.withoutHeaders opened fragments))) :
    HasEmptyGroup (behind opened fragments) := by
  induction cut generalizing opened with
  | last _ => exact absurd empty (hasEmptyGroup_behind_last _ _)
  | opening _ _ _ induction =>
      rw [withoutHeaders_opening, hasEmptyGroup_behind_opening] at empty
      exact (hasEmptyGroup_behind_opening _ _ _).mpr (induction true empty)
  | @closing text fragments _ _ _ induction =>
      rw [withoutHeaders_closing, hasEmptyGroup_behind_closing] at empty
      rw [hasEmptyGroup_behind_closing]
      rcases empty with ⟨isOpened, nothing⟩ | later
      · left
        refine ⟨isOpened, ?_⟩
        cases text with
        | nil => rfl
        | cons character rest =>
            simp only [erased, isOpened, if_true] at nothing
            exact absurd nothing (bodyOf_ne_nil (by simp))
      · exact .inr (induction false later)

theorem outline_withoutHeaders (opened : Bool) (fragments : List Fragment) :
    (withoutHeaders opened fragments).map outline = fragments.map outline := by
  induction fragments generalizing opened with
  | nil => rfl
  | cons fragment fragments induction =>
      cases fragment <;> simp [withoutHeaders, outline, induction]

theorem length_withoutHeaders (opened : Bool) (fragments : List Fragment) :
    (withoutHeaders opened fragments).length = fragments.length := by
  have same := congrArg List.length (outline_withoutHeaders opened fragments)
  simpa using same

theorem Cut.openedTexts_withoutHeaders {fragments : List Fragment}
    (cut : Cut fragments) (opened : Bool) :
    List.Forall₂ (fun short text => ∃ closes, short = bodyOf text closes)
      (openedTexts (behind opened (Fragment.withoutHeaders opened fragments)))
      (openedTexts (behind opened fragments)) := by
  have here : ∀ (opened : Bool) (text : Text) (closes : Bool),
      List.Forall₂ (fun short text => ∃ closes, short = bodyOf text closes)
        (if opened then [erased opened text closes] else [])
        (if opened then [text] else []) := by
    intro opened text closes
    cases opened
    · exact .nil
    · exact .cons ⟨closes, rfl⟩ .nil
  induction cut generalizing opened with
  | last _ =>
      rw [withoutHeaders_last, openedTexts_behind_last, openedTexts_behind_last]
      exact here _ _ _
  | opening _ _ _ induction =>
      rw [withoutHeaders_opening, openedTexts_behind_opening,
        openedTexts_behind_opening]
      exact List.rel_append (here _ _ _) (induction true)
  | closing _ _ _ induction =>
      rw [withoutHeaders_closing, openedTexts_behind_closing,
        openedTexts_behind_closing]
      exact List.rel_append (here _ _ _) (induction false)

/-- Headers that hide no question mark do not change which parentheses open
capture groups. -/
theorem opensCapture_withoutHeaders (opened : Bool) (fragments : List Fragment)
    (shown : ∀ text ∈ openedTexts fragments,
      (header? text).isSome → (afterHeader text).head? ≠ some '?')
    (position : Nat) :
    opensCapture (withoutHeaders opened fragments) position =
      opensCapture fragments position := by
  induction fragments generalizing opened position with
  | nil => rfl
  | cons fragment fragments induction =>
      have others : ∀ text ∈ openedTexts fragments,
          (header? text).isSome → (afterHeader text).head? ≠ some '?' := by
        intro text member
        apply shown text
        unfold openedTexts
        split
        · rename_i same
          cases same
          simp only [openedTexts_plain] at member
          exact List.mem_cons_of_mem _ member
        · rename_i same
          cases same
          exact member
        · rename_i same
          cases same
      cases position with
      | succ position =>
          cases fragment <;> exact induction _ others position
      | zero =>
          cases fragment with
          | plain text => rfl
          | closing => rfl
          | opening =>
              cases fragments with
              | nil => rfl
              | cons next fragments =>
                  cases next with
                  | opening => rfl
                  | closing => rfl
                  | plain text =>
                      exact isCapturing_bodyOf (shown text (by simp)) _

end Fragment

open Fragment

namespace Tracker

/-- Whether a text asks for the pattern of another group, as it stands or behind
its header. -/
def Refers (text : Text) : Prop :=
  (reference? text).isSome ∨ (reference? (afterHeader text)).isSome

instance (text : Text) : Decidable (Refers text) :=
  inferInstanceAs (Decidable (_ ∨ _))

theorem written_of_capturing {tracker : Tracker} {text : Text}
    (capturing : isCapturing text = true) (closes : Bool) :
    tracker.written true text closes =
      resolve tracker.named (bodyOf text closes) := by
  have same : (tracker.enterCapture text closes).2 = bodyOf text closes :=
    snd_enterCapture tracker text closes
  simp [written, capturing, same]

theorem written_eq_erased {text : Text} {opened : Bool}
    (plain : ∀ member ∈ captured opened text, ¬ Refers member)
    (tracker : Tracker) (closes : Bool) :
    tracker.written opened text closes = erased opened text closes := by
  cases opened with
  | false => rfl
  | true =>
      cases kind : isCapturing text with
      | false =>
          simp [written, erased, bodyOf, kind, header?_eq_none kind]
      | true =>
          have plainText : ¬ Refers text :=
            plain text (by simp [captured, kind])
          simp only [Refers, not_or, Option.not_isSome_iff_eq_none] at plainText
          rw [written_of_capturing kind, resolve, reference?_bodyOf,
            plainText.2]
          simp [erased]

/-- Without references the pass writes the fragments without their headers. -/
theorem output_run {fragments : List Fragment} (cut : Cut fragments)
    (tracker : Tracker) (opened : Bool)
    (plain : ∀ text ∈ captureTextsBehind opened fragments, ¬ Refers text) :
    (tracker.run opened fragments).output =
      tracker.output ++ renderAll (withoutHeaders opened fragments) := by
  induction cut generalizing tracker opened with
  | last _ =>
      rw [captureTextsBehind_last] at plain
      rw [run_last, output_read, written_eq_erased plain, withoutHeaders_last]
      simp [render]
  | opening _ _ _ induction =>
      simp only [captureTextsBehind_opening, List.mem_append] at plain
      rw [run_opening,
        induction _ _ fun text member => plain text (.inr member),
        output_openGroup, output_read,
        written_eq_erased fun text member => plain text (.inl member),
        withoutHeaders_opening]
      simp [render]
  | closing _ _ _ induction =>
      simp only [captureTextsBehind_closing, List.mem_append] at plain
      rw [run_closing,
        induction _ _ fun text member => plain text (.inr member),
        output_closeGroup, output_read,
        written_eq_erased fun text member => plain text (.inl member),
        withoutHeaders_closing]
      simp [render]

end Tracker

namespace Positional

open Tracker

/-- A pattern without references and empty groups loses its headers and nothing
else. -/
theorem source_ofPattern {pattern : Text}
    (filled : ¬ HasEmptyGroup (split pattern))
    (plain : ∀ text ∈ captureTexts (split pattern), ¬ Refers text) :
    (ofPattern pattern).source =
        renderAll (withoutHeaders false (split pattern)) ∧
      split (ofPattern pattern).source =
        withoutHeaders false (split pattern) := by
  have cut := Cut.of_split pattern
  have shorter := cut.withoutHeaders false
  have output := output_run cut start false plain
  rw [output_start, List.nil_append] at output
  have source :
      (ofPattern pattern).source =
        renderAll (withoutHeaders false (split pattern)) := by
    change removeEmptyGroups (start.run false (split pattern)).output = _
    rw [output]
    apply removeEmptyGroups_eq_self
    rw [shorter.split_renderAll]
    exact fun empty => filled (cut.hasEmptyGroup_withoutHeaders false empty)
  exact ⟨source, by rw [source, shorter.split_renderAll]⟩

/-- Headers are erased, and the capture groups keep their parentheses and their
numbers. -/
theorem erases_headers (pattern : Text)
    (filled : ¬ HasEmptyGroup (split pattern))
    (plain : ∀ text ∈ captureTexts (split pattern), ¬ Refers text)
    (shown : ∀ text ∈ openedTexts (split pattern),
      (header? text).isSome → (afterHeader text).head? ≠ some '?') :
    (ofPattern pattern).source =
        renderAll (withoutHeaders false (split pattern)) ∧
      (split (ofPattern pattern).source).map outline =
        (split pattern).map outline ∧
      (∀ position, opensCapture (split (ofPattern pattern).source) position =
        opensCapture (split pattern) position) ∧
      captureOpenings (split (ofPattern pattern).source) =
        captureOpenings (split pattern) ∧
      (ofPattern pattern).groups.entries.map Prod.snd =
        List.range' 1
          (captureOpenings (split (ofPattern pattern).source)).length := by
  obtain ⟨source, cutSource⟩ := source_ofPattern filled plain
  have same : ∀ position,
      opensCapture (withoutHeaders false (split pattern)) position =
        opensCapture (split pattern) position :=
    opensCapture_withoutHeaders false (split pattern) shown
  have openings : captureOpenings (withoutHeaders false (split pattern)) =
      captureOpenings (split pattern) := by
    simp only [captureOpenings, length_withoutHeaders, same]
  refine ⟨source, ?_, ?_, ?_, ?_⟩
  · rw [cutSource, outline_withoutHeaders]
  · rw [cutSource]
    exact same
  · rw [cutSource, openings]
  · rw [cutSource, openings, (Cut.of_split pattern).length_captureOpenings]
    have counts := (counts_ofPattern pattern).1
    rw [← captures_ofPattern]
    exact counts.captures

theorem erases_headers_nested :
    (ofPattern ['(', '?', '<', 'a', '>', '(', '?', ':', '\\', '(', ')', '(',
      ':', '<', 'b', '>', ')', ')']).source =
        ['(', '(', '?', ':', '\\', '(', ')', '(', '[', '\\', 's', '\\', 'S',
          ']', '+', ')', ')'] ∧
      captureOpenings (split (ofPattern ['(', '?', '<', 'a', '>', '(', '?', ':',
        '\\', '(', ')', '(', ':', '<', 'b', '>', ')', ')']).source) =
        [1, 7] := by
  obtain ⟨source, _, _, openings, _⟩ :=
    erases_headers ['(', '?', '<', 'a', '>', '(', '?', ':', '\\', '(', ')', '(',
      ':', '<', 'b', '>', ')', ')'] (by decide) (by decide) (by decide)
  exact ⟨source, openings⟩

end Positional

end NamedGroups
