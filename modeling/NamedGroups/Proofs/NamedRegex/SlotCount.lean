import NamedGroups.Proofs.Engine.Slots
import NamedGroups.Proofs.NamedRegex.Compilation
import NamedGroups.Proofs.NamedRegex.GroupMarks
import NamedGroups.Proofs.Tracker.HeaderErasure

/-!
# The size of the index and the number of slots

The index counts the capture groups that the splitter sees, and a match has
slots for those that the engine marks.  Without references the engine never has
more of them.  It has as many if it marks every parenthesis that looks like the
start of a capture group.
-/

namespace NamedGroups.NamedRegex

open Fragment GroupSyntax Tracker

variable {engine : RegexEngine}

/-- Whether the engine opens a capture group of the source wherever the splitter
sees one in the pattern. -/
def Agrees (regex : NamedRegex engine) (marks : Text → List Bool) : Prop :=
  regex.sourceMarks marks =
    (openedTexts (Fragment.split regex.pattern)).map fun text =>
      isCapturing text

instance (regex : NamedRegex engine) (marks : Text → List Bool) :
    Decidable (regex.Agrees marks) :=
  inferInstanceAs (Decidable (_ = _))

/-- Where each mark implies the mark across from it, equal numbers of marks are
equal marks. -/
theorem count_le_and_eq_iff {left right : List Bool}
    (implies : List.Forall₂ (fun mark other => mark = true → other = true)
      left right) :
    left.count true ≤ right.count true ∧
      (left.count true = right.count true ↔ left = right) := by
  induction implies with
  | nil => simp
  | @cons mark other left right here _ induction =>
      obtain ⟨below, equal_iff⟩ := induction
      cases mark <;> cases other
      · simpa using ⟨below, equal_iff⟩
      · refine ⟨by simp; omega, ?_⟩
        simp
        omega
      · simp at here
      · simpa using ⟨below, equal_iff⟩

private theorem implies_trans {α β γ : Type} {marks : List α} {middle : List β}
    {others : List γ} {first : α → β → Prop} {second : β → γ → Prop}
    {both : α → γ → Prop}
    (compose : ∀ mark between other, first mark between → second between other →
      both mark other)
    (left : List.Forall₂ first marks middle)
    (right : List.Forall₂ second middle others) :
    List.Forall₂ both marks others := by
  induction left generalizing others with
  | nil =>
      cases right
      exact .nil
  | cons here _ induction =>
      cases right with
      | cons there later =>
          exact .cons (compose _ _ _ here there) (induction later)

private theorem count_map_isCapturing (fragments : List Fragment) :
    ((openedTexts fragments).map fun text => isCapturing text).count true =
      (captureTexts fragments).length := by
  rw [captureTexts, ← List.countP_eq_length_filter]
  simp [List.count, List.countP_map, Function.comp_def]

section Matches

variable {pattern : Pattern engine} {flags : Option Text}
  {regex : NamedRegex engine} {marks : Text → List Bool}

/-- Where no group refers to another one, the engine opens no capture group that
the splitter does not see. -/
theorem marks_imply (groups : engine.MarksGroups marks)
    (compiled : compile engine pattern flags = .ok regex)
    (filled : ¬ HasEmptyGroup (Fragment.split pattern.source))
    (plain : ∀ text ∈ captureTexts (Fragment.split pattern.source),
      ¬ Refers text) :
    List.Forall₂ (fun mark other => mark = true → other = true)
      (regex.sourceMarks marks)
      ((openedTexts (Fragment.split pattern.source)).map
        fun text => isCapturing text) := by
  obtain ⟨-, cutSource⟩ := Positional.source_ofPattern filled plain
  have fit := sourceMarks_fit groups compiled
  rw [(compile_eq_ok_iff.mp compiled).source] at fit
  have erased :=
    (Cut.of_split pattern.source).openedTexts_withoutHeaders false
  rw [behind_false, behind_false, ← cutSource] at erased
  rw [List.forall₂_map_right_iff]
  apply implies_trans _ fit erased
  rintro mark short text fits ⟨closes, rfl⟩ marked
  exact isCapturing_of_bodyOf
    (RegexEngine.isCapturing_of_opensGroup (fits marked))

/-- Without references a match never has more slots than the index asks for.  It
has as many exactly if every parenthesis that the splitter takes for a capture
group opens one in the engine. -/
theorem size_eq_iff_agrees (groups : engine.MarksGroups marks)
    (compiled : compile engine pattern flags = .ok regex)
    (filled : ¬ HasEmptyGroup (Fragment.split pattern.source))
    (plain : ∀ text ∈ captureTexts (Fragment.split pattern.source),
      ¬ Refers text)
    {text : Text} {offset : Nat} {found : Match}
    (matched : regex.searchFrom text offset = .ok (some found)) :
    found.size ≤ regex.groups.size + 1 ∧
      (found.size = regex.groups.size + 1 ↔ regex.Agrees marks) := by
  have built := compile_eq_ok_iff.mp compiled
  have size := size_of_searchFrom groups compiled matched
  have index : regex.groups.size =
      (captureTexts (Fragment.split pattern.source)).length := by
    rw [built.groups, size_ofPattern]
  obtain ⟨below, agree_iff⟩ :=
    count_le_and_eq_iff (marks_imply groups compiled filled plain)
  rw [count_map_isCapturing, ← index] at below agree_iff
  refine ⟨by omega, ?_⟩
  rw [Agrees, built.pattern, ← agree_iff]
  omega

theorem exists_of_matched (engine : RegexEngine) (pattern : Pattern engine)
    (text : Text) (Holds : NamedRegex engine → Bool)
    (matched : (compile engine pattern none).toOption.bind (fun regex =>
      (regex.searchFrom text 0).toOption.join.map fun _ => Holds regex) =
        some true) :
    ∃ regex found, compile engine pattern none = .ok regex ∧
      regex.searchFrom text 0 = .ok (some found) ∧ Holds regex = true := by
  cases compiled : compile engine pattern none with
  | error problem =>
      rw [compiled] at matched
      cases matched
  | ok regex =>
      rw [compiled] at matched
      obtain ⟨found, searched, holds⟩ := Option.map_eq_some_iff.mp matched
      exact ⟨regex, found, rfl, eq_ok_of_join searched, holds⟩

theorem size_eq_of_lookahead : ∃ regex found,
    compile Engine.builtIn
        (.text ['(', '?', '=', 'x', ')', '(', '?', '<', 'a', '>', 'x', ')'])
        none = .ok regex ∧
      regex.searchFrom ['x'] 0 = .ok (some found) ∧
      found.size = regex.groups.size + 1 := by
  obtain ⟨regex, found, compiled, matched, holds⟩ :=
    exists_of_matched Engine.builtIn
      (.text ['(', '?', '=', 'x', ')', '(', '?', '<', 'a', '>', 'x', ')']) ['x']
      (fun regex => decide (regex.Agrees Engine.slotMarks))
      (by decide +kernel)
  exact ⟨regex, found, compiled, matched,
    (size_eq_iff_agrees Engine.builtIn_marksGroups compiled (by decide)
      (by decide) matched).2.mpr (of_decide_eq_true holds)⟩

/-- In a class a parenthesis counts for the index, but not for the engine. -/
theorem size_ne_of_bracketed :
    ¬ HasEmptyGroup (Fragment.split ['[', '(', ']', '(', '?', '<', 'a', '>',
      'x', ')']) ∧
      (∀ text ∈ captureTexts
        (Fragment.split ['[', '(', ']', '(', '?', '<', 'a', '>', 'x', ')']),
        ¬ Refers text) ∧
      (compile Engine.builtIn
        (.text ['[', '(', ']', '(', '?', '<', 'a', '>', 'x', ')'])
        none).toOption.bind (fun regex =>
          (regex.searchFrom ['(', 'x'] 0).toOption.join.map fun found =>
            (regex.groups.size, found.size, found.named? ['a'])) =
        some (2, 2, none) := by
  decide +kernel

end Matches

end NamedGroups.NamedRegex
