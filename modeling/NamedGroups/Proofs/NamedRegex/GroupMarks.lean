import Mathlib.Data.List.Forall2
import NamedGroups.Proofs.Fragment.EmptyGroups
import NamedGroups.Proofs.NamedRegex.SuccessiveMatches

/-!
# The capture groups of an engine

An engine has a grammar of its own, in which not every parenthesis of a pattern
opens a capture group: it may stand in a class, in a comment, or in front of a
condition.  Where the engine sees its groups is told by marks, one for each
opening parenthesis that is not escaped.  Nothing else is known of the grammar.
-/

namespace NamedGroups

open Fragment GroupSyntax

namespace RegexEngine

/-- Whether a parenthesis in front of the text can open a capture group.  A
question mark behind it starts something else, unless it is the one of a
name. -/
def opensGroup : Text → Bool
  | '?' :: '<' :: '=' :: _ => false
  | '?' :: '<' :: '!' :: _ => false
  | '?' :: '<' :: _ => true
  | '?' :: 'P' :: '<' :: _ => true
  | '?' :: _ => false
  | _ => true

/-- The marks of the patterns that an engine accepts: only parentheses that can
open a capture group are marked, and a match has a slot for each mark besides
the one for the whole match. -/
structure MarksGroups (engine : RegexEngine) (marks : Text → List Bool) :
    Prop where
  fits : ∀ {pattern : Text} {regex : engine.Regex},
    engine.compile pattern = .ok regex →
      List.Forall₂ (fun mark text => mark = true → opensGroup text = true)
        (marks pattern) (openedTexts (split pattern))
  slots : ∀ {pattern : Text} {regex : engine.Regex} {text : Text}
    {offset : Nat} {slots : List (Option Span)},
    engine.compile pattern = .ok regex →
      engine.search regex text offset = .ok (some slots) →
        slots.length = (marks pattern).count true + 1

/-- What can open a group of an engine starts one for the splitter. -/
theorem isCapturing_of_opensGroup {text : Text}
    (opens : opensGroup text = true) : isCapturing text = true := by
  unfold opensGroup at opens
  unfold isCapturing
  grind

end RegexEngine

namespace NamedRegex

variable {engine : RegexEngine}

/-- The marks of the source, behind those of the group that sets the flags. -/
def sourceMarks (regex : NamedRegex engine) (marks : Text → List Bool) :
    List Bool :=
  (marks (engineText regex.flags regex.source)).drop
    (openedTexts (Fragment.split regex.flags.inlinePrefix)).length

private theorem inlinePrefix_cases (flags : Flags) :
    flags.inlinePrefix = [] ∨ ∃ front : Text,
      flags.inlinePrefix = front ++ [')'] ∧ front.isComplete = true := by
  obtain ⟨global, caseInsensitive, multiLine, dotMatchesNewline⟩ := flags
  cases global <;> cases caseInsensitive <;> cases multiLine <;>
    cases dotMatchesNewline <;>
    first
    | exact .inl rfl
    | exact .inr ⟨_, (List.dropLast_append_getLast (by decide)).symm, by decide⟩

theorem openedTexts_engineText (flags : Flags) (source : Text) :
    openedTexts (Fragment.split (engineText flags source)) =
      openedTexts (Fragment.split flags.inlinePrefix) ++
        openedTexts (Fragment.split source) := by
  rw [engineText]
  obtain bare | ⟨front, set, complete⟩ := inlinePrefix_cases flags
  · rw [bare]
    rfl
  · have short := openedTexts_split_closing complete []
    have whole := openedTexts_split_closing complete source
    rw [set, short, List.append_assoc]
    simpa [openedTexts] using whole

private theorem not_opensGroup_inlinePrefix (flags : Flags) :
    ∀ text ∈ openedTexts (Fragment.split flags.inlinePrefix),
      RegexEngine.opensGroup text = false := by
  obtain ⟨global, caseInsensitive, multiLine, dotMatchesNewline⟩ := flags
  cases global <;> cases caseInsensitive <;> cases multiLine <;>
    cases dotMatchesNewline <;>
    decide

private theorem count_eq_zero_of_fits {marks : List Bool} {texts : List Text}
    (fits : List.Forall₂
      (fun mark text => mark = true → RegexEngine.opensGroup text = true)
      marks texts)
    (closed : ∀ text ∈ texts, RegexEngine.opensGroup text = false) :
    marks.count true = 0 := by
  induction fits with
  | nil => rfl
  | @cons mark text marks texts here _ induction =>
      rw [List.forall_mem_cons] at closed
      cases mark with
      | false => simpa using induction closed.2
      | true => simp [closed.1] at here

section Compiled

variable {pattern : Pattern engine} {flags : Option Text}
  {regex : NamedRegex engine} {marks : Text → List Bool}

/-- The source is marked only where a capture group can be opened. -/
theorem sourceMarks_fit (groups : engine.MarksGroups marks)
    (compiled : compile engine pattern flags = .ok regex) :
    List.Forall₂
      (fun mark text => mark = true → RegexEngine.opensGroup text = true)
      (regex.sourceMarks marks)
      (openedTexts (Fragment.split regex.source)) := by
  have fits := groups.fits (compile_eq_ok_iff.mp compiled).matcher
  rw [openedTexts_engineText] at fits
  exact List.forall₂_drop_append _ _ _ fits

/-- A match has a slot for each mark of the source, and one for itself. -/
theorem size_of_searchFrom (groups : engine.MarksGroups marks)
    (compiled : compile engine pattern flags = .ok regex)
    {text : Text} {offset : Nat} {found : Match}
    (matched : regex.searchFrom text offset = .ok (some found)) :
    found.size = (regex.sourceMarks marks).count true + 1 := by
  have accepted := (compile_eq_ok_iff.mp compiled).matcher
  obtain ⟨slots, searched, rfl⟩ := Finder.ofSearches_eq_some matched
  have fits := groups.fits accepted
  rw [openedTexts_engineText] at fits
  have unmarked := count_eq_zero_of_fits (List.forall₂_take_append _ _ _ fits)
    (not_opensGroup_inlinePrefix regex.flags)
  have parts := congrArg (List.count true) (List.take_append_drop
    (openedTexts (Fragment.split regex.flags.inlinePrefix)).length
    (marks (engineText regex.flags regex.source)))
  rw [List.count_append, unmarked, Nat.zero_add] at parts
  rw [sourceMarks, parts]
  exact groups.slots accepted searched

end Compiled

end NamedRegex

end NamedGroups
