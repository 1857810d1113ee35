import Mathlib.Data.List.Forall2
import NamedGroups.Proofs.Engine.Openings
import NamedGroups.Proofs.NamedRegex.GroupMarks

/-!
# The parentheses of the built-in engine and of the splitter

The engine and the splitter see the same opening parentheses, since a backslash
hides the character behind it from both.  Where the engine opens a capture
group, the text behind the parenthesis can open one.  The converse fails inside
of classes and comments and in front of conditions, and where blanks or comments
hide a question mark.
-/

namespace NamedGroups.Engine

open Fragment GroupSyntax

namespace Reading

theorem step_fst_of_ne {character : Char} (other : character ≠ '(')
    (reading : Reading) (rest : Text) :
    (reading.step character rest).1 = [] := by
  simp only [step, readCharacter, readPart, asOpening, other]
  grind

/-- An opening parenthesis that is not hidden stands for one thing. -/
theorem step_opening {reading : Reading} (reached : reading.passing = 0)
    (rest : Text) :
    ∃ opening, (reading.step '(' rest).1 = [opening] ∧
      (opening = .capture → GroupKind.of reading.verbose rest = .capture) := by
  obtain ⟨passing, ignored, region, verbose, enclosing⟩ := reading
  cases reached
  cases ignored with
  | comment => exact ⟨.ignored, by simp [step, asOpening], by simp⟩
  | remark => exact ⟨.ignored, by simp [step, asOpening], by simp⟩
  | nothing =>
      by_cases isComment : rest.take 2 = ['?', '#']
      · exact ⟨.ignored, by simp [step, isComment], by simp⟩
      cases region with
      | members depth =>
          exact ⟨.member, by simp [step, readCharacter, asOpening, isComment],
            by simp⟩
      | start isConditional =>
          cases isConditional
          · exact ⟨.group, by simp [step, readCharacter, asOpening, isComment],
              by simp⟩
          · exact ⟨.condition, by simp [step, readCharacter, isComment],
              by simp⟩
      | flags outer value =>
          exact ⟨.group, by simp [step, readCharacter, asOpening, isComment],
            by simp⟩
      | parts =>
          cases kind : GroupKind.of verbose rest with
          | capture =>
              exact ⟨.capture,
                by simp [step, readCharacter, readPart, isComment, kind],
                fun _ => rfl⟩
          | other =>
              exact ⟨.group,
                by simp [step, readCharacter, readPart, isComment, kind],
                by simp⟩
          | conditional =>
              exact ⟨.group,
                by simp [step, readCharacter, readPart, isComment, kind],
                by simp⟩
          | flags =>
              exact ⟨.group,
                by simp [step, readCharacter, readPart, isComment, kind],
                by simp⟩

private theorem unmarked_classStart (rest : Text) :
    ∀ other ∈ rest.take (classStart rest), Unmarked other := by
  unfold classStart
  split <;> simp <;> decide

/-- What is passed over behind a character neither escapes nor opens nor closes
anything. -/
theorem step_passing {reading : Reading} (reached : reading.passing = 0)
    {character : Char} (bare : character ≠ '\\') (rest : Text) :
    ∀ other ∈ rest.take (reading.step character rest).2.passing,
      Unmarked other := by
  have nothing : ∀ next : Reading, next.passing = 0 →
      ∀ other ∈ rest.take next.passing, Unmarked other := by
    intro next stays
    simp [stays]
  obtain ⟨passing, ignored, region, verbose, enclosing⟩ := reading
  cases reached
  cases ignored with
  | comment =>
      apply nothing
      simp only [step, bare]
      grind
  | remark =>
      apply nothing
      simp only [step, bare]
      grind
  | nothing =>
      by_cases isComment : character = '(' ∧ rest.take 2 = ['?', '#']
      · simp [step, isComment]
        decide
      by_cases isClass : region = .parts ∧ character = '['
      · obtain ⟨rfl, rfl⟩ := isClass
        simpa [step, readCharacter, readPart] using unmarked_classStart rest
      · apply nothing
        simp only [step, bare, isComment]
        cases region <;>
          grind [readCharacter, readPart, readMember, readFlag, enter, leave]

theorem openings_cons (reading : Reading) (character : Char) (rest : Text) :
    reading.openings (character :: rest) =
      (reading.step character rest).1 ++
        (reading.step character rest).2.openings rest := rfl

end Reading

theorem opensGroup_of_angle {name : Text} (notBehind : name.head? ≠ some '=')
    (notNegated : name.head? ≠ some '!') :
    RegexEngine.opensGroup ('?' :: '<' :: name) = true := by
  cases name with
  | nil => rfl
  | cons character name =>
      simp only [List.head?_cons, ne_eq, Option.some.injEq]
        at notBehind notNegated
      simp [RegexEngine.opensGroup, notBehind, notNegated]

private theorem opensGroup_of_ne_question {text : Text}
    (other : text.head? ≠ some '?') : RegexEngine.opensGroup text = true := by
  unfold RegexEngine.opensGroup
  grind

private theorem head?_of_split {rest text : Text} {others : List Fragment}
    (cut : split rest = .plain text :: others) {character : Char}
    (starts : text.head? = some character) : rest.head? = some character := by
  have whole := renderAll_split rest
  rw [cut] at whole
  rw [← whole, renderAll_cons, render, List.head?_append, starts]
  rfl

private theorem split_cons_eq {character : Char} {rest text : Text}
    {others : List Fragment} (unmarked : Unmarked character)
    (cut : split (character :: rest) = .plain text :: others) :
    ∃ tail, text = character :: tail ∧ split rest = .plain tail :: others := by
  obtain ⟨tail, fragments, cutRest⟩ := (Cut.of_split rest).starts_with_text
  rw [split_unmarked unmarked, cutRest] at cut
  cases cut
  exact ⟨tail, rfl, cutRest⟩

theorem opensGroup_of_kind {verbose : Bool} {rest text : Text}
    {others : List Fragment} (cut : split rest = .plain text :: others)
    (kind : GroupKind.of verbose rest = .capture) :
    RegexEngine.opensGroup text = true := by
  by_cases question : text.head? = some '?'
  · obtain ⟨tail, rfl⟩ : ∃ tail, rest = '?' :: tail := by
      have starts := head?_of_split cut question
      cases rest with
      | nil => cases starts
      | cons character tail =>
          cases starts
          exact ⟨tail, rfl⟩
    have settled :
        Parser.skipIgnored verbose .nothing ('?' :: tail) =
          .ok ('?' :: tail) := by
      simp [Parser.skipIgnored]
    obtain ⟨body, rfl, cutTail⟩ := split_cons_eq (by decide) cut
    rw [GroupKind.of, settled] at kind
    split at kind
    all_goals try cases kind
    · rename_i after notBehind notNegated same
      cases same
      obtain ⟨name, rfl, cutName⟩ := split_cons_eq (by decide) cutTail
      apply opensGroup_of_angle
      · intro starts
        obtain ⟨others, equal⟩ :=
          List.head?_eq_some_iff.mp (head?_of_split cutName starts)
        exact notBehind others equal
      · intro starts
        obtain ⟨others, equal⟩ :=
          List.head?_eq_some_iff.mp (head?_of_split cutName starts)
        exact notNegated others equal
    · rename_i after same
      cases same
      obtain ⟨name, rfl, cutName⟩ := split_cons_eq (by decide) cutTail
      obtain ⟨name, rfl, -⟩ := split_cons_eq (by decide) cutName
      rfl
    · rename_i unstarted
      exact absurd rfl (unstarted tail)
  · exact opensGroup_of_ne_question question

private theorem openedTexts_extend {fragments : List Fragment}
    (cut : Cut fragments) (characters : Text) :
    openedTexts (extend characters fragments) = openedTexts fragments := by
  obtain ⟨text, others, rfl⟩ := cut.starts_with_text
  simp [extend]

/-- A capture group of the engine starts with a text that can open one. -/
def Fits (opening : Opening) (text : Text) : Prop :=
  opening = .capture → RegexEngine.opensGroup text = true

private theorem Reading.openings_escaped {reading : Reading}
    (reached : reading.passing = 0) (character : Char) (rest : Text) :
    ∃ next : Reading, next.passing = 0 ∧
      reading.openings ('\\' :: character :: rest) = next.openings rest := by
  obtain ⟨passing, ignored, region, verbose, enclosing⟩ := reading
  cases reached
  cases ignored with
  | comment => exact ⟨⟨0, .comment, region, verbose, enclosing⟩, rfl, rfl⟩
  | nothing => exact ⟨⟨0, .nothing, region, verbose, enclosing⟩, rfl, rfl⟩
  | remark =>
      by_cases ends : character = '\n'
      · refine ⟨⟨0, .nothing, region, verbose, enclosing⟩, rfl, ?_⟩
        simp [openings_cons, step, ends]
      · refine ⟨⟨0, .remark, region, verbose, enclosing⟩, rfl, ?_⟩
        simp [openings_cons, step, ends]

theorem openings_fit (reading : Reading) (text : Text)
    (passed : ∀ character ∈ text.take reading.passing, Unmarked character) :
    List.Forall₂ Fits (reading.openings text) (openedTexts (split text)) := by
  induction text using Text.escapeInduction generalizing reading with
  | nil => exact .nil
  | backslash =>
      rw [Reading.openings_cons, Reading.step_fst_of_ne (by decide)]
      exact .nil
  | escaped character rest induction =>
      have reached : reading.passing = 0 := by
        cases count : reading.passing with
        | zero => rfl
        | succ count =>
            rw [count] at passed
            exact absurd (passed '\\' (by simp)) (by decide)
      obtain ⟨next, nextReached, same⟩ :=
        Reading.openings_escaped reached character rest
      rw [split_escaped, openedTexts_extend (Cut.of_split rest), same]
      exact induction next (by simp [nextReached])
  | bare character rest bare induction =>
      obtain ⟨first, others, cut⟩ := (Cut.of_split rest).starts_with_text
      rw [Reading.openings_cons]
      cases count : reading.passing with
      | succ count' =>
          have unmarked : Unmarked character := by
            rw [count] at passed
            exact passed character (by simp)
          rw [Reading.step_fst_of_ne unmarked.2.1, split_unmarked unmarked,
            openedTexts_extend (Cut.of_split rest), List.nil_append]
          have stepped :
              (reading.step character rest).2 =
                { reading with passing := count' } := by
            simp [Reading.step, count]
          rw [stepped]
          refine induction _ fun other isMember => passed other ?_
          rw [count, List.take_succ_cons]
          exact List.mem_cons_of_mem _ isMember
      | zero =>
          have later := induction _ (Reading.step_passing count bare rest)
          by_cases opening : character = '('
          · subst opening
            obtain ⟨kind, opened, capturing⟩ := Reading.step_opening count rest
            rw [opened, split_opening, openedTexts_plain, cut,
              openedTexts_opening_plain]
            refine .cons
              (fun isCapture => opensGroup_of_kind cut (capturing isCapture)) ?_
            rw [cut, openedTexts_plain] at later
            exact later
          · rw [Reading.step_fst_of_ne opening]
            by_cases closing : character = ')'
            · subst closing
              rw [split_closing, openedTexts_plain, openedTexts_closing]
              exact later
            · rw [split_unmarked ⟨bare, opening, closing⟩,
                openedTexts_extend (Cut.of_split rest)]
              exact later

end NamedGroups.Engine
