import NamedGroups.Proofs.Fragment.Nesting
import NamedGroups.Proofs.Text.Escapes

/-!
# The only way to cut a pattern

The fragments of a pattern can be told without saying how they are found: texts
and parentheses in turn, which give the pattern when they are written in a row,
such that no parenthesis of a text is bare and no text but the last leaves an
escape open.  A pattern has one such list of fragments, and it is cut into that
one.
-/

namespace NamedGroups.Fragment

/-- Texts and parentheses in turn, with a text at each end. -/
inductive Alternates : List Fragment → Prop where
  | last (text : Text) : Alternates [.plain text]
  | next (text : Text) {parenthesis : Fragment} {fragments : List Fragment} :
      parenthesis = .opening ∨ parenthesis = .closing → Alternates fragments →
      Alternates (.plain text :: parenthesis :: fragments)

/-- What makes a list of fragments one of a pattern. -/
structure Decomposes (pattern : Text) (fragments : List Fragment) : Prop where
  alternates : Alternates fragments
  rendered : renderAll fragments = pattern
  /-- Parentheses stay in a text only where they are escaped. -/
  solid :
    ∀ text, .plain text ∈ fragments → ¬ text.HasBare '(' ∧ ¬ text.HasBare ')'
  /-- In front of a parenthesis no backslash is left to escape it. -/
  complete :
    ∀ text, .plain text ∈ fragments.dropLast → text.backslashesAtEnd % 2 = 0

/-- The scanner finds a parenthesis in a text exactly if one is bare. -/
theorem isSolid_iff (text : Text) :
    isSolid text = true ↔ ¬ text.HasBare '(' ∧ ¬ text.HasBare ')' := by
  induction text using splitInduction with
  | nil => simp
  | backslash => exact iff_of_true rfl (by simp)
  | escaped character rest induction =>
      rw [isSolid_escaped, induction, Text.hasBare_escaped (by decide),
        Text.hasBare_escaped (by decide)]
  | opening rest _ => simp [Text.hasBare_bare]
  | closing rest _ => simp [Text.hasBare_bare]
  | unmarked character rest unmarked induction =>
      rw [isSolid_unmarked unmarked, induction, Text.hasBare_bare unmarked.1,
        Text.hasBare_bare unmarked.1]
      simp [unmarked.2.1, unmarked.2.2]

theorem Alternates.dropLast_behind {fragments : List Fragment}
    (alternates : Alternates fragments) (first second : Fragment) :
    (first :: second :: fragments).dropLast =
      first :: second :: fragments.dropLast := by
  cases alternates <;> rfl

theorem Cut.alternates {fragments : List Fragment} (cut : Cut fragments) :
    Alternates fragments := by
  induction cut with
  | last _ => exact .last _
  | opening _ _ _ induction => exact .next _ (.inl rfl) induction
  | closing _ _ _ induction => exact .next _ (.inr rfl) induction

private theorem Cut.isSolid_of_mem {fragments : List Fragment}
    (cut : Cut fragments) {text : Text} (member : .plain text ∈ fragments) :
    isSolid text = true := by
  obtain ⟨position, found⟩ := List.mem_iff_getElem?.mp member
  exact (cut.plain_at found).1

private theorem Cut.isComplete_of_mem {fragments : List Fragment}
    (cut : Cut fragments) {text : Text}
    (member : .plain text ∈ fragments.dropLast) : text.isComplete = true := by
  obtain ⟨position, found⟩ := List.mem_iff_getElem?.mp member
  have inside := (List.getElem?_eq_some_iff.mp found).1
  rw [List.length_dropLast] at inside
  rw [List.getElem?_dropLast, if_pos inside] at found
  exact ((cut.plain_at found).2 (by omega)).1

/-- Fragments in turn are cut as a pattern is if their texts are solid and, in
front of a parenthesis, complete. -/
theorem Alternates.cut {fragments : List Fragment}
    (alternates : Alternates fragments)
    (solid : ∀ text, .plain text ∈ fragments → isSolid text = true)
    (complete :
      ∀ text, .plain text ∈ fragments.dropLast → Text.isComplete text = true) :
    Cut fragments := by
  induction alternates with
  | last text => exact .last (solid text (by simp))
  | @next text parenthesis fragments isParenthesis others induction =>
      have solidHere : isSolid text = true := solid text (by simp)
      rw [others.dropLast_behind] at complete
      have completeHere : text.isComplete = true := complete text (by simp)
      have rest : Cut fragments := by
        apply induction
        · intro other member
          exact solid other (by simp [member])
        · intro other member
          exact complete other (by simp [member])
      rcases isParenthesis with rfl | rfl
      · exact .opening solidHere completeHere rest
      · exact .closing solidHere completeHere rest

/-- A pattern is cut into the only fragments that it can be made of. -/
theorem split_eq_iff_decomposes (pattern : Text) (fragments : List Fragment) :
    split pattern = fragments ↔ Decomposes pattern fragments := by
  constructor
  · rintro rfl
    have cut := Cut.of_split pattern
    constructor
    · exact cut.alternates
    · exact renderAll_split pattern
    · intro text member
      exact (isSolid_iff text).mp (cut.isSolid_of_mem member)
    · intro text member
      exact (Text.isComplete_iff text).mp (cut.isComplete_of_mem member)
  · intro decomposes
    have cut : Cut fragments := by
      apply decomposes.alternates.cut
      · intro text member
        exact (isSolid_iff text).mpr (decomposes.solid text member)
      · intro text member
        exact (Text.isComplete_iff text).mpr (decomposes.complete text member)
    rw [← decomposes.rendered, cut.split_renderAll]

/-- Two backslashes escape nothing behind them, three of them escape a
parenthesis. -/
example :
    split ['\\', '\\', '(', '\\', '\\', '\\', ')', 'x', ')'] =
      [.plain ['\\', '\\'], .opening, .plain ['\\', '\\', '\\', ')', 'x'],
        .closing, .plain []] := by
  rfl

end NamedGroups.Fragment
