import NamedGroups.Fragment

/-!
# Patterns and their fragments

Cutting a pattern and writing its fragments in a row are inverse to each other.
`Cut` says which lists of fragments come from a pattern: texts alternate with
parentheses, no text holds an unescaped parenthesis, and only the last one may
end inside an escape.
-/

namespace NamedGroups

namespace Text

/-- Induction along a text in which a backslash and the character behind it go
together. -/
@[elab_as_elim]
theorem escapeInduction {motive : Text → Prop}
    (nil : motive [])
    (backslash : motive ['\\'])
    (escaped : ∀ (character : Char) (rest : Text),
      motive rest → motive ('\\' :: character :: rest))
    (bare : ∀ (character : Char) (rest : Text),
      character ≠ '\\' → motive rest → motive (character :: rest)) :
    ∀ text, motive text
  | [] => nil
  | [character] => by
      by_cases same : character = '\\'
      · subst same
        exact backslash
      · exact bare character [] same nil
  | character :: next :: rest => by
      by_cases same : character = '\\'
      · subst same
        exact escaped next rest
          (escapeInduction nil backslash escaped bare rest)
      · exact bare character (next :: rest) same
          (escapeInduction nil backslash escaped bare (next :: rest))

/-- Whether a text ends outside of an escape. -/
def isComplete : Text → Bool
  | [] => true
  | ['\\'] => false
  | '\\' :: _ :: rest => isComplete rest
  | _ :: rest => isComplete rest

@[simp] theorem isComplete_nil : isComplete [] = true := rfl

@[simp] theorem isComplete_backslash : isComplete ['\\'] = false := rfl

@[simp] theorem isComplete_escaped (character : Char) (rest : Text) :
    isComplete ('\\' :: character :: rest) = isComplete rest := by
  simp [isComplete]

theorem isComplete_bare {character : Char} (bare : character ≠ '\\')
    (rest : Text) : isComplete (character :: rest) = isComplete rest := by
  rw [isComplete] <;> simp [bare]

theorem isComplete_append {front : Text} (complete : front.isComplete)
    (back : Text) : (front ++ back).isComplete = back.isComplete := by
  induction front using escapeInduction with
  | nil => rfl
  | backslash => simp at complete
  | escaped character rest induction =>
      simpa using induction (by simpa using complete)
  | bare character rest bare induction =>
      rw [isComplete_bare bare] at complete
      rw [List.cons_append, isComplete_bare bare, induction complete]

end Text

namespace Fragment

open Text (escapeInduction isComplete isComplete_escaped isComplete_bare)

/-- Whether a text holds no unescaped parenthesis. -/
def isSolid : Text → Bool
  | [] => true
  | '\\' :: _ :: rest => isSolid rest
  | '(' :: _ => false
  | ')' :: _ => false
  | _ :: rest => isSolid rest

/-- A character that means nothing to the cutting of a pattern. -/
def Unmarked (character : Char) : Prop :=
  character ≠ '\\' ∧ character ≠ '(' ∧ character ≠ ')'

instance (character : Char) : Decidable (Unmarked character) :=
  inferInstanceAs (Decidable (_ ∧ _))

@[simp] theorem isSolid_nil : isSolid [] = true := rfl

@[simp] theorem isSolid_escaped (character : Char) (rest : Text) :
    isSolid ('\\' :: character :: rest) = isSolid rest := rfl

@[simp] theorem isSolid_opening (rest : Text) : isSolid ('(' :: rest) = false :=
  rfl

@[simp] theorem isSolid_closing (rest : Text) : isSolid (')' :: rest) = false :=
  rfl

theorem isSolid_unmarked {character : Char} (unmarked : Unmarked character)
    (rest : Text) : isSolid (character :: rest) = isSolid rest := by
  obtain ⟨notBackslash, notOpening, notClosing⟩ := unmarked
  rw [isSolid] <;> simp [notBackslash, notOpening, notClosing]

@[simp] theorem split_nil : split [] = [.plain []] := rfl

@[simp] theorem split_backslash : split ['\\'] = [.plain ['\\']] := rfl

@[simp] theorem split_escaped (character : Char) (rest : Text) :
    split ('\\' :: character :: rest) = extend ['\\', character] (split rest) :=
  rfl

@[simp] theorem split_opening (rest : Text) :
    split ('(' :: rest) = .plain [] :: .opening :: split rest := rfl

@[simp] theorem split_closing (rest : Text) :
    split (')' :: rest) = .plain [] :: .closing :: split rest := rfl

theorem split_unmarked {character : Char} (unmarked : Unmarked character)
    (rest : Text) :
    split (character :: rest) = extend [character] (split rest) := by
  obtain ⟨notBackslash, notOpening, notClosing⟩ := unmarked
  rw [split] <;> simp [notBackslash, notOpening, notClosing]

/-- Induction along a pattern, with a case for each way in which it can go
on. -/
@[elab_as_elim]
theorem splitInduction {motive : Text → Prop}
    (nil : motive [])
    (backslash : motive ['\\'])
    (escaped : ∀ (character : Char) (rest : Text),
      motive rest → motive ('\\' :: character :: rest))
    (opening : ∀ rest : Text, motive rest → motive ('(' :: rest))
    (closing : ∀ rest : Text, motive rest → motive (')' :: rest))
    (unmarked : ∀ (character : Char) (rest : Text),
      Unmarked character → motive rest → motive (character :: rest))
    (text : Text) : motive text := by
  induction text using escapeInduction with
  | nil => exact nil
  | backslash => exact backslash
  | escaped character rest induction => exact escaped character rest induction
  | bare character rest bare induction =>
      by_cases isOpening : character = '('
      · subst isOpening
        exact opening rest induction
      by_cases isClosing : character = ')'
      · subst isClosing
        exact closing rest induction
      exact unmarked character rest ⟨bare, isOpening, isClosing⟩ induction

/-- The pattern that fragments are written as. -/
def renderAll (fragments : List Fragment) : Text := fragments.flatMap render

@[simp] theorem renderAll_nil : renderAll [] = [] := rfl

@[simp] theorem renderAll_cons (fragment : Fragment)
    (fragments : List Fragment) :
    renderAll (fragment :: fragments) =
      fragment.render ++ renderAll fragments := rfl

@[simp] theorem renderAll_append (left right : List Fragment) :
    renderAll (left ++ right) = renderAll left ++ renderAll right := by
  simp [renderAll]

theorem renderAll_extend (characters : Text) (fragments : List Fragment) :
    renderAll (extend characters fragments) =
      characters ++ renderAll fragments := by
  cases fragments with
  | nil => simp [extend, render]
  | cons fragment fragments => cases fragment <;> simp [extend, render]

theorem renderAll_split (pattern : Text) :
    renderAll (split pattern) = pattern := by
  induction pattern using splitInduction with
  | nil => rfl
  | backslash => rfl
  | escaped character rest induction => simp [renderAll_extend, induction]
  | opening rest induction => simp [render, induction]
  | closing rest induction => simp [render, induction]
  | unmarked character rest unmarked induction =>
      rw [split_unmarked unmarked, renderAll_extend, induction]
      rfl

/-- The lists of fragments that patterns are cut into. -/
inductive Cut : List Fragment → Prop where
  | last {text : Text} : isSolid text → Cut [.plain text]
  | opening {text : Text} {fragments : List Fragment} :
      isSolid text → isComplete text → Cut fragments →
      Cut (.plain text :: .opening :: fragments)
  | closing {text : Text} {fragments : List Fragment} :
      isSolid text → isComplete text → Cut fragments →
      Cut (.plain text :: .closing :: fragments)

namespace Cut

theorem starts_with_text {fragments : List Fragment} (cut : Cut fragments) :
    ∃ text others, fragments = .plain text :: others := by
  cases cut <;> exact ⟨_, _, rfl⟩

private theorem extend_escaped {fragments : List Fragment} (cut : Cut fragments)
    (character : Char) : Cut (extend ['\\', character] fragments) := by
  cases cut with
  | last solid => exact .last (by simpa using solid)
  | opening solid complete rest =>
      exact .opening (by simpa using solid) (by simpa using complete) rest
  | closing solid complete rest =>
      exact .closing (by simpa using solid) (by simpa using complete) rest

private theorem extend_unmarked {fragments : List Fragment}
    (cut : Cut fragments) {character : Char} (unmarked : Unmarked character) :
    Cut (extend [character] fragments) := by
  cases cut with
  | last solid => exact .last (by simpa [isSolid_unmarked unmarked] using solid)
  | opening solid complete rest =>
      exact .opening (by simpa [isSolid_unmarked unmarked] using solid)
        (by simpa [isComplete_bare unmarked.1] using complete) rest
  | closing solid complete rest =>
      exact .closing (by simpa [isSolid_unmarked unmarked] using solid)
        (by simpa [isComplete_bare unmarked.1] using complete) rest

theorem of_split (pattern : Text) : Cut (split pattern) := by
  induction pattern using splitInduction with
  | nil => exact .last rfl
  | backslash => exact .last rfl
  | escaped character rest induction => exact induction.extend_escaped character
  | opening rest induction => exact .opening rfl rfl induction
  | closing rest induction => exact .closing rfl rfl induction
  | unmarked character rest unmarked induction =>
      rw [split_unmarked unmarked]
      exact induction.extend_unmarked unmarked

end Cut

theorem split_of_isSolid {text : Text} (solid : isSolid text) :
    split text = [.plain text] := by
  induction text using splitInduction with
  | nil => rfl
  | backslash => rfl
  | escaped character rest induction =>
      rw [split_escaped, induction (by simpa using solid)]
      rfl
  | opening rest _ => simp at solid
  | closing rest _ => simp at solid
  | unmarked character rest unmarked induction =>
      rw [isSolid_unmarked unmarked] at solid
      rw [split_unmarked unmarked, induction solid]
      rfl

/-- A complete text in front goes into the first text of what follows. -/
theorem split_append {text : Text} (solid : isSolid text)
    (complete : isComplete text) (rest : Text) :
    split (text ++ rest) = extend text (split rest) := by
  obtain ⟨first, others, cut⟩ := (Cut.of_split rest).starts_with_text
  induction text using splitInduction with
  | nil => simp [cut, extend]
  | backslash => simp at complete
  | escaped character text induction =>
      have tail := induction (by simpa using solid) (by simpa using complete)
      simp [tail, cut, extend]
  | opening text _ => simp at solid
  | closing text _ => simp at solid
  | unmarked character text unmarked induction =>
      have tail := induction (by simpa [isSolid_unmarked unmarked] using solid)
        (by simpa [isComplete_bare unmarked.1] using complete)
      simp [split_unmarked unmarked, tail, cut, extend]

/-- A parenthesis behind a complete text ends the fragments of that text. -/
theorem split_append_of_starts {front back : Text} {fragments : List Fragment}
    (complete : isComplete front)
    (starts : split back = .plain [] :: fragments) :
    split (front ++ back) = split front ++ fragments := by
  have extend_split : ∀ (characters text : Text),
      extend characters (split text ++ fragments) =
        extend characters (split text) ++ fragments := by
    intro characters text
    obtain ⟨first, others, cut⟩ := (Cut.of_split text).starts_with_text
    simp [cut, extend]
  induction front using splitInduction with
  | nil => simp [starts]
  | backslash => simp at complete
  | escaped character front induction =>
      simp [induction (by simpa using complete), extend_split]
  | opening front induction =>
      rw [isComplete_bare (by decide)] at complete
      simp [induction complete]
  | closing front induction =>
      rw [isComplete_bare (by decide)] at complete
      simp [induction complete]
  | unmarked character front unmarked induction =>
      rw [isComplete_bare unmarked.1] at complete
      simp [split_unmarked unmarked, induction complete, extend_split]

theorem split_append_opening {front : Text} (complete : isComplete front)
    (back : Text) :
    split (front ++ '(' :: back) = split front ++ .opening :: split back :=
  split_append_of_starts complete (split_opening back)

theorem split_append_closing {front : Text} (complete : isComplete front)
    (back : Text) :
    split (front ++ ')' :: back) = split front ++ .closing :: split back :=
  split_append_of_starts complete (split_closing back)

theorem Cut.split_renderAll {fragments : List Fragment} (cut : Cut fragments) :
    split (renderAll fragments) = fragments := by
  induction cut with
  | last solid => simpa [render] using split_of_isSolid solid
  | opening solid complete _ induction =>
      simp [render, split_append solid complete, induction, extend]
  | closing solid complete _ induction =>
      simp [render, split_append solid complete, induction, extend]

end Fragment

end NamedGroups
