import Mathlib.Data.List.Induction
import NamedGroups.Proofs.Fragment.Decomposition

/-!
# Escaped places in a text

A backslash takes the next character out of consideration, also a backslash.
Said of a single place: the character there is escaped if the backslashes
directly in front of it are odd in number.  This file shows that the scanners,
which read a text from its start and take a backslash together with the
character behind it, see the same escapes.
-/

namespace NamedGroups.Text

/-- The number of backslashes at the end of a text. -/
def backslashesAtEnd (text : Text) : Nat :=
  (text.reverse.takeWhile (· == '\\')).length

/-- Whether a character stands at a position without being escaped there. -/
def IsBareAt (text : Text) (character : Char) (position : Nat) : Prop :=
  text[position]? = some character ∧
    backslashesAtEnd (text.take position) % 2 = 0

instance (text : Text) (character : Char) (position : Nat) :
    Decidable (text.IsBareAt character position) :=
  inferInstanceAs (Decidable (_ ∧ _))

/-- Whether a character stands anywhere without being escaped. -/
def HasBare (text : Text) (character : Char) : Prop :=
  ∃ position, text.IsBareAt character position

private theorem backslashesAtEnd_append_singleton (text : Text)
    (character : Char) :
    backslashesAtEnd (text ++ [character]) =
      if character = '\\' then backslashesAtEnd text + 1 else 0 := by
  by_cases same : character = '\\' <;> simp [backslashesAtEnd, same]

/-- A character behind a text that ends inside an escape is the escaped one. -/
theorem isComplete_append_escaped {text : Text}
    (unfinished : text.isComplete = false) (character : Char) :
    (text ++ [character]).isComplete = true := by
  induction text using escapeInduction with
  | nil => simp at unfinished
  | backslash => simp
  | escaped other rest induction =>
      simpa using induction (by simpa using unfinished)
  | bare other rest bare induction =>
      rw [isComplete_bare bare] at unfinished
      rw [List.cons_append, isComplete_bare bare]
      exact induction unfinished

/-- Only a backslash that is not escaped itself leaves an escape open. -/
theorem isComplete_append_singleton (text : Text) (character : Char) :
    (text ++ [character]).isComplete = true ↔
      text.isComplete = false ∨ character ≠ '\\' := by
  cases complete : text.isComplete with
  | false => simp [isComplete_append_escaped complete]
  | true =>
      rw [isComplete_append complete]
      by_cases same : character = '\\'
      · simp [same]
      · simp [isComplete_bare same, same]

/-- A text ends inside an escape if the backslashes at its end are odd in
number. -/
theorem isComplete_iff (text : Text) :
    text.isComplete = true ↔ text.backslashesAtEnd % 2 = 0 := by
  induction text using List.reverseRecOn with
  | nil => simp [backslashesAtEnd]
  | append_singleton text character induction =>
      rw [isComplete_append_singleton, backslashesAtEnd_append_singleton,
        ← Bool.not_eq_true, induction]
      split
      · rename_i backslash
        simp only [backslash, ne_eq, not_true_eq_false, or_false]
        omega
      · rename_i other
        simp [other]

theorem isBareAt_iff {text : Text} {character : Char} {position : Nat} :
    text.IsBareAt character position ↔
      text[position]? = some character ∧
        isComplete (text.take position) = true := by
  rw [IsBareAt, isComplete_iff]

theorem IsBareAt.lt_length {text : Text} {character : Char} {position : Nat}
    (bare : text.IsBareAt character position) : position < text.length :=
  (List.getElem?_eq_some_iff.mp bare.1).1

/-- What follows a text escapes nothing in it. -/
theorem isBareAt_append_left {front : Text} {position : Nat}
    (inside : position < front.length) (back : Text) (character : Char) :
    (front ++ back).IsBareAt character position ↔
      front.IsBareAt character position := by
  rw [IsBareAt, List.getElem?_append_left inside,
    List.take_append_of_le_length (Nat.le_of_lt inside), IsBareAt]

/-- A text that ends outside of an escape escapes nothing in what follows. -/
theorem isBareAt_append_right {front : Text}
    (complete : front.isComplete = true) (back : Text) (character : Char)
    (position : Nat) :
    (front ++ back).IsBareAt character (front.length + position) ↔
      back.IsBareAt character position := by
  have same : (front ++ back)[front.length + position]? = back[position]? := by
    rw [List.getElem?_append_right (Nat.le_add_right _ _),
      Nat.add_sub_cancel_left]
  rw [isBareAt_iff, isBareAt_iff, same, List.take_length_add_append,
    isComplete_append complete]

theorem isBareAt_append {front : Text} (complete : front.isComplete = true)
    (back : Text) (character : Char) (position : Nat) :
    (front ++ back).IsBareAt character position ↔
      front.IsBareAt character position ∨
        ∃ offset, position = front.length + offset ∧
          back.IsBareAt character offset := by
  by_cases inside : position < front.length
  · rw [isBareAt_append_left inside, or_iff_left]
    rintro ⟨offset, rfl, -⟩
    omega
  · obtain ⟨offset, rfl⟩ := Nat.exists_eq_add_of_le (Nat.le_of_not_lt inside)
    have outside : ¬ front.IsBareAt character (front.length + offset) := by
      intro bare
      have within := bare.lt_length
      omega
    rw [isBareAt_append_right complete, or_iff_right outside]
    constructor
    · intro bare
      exact ⟨offset, rfl, bare⟩
    · rintro ⟨other, same, bare⟩
      rwa [Nat.add_left_cancel same]

theorem isBareAt_singleton {single character : Char} {position : Nat} :
    IsBareAt [single] character position ↔
      position = 0 ∧ single = character := by
  cases position with
  | zero => simp [IsBareAt, backslashesAtEnd]
  | succ position => simp [IsBareAt]

theorem hasBare_append {front : Text} (complete : front.isComplete = true)
    (back : Text) (character : Char) :
    (front ++ back).HasBare character ↔
      front.HasBare character ∨ back.HasBare character := by
  simp only [HasBare, isBareAt_append complete, exists_or]
  refine or_congr_right ⟨?_, ?_⟩
  · rintro ⟨_, offset, -, bare⟩
    exact ⟨offset, bare⟩
  · rintro ⟨offset, bare⟩
    exact ⟨_, offset, rfl, bare⟩

@[simp] theorem not_hasBare_nil (character : Char) :
    ¬ HasBare [] character := by
  rintro ⟨position, bare⟩
  simp [IsBareAt] at bare

@[simp] theorem hasBare_singleton (single character : Char) :
    HasBare [single] character ↔ single = character := by
  simp [HasBare, isBareAt_singleton]

theorem not_hasBare_escape {character : Char} (other : character ≠ '\\')
    (escaped : Char) : ¬ HasBare ['\\', escaped] character := by
  rintro ⟨position, bare⟩
  match position with
  | 0 => exact other (Option.some.inj bare.1).symm
  | 1 => exact absurd bare.2 (by simp [backslashesAtEnd])
  | position + 2 => simp [IsBareAt] at bare

theorem hasBare_escaped {character : Char} (other : character ≠ '\\')
    (escaped : Char) (rest : Text) :
    HasBare ('\\' :: escaped :: rest) character ↔ rest.HasBare character := by
  have complete : isComplete ['\\', escaped] = true := by simp
  have apart := hasBare_append complete rest character
  rwa [or_iff_right (not_hasBare_escape other escaped)] at apart

theorem hasBare_bare {first : Char} (bare : first ≠ '\\') (rest : Text)
    (character : Char) :
    HasBare (first :: rest) character ↔
      first = character ∨ rest.HasBare character := by
  have complete : isComplete [first] = true := by simp [isComplete_bare bare]
  have apart := hasBare_append complete rest character
  rwa [hasBare_singleton] at apart

end NamedGroups.Text
