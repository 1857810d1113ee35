import NamedGroups.Proofs.Fragment.OpenedTexts

/-!
# Balanced texts

The depth of a place in a text is the number of unescaped parentheses that are
open there.  A text is balanced if none of them closes at depth zero and none is
open at the end.  A balanced text that ends outside of an escape can be put
anywhere without changing the depth of what follows, and deleting every `()`
changes no depth either.
-/

namespace NamedGroups

open Fragment

namespace Text

/-- The depth behind a text that starts at the given depth.  `none` if a
parenthesis closes where none is open. -/
def depthAfter : Nat → Text → Option Nat
  | depth, [] => some depth
  | depth, '\\' :: _ :: rest => depthAfter depth rest
  | depth, '(' :: rest => depthAfter (depth + 1) rest
  | 0, ')' :: _ => none
  | depth + 1, ')' :: rest => depthAfter depth rest
  | depth, _ :: rest => depthAfter depth rest

/-- Whether the unescaped parentheses of a text come in pairs. -/
def IsBalanced (text : Text) : Prop := text.depthAfter 0 = some 0

instance (text : Text) : Decidable text.IsBalanced :=
  inferInstanceAs (Decidable (_ = _))

@[simp] theorem depthAfter_nil (depth : Nat) :
    depthAfter depth [] = some depth := by
  simp [depthAfter]

@[simp] theorem depthAfter_backslash (depth : Nat) :
    depthAfter depth ['\\'] = some depth := by
  simp [depthAfter]

@[simp] theorem depthAfter_escaped (depth : Nat) (character : Char)
    (rest : Text) :
    depthAfter depth ('\\' :: character :: rest) = depthAfter depth rest := by
  simp [depthAfter]

@[simp] theorem depthAfter_opening (depth : Nat) (rest : Text) :
    depthAfter depth ('(' :: rest) = depthAfter (depth + 1) rest := by
  simp [depthAfter]

@[simp] theorem depthAfter_closing_zero (rest : Text) :
    depthAfter 0 (')' :: rest) = none := by
  simp [depthAfter]

@[simp] theorem depthAfter_closing_succ (depth : Nat) (rest : Text) :
    depthAfter (depth + 1) (')' :: rest) = depthAfter depth rest := by
  simp [depthAfter]

theorem depthAfter_unmarked {character : Char} (unmarked : Unmarked character)
    (depth : Nat) (rest : Text) :
    depthAfter depth (character :: rest) = depthAfter depth rest := by
  obtain ⟨notBackslash, notOpening, notClosing⟩ := unmarked
  rw [depthAfter] <;> simp [notBackslash, notOpening, notClosing]

/-- Behind a complete text the depth goes on from where that text ends. -/
theorem depthAfter_append {front : Text} (complete : front.isComplete)
    (back : Text) (depth : Nat) :
    depthAfter depth (front ++ back) =
      (depthAfter depth front).bind (depthAfter · back) := by
  induction front using splitInduction generalizing depth with
  | nil => simp
  | backslash => simp at complete
  | escaped character rest induction =>
      simpa using induction (by simpa using complete) depth
  | opening rest induction =>
      rw [isComplete_bare (by decide)] at complete
      simpa using induction complete (depth + 1)
  | closing rest induction =>
      rw [isComplete_bare (by decide)] at complete
      cases depth with
      | zero => simp
      | succ depth => simpa using induction complete depth
  | unmarked character rest unmarked induction =>
      rw [isComplete_bare unmarked.1] at complete
      simpa [depthAfter_unmarked unmarked] using induction complete depth

theorem depthAfter_of_isSolid {text : Text} (solid : isSolid text)
    (depth : Nat) : depthAfter depth text = some depth := by
  induction text using splitInduction with
  | nil => simp
  | backslash => simp
  | escaped character rest induction =>
      simpa using induction (by simpa using solid)
  | opening rest _ => simp at solid
  | closing rest _ => simp at solid
  | unmarked character rest unmarked induction =>
      rw [isSolid_unmarked unmarked] at solid
      rw [depthAfter_unmarked unmarked, induction solid]

private theorem depthAfter_add {text : Text} {depth last : Nat}
    (reached : depthAfter depth text = some last) (more : Nat) :
    depthAfter (depth + more) text = some (last + more) := by
  induction text using splitInduction generalizing depth with
  | nil => simp_all
  | backslash => simp_all
  | escaped character rest induction =>
      simpa using induction (by simpa using reached)
  | opening rest induction =>
      rw [depthAfter_opening] at reached ⊢
      rw [Nat.add_right_comm]
      exact induction reached
  | closing rest induction =>
      cases depth with
      | zero => simp at reached
      | succ depth =>
          rw [depthAfter_closing_succ] at reached
          rw [Nat.add_right_comm, depthAfter_closing_succ]
          exact induction reached
  | unmarked character rest unmarked induction =>
      rw [depthAfter_unmarked unmarked] at reached ⊢
      exact induction reached

/-- Deleting `()` changes no depth. -/
theorem depthAfter_removeEmptyGroups (text : Text) (depth : Nat) :
    depthAfter depth (removeEmptyGroups text) = depthAfter depth text := by
  fun_induction removeEmptyGroups text generalizing depth with
  | case1 => rfl
  | case2 escaped rest induction => simp [induction]
  | case3 rest induction => simp [induction]
  | case4 character rest notEscape notEmpty induction =>
      by_cases escape : character = '\\'
      · subst escape
        cases rest with
        | nil => rfl
        | cons next rest => exact absurd rfl (notEscape next rest rfl)
      by_cases opening : character = '('
      · subst opening
        simp [induction]
      by_cases closing : character = ')'
      · subst closing
        cases depth <;> simp [induction]
      have unmarked : Unmarked character := ⟨escape, opening, closing⟩
      simp [depthAfter_unmarked unmarked, induction]

/-- A text that can be put anywhere: it closes all parentheses and escapes that
it opens. -/
structure SelfContained (text : Text) : Prop where
  balanced : text.IsBalanced
  complete : text.isComplete

namespace SelfContained

variable {text front back : Text}

theorem nil : SelfContained [] := ⟨by simp [IsBalanced], rfl⟩

theorem depthAfter_eq (whole : text.SelfContained) (depth : Nat) :
    depthAfter depth text = some depth := by
  simpa using depthAfter_add whole.balanced depth

theorem append (first : front.SelfContained) (second : back.SelfContained) :
    (front ++ back).SelfContained where
  balanced := by
    rw [IsBalanced, depthAfter_append first.complete, first.depthAfter_eq,
      Option.bind_some]
    exact second.balanced
  complete := by rw [isComplete_append first.complete, second.complete]

theorem enclosed (whole : text.SelfContained) :
    SelfContained ('(' :: text ++ [')']) where
  balanced := by
    rw [IsBalanced, List.cons_append, depthAfter_opening,
      depthAfter_append whole.complete, whole.depthAfter_eq]
    simp
  complete := by
    rw [List.cons_append, isComplete_bare (by decide),
      isComplete_append whole.complete]
    rfl

end SelfContained

end Text

namespace Fragment

open Text

section Parenthesis

variable {text : Text} (complete : text.isComplete) (fragments : List Fragment)
include complete

theorem isComplete_renderAll_opening :
    (renderAll (.plain text :: .opening :: fragments)).isComplete =
      (renderAll fragments).isComplete := by
  rw [renderAll_cons, renderAll_cons, render, render,
    isComplete_append complete, List.singleton_append,
    isComplete_bare (by decide)]

theorem isComplete_renderAll_closing :
    (renderAll (.plain text :: .closing :: fragments)).isComplete =
      (renderAll fragments).isComplete := by
  rw [renderAll_cons, renderAll_cons, render, render,
    isComplete_append complete, List.singleton_append,
    isComplete_bare (by decide)]

variable (solid : isSolid text)
include solid

theorem depthAfter_renderAll_opening (depth : Nat) :
    depthAfter depth (renderAll (.plain text :: .opening :: fragments)) =
      depthAfter (depth + 1) (renderAll fragments) := by
  rw [renderAll_cons, renderAll_cons, render, render,
    depthAfter_append complete, depthAfter_of_isSolid solid, Option.bind_some,
    List.singleton_append, depthAfter_opening]

theorem depthAfter_renderAll_closing (depth : Nat) :
    depthAfter depth (renderAll (.plain text :: .closing :: fragments)) =
      depthAfter depth (')' :: renderAll fragments) := by
  rw [renderAll_cons, renderAll_cons, render, render,
    depthAfter_append complete, depthAfter_of_isSolid solid, Option.bind_some,
    List.singleton_append]

theorem split_renderAll_opening (back : Text) :
    split (renderAll (.plain text :: .opening :: fragments) ++ back) =
      .plain text :: .opening :: split (renderAll fragments ++ back) := by
  simp [render, split_append solid complete, extend]

theorem split_renderAll_closing (back : Text) :
    split (renderAll (.plain text :: .closing :: fragments) ++ back) =
      .plain text :: .closing :: split (renderAll fragments ++ back) := by
  simp [render, split_append solid complete, extend]

end Parenthesis

/-- Nothing comes together between two texts, unless a parenthesis closes at the
start of the second and the first ends behind one that opens. -/
theorem removeEmptyGroups_append_of {front back : Text}
    (complete : front.isComplete)
    (apart : back.head? = some ')' → ∃ depth, front.depthAfter depth = some 0) :
    removeEmptyGroups (front ++ back) =
      removeEmptyGroups front ++ removeEmptyGroups back := by
  induction front using escapeInduction with
  | nil => rfl
  | backslash => simp at complete
  | escaped character rest induction =>
      have further := induction (by simpa using complete) (by simpa using apart)
      simp [removeEmptyGroups, further]
  | bare character rest bare induction =>
      rw [isComplete_bare bare] at complete
      rw [List.cons_append]
      by_cases opening : character = '('
      · subst opening
        have further := induction complete fun closes => by
          obtain ⟨depth, reached⟩ := apart closes
          exact ⟨depth + 1, by simpa using reached⟩
        by_cases closing : rest.head? = some ')'
        · obtain ⟨tail, rfl⟩ := List.head?_eq_some_iff.mp closing
          rw [List.cons_append, removeEmptyGroups_bare (by decide) (by decide),
            removeEmptyGroups_bare (by decide) (by decide), List.cons_append]
            at further
          rw [List.cons_append, removeEmptyGroups, removeEmptyGroups]
          exact List.tail_eq_of_cons_eq further
        · have closes : (rest ++ back).head? ≠ some ')' := by
            cases rest with
            | nil =>
                intro closes
                obtain ⟨depth, reached⟩ := apart closes
                simp at reached
            | cons next rest => exact closing
          rw [removeEmptyGroups_opening closes,
            removeEmptyGroups_opening closing, further, List.cons_append]
      · have further := induction complete fun closes => by
          obtain ⟨depth, reached⟩ := apart closes
          by_cases closing : character = ')'
          · subst closing
            cases depth with
            | zero => simp at reached
            | succ depth => exact ⟨depth, by simpa using reached⟩
          · rw [depthAfter_unmarked ⟨bare, opening, closing⟩] at reached
            exact ⟨depth, reached⟩
        rw [removeEmptyGroups_bare bare opening,
          removeEmptyGroups_bare bare opening, further, List.cons_append]

theorem removeEmptyGroups_append {front back : Text}
    (complete : front.isComplete) (other : back.head? ≠ some ')') :
    removeEmptyGroups (front ++ back) =
      removeEmptyGroups front ++ removeEmptyGroups back :=
  removeEmptyGroups_append_of complete fun closes => absurd closes other

end Fragment

end NamedGroups
