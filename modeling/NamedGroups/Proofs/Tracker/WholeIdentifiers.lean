import NamedGroups.Proofs.Tracker.Recording

/-!
# References by long identifiers

A name has a greatest length, and so does the part of an identifier that a
reference reads as a name.  A header with a longer identifier names no group,
but a reference with a longer identifier refers to the group whose name is the
first part of it, if there is one: only identifiers that are not too long are
looked up as a whole.
-/

namespace NamedGroups

open Fragment GroupSyntax

namespace GroupSyntax

/-- Whether a text is made of characters like a name, of any length. -/
def IsIdentifier : Text → Prop
  | [] => False
  | first :: rest => isNameStart first ∧ rest.all isNameContinue

instance : DecidablePred IsIdentifier
  | [] => inferInstanceAs (Decidable False)
  | _ :: _ => inferInstanceAs (Decidable (_ ∧ _))

theorem length_le_of_isName {name : Text} (valid : IsName name) :
    name.length ≤ maxNameLength := by
  cases name with
  | nil => cases valid
  | cons first rest => exact valid.2.2

variable {identifier : Text}

/-- As much of an identifier is read as fits a name. -/
theorem leadingName_of_isIdentifier (valid : IsIdentifier identifier) :
    leadingName identifier = identifier.take maxNameLength := by
  cases identifier with
  | nil => cases valid
  | cons first rest =>
      obtain ⟨starts, continues⟩ := valid
      have all : (rest.take (maxNameLength - 1)).takeWhile isNameContinue =
          rest.take (maxNameLength - 1) :=
        List.takeWhile_eq_self_iff.mpr fun character member =>
          List.all_eq_true.mp continues character (List.mem_of_mem_take member)
      rw [leadingName, if_pos starts, all]
      rfl

/-- A reference reads no more of an identifier. -/
theorem reference?_of_isIdentifier {mark : Text} (isMark : IsReferenceMark mark)
    (valid : IsIdentifier identifier) :
    reference? (mark ++ identifier) = some (identifier.take maxNameLength) := by
  have leading := leadingName_of_isIdentifier valid
  have filled : identifier.take maxNameLength ≠ [] := by
    cases identifier with
    | nil => cases valid
    | cons first rest => exact List.cons_ne_nil first _
  rcases isMark with rfl | rfl <;>
    simp only
      [reference?, referenceTail?, List.cons_append, List.nil_append, leading]

end GroupSyntax

namespace Tracker

variable {fragments : List Fragment} {opening : Nat} {mark identifier : Text}

/-- Whether the group that opens at a position takes the source of the group
that is named by an identifier, if such a group has closed in front of it, and
otherwise the source of no other name. -/
structure TakesSource (fragments : List Fragment) (opening : Nat)
    (identifier : Text) : Prop where
  own : ∀ source, HasSource fragments opening identifier source →
    outputAt fragments (opening + 2) =
      outputAt fragments (opening + 1) ++ source
  noOther :
    (∀ source, ¬ HasSource fragments opening identifier source) →
      ∀ name source, HasSource fragments opening name source → source ≠ [] →
        outputAt fragments (opening + 2) ≠
          outputAt fragments (opening + 1) ++ source

theorem isName_of_hasSource {position : Nat} {name source : Text}
    (known : HasSource fragments position name source) : IsName name := by
  obtain ⟨pair, -, owned, -⟩ := known
  exact isName_of_headerAt? (ownedName?_eq_some_iff.mp owned).1

section Reference

variable (isMark : IsReferenceMark mark) (valid : IsIdentifier identifier)
  (opened : openedText? fragments opening = some (mark ++ identifier))
include isMark valid opened

/-- A reference takes the source of the name that its identifier starts with. -/
theorem outputAt_identifier {source : Text}
    (known :
      HasSource fragments opening (identifier.take maxNameLength) source) :
    outputAt fragments (opening + 2) =
      outputAt fragments (opening + 1) ++ source := by
  have referring := reference?_of_isIdentifier isMark valid
  have written := outputAt_reference opened
    (by rw [afterHeader_of_reference referring, referring])
  rwa [get?_stateAt_iff.mpr known, Option.getD_some] at written

theorem outputAt_identifier_unknown
    (unknown : ∀ source,
      ¬ HasSource fragments opening (identifier.take maxNameLength) source) :
    outputAt fragments (opening + 2) = outputAt fragments (opening + 1) := by
  have referring := reference?_of_isIdentifier isMark valid
  have written := outputAt_reference opened
    (by rw [afterHeader_of_reference referring, referring])
  have nothing :
      (stateAt fragments opening).named.get? (identifier.take maxNameLength) =
        none := Option.eq_none_iff_forall_ne_some.mpr fun source found =>
      unknown source (get?_stateAt_iff.mp found)
  rwa [nothing, Option.getD_none, List.append_nil] at written

/-- If the identifier starts with no name that has a source of any length,
nothing is taken. -/
theorem takesSource_of_unknown
    (unnamed : ∀ source, ¬ HasSource fragments opening identifier source)
    (empty : ∀ source,
      HasSource fragments opening (identifier.take maxNameLength) source →
        source = []) : TakesSource fragments opening identifier := by
  have written :
      outputAt fragments (opening + 2) = outputAt fragments (opening + 1) := by
    by_cases known : ∃ source,
        HasSource fragments opening (identifier.take maxNameLength) source
    · obtain ⟨source, known⟩ := known
      rw [outputAt_identifier isMark valid opened known, empty source known,
        List.append_nil]
    · exact outputAt_identifier_unknown isMark valid opened fun source
        isKnown =>
        known ⟨source, isKnown⟩
  refine ⟨fun source known => absurd known (unnamed source),
    fun _ name source _ filled same => ?_⟩
  rw [written] at same
  exact filled (List.append_right_eq_self.mp same.symm)

theorem takesSource_iff :
    TakesSource fragments opening identifier ↔
      identifier.length ≤ maxNameLength ∨
        ∀ source,
          HasSource fragments opening (identifier.take maxNameLength) source →
            source = [] := by
  rcases Nat.lt_or_ge maxNameLength identifier.length with long | short
  · have unnamed : ∀ source, ¬ HasSource fragments opening identifier source :=
      fun source known =>
      Nat.not_lt_of_ge (length_le_of_isName (isName_of_hasSource known)) long
    constructor
    · intro takes
      refine .inr fun source known => ?_
      by_contra filled
      exact takes.noOther unnamed _ source known filled
        (outputAt_identifier isMark valid opened known)
    · rintro (short | empty)
      · exact absurd long (Nat.not_lt_of_ge short)
      · exact takesSource_of_unknown isMark valid opened unnamed empty
  · have whole : identifier.take maxNameLength = identifier :=
      List.take_of_length_le short
    refine iff_of_true ⟨fun source known => ?_, fun unnamed => ?_⟩ (.inl short)
    · rw [← whole] at known
      exact outputAt_identifier isMark valid opened known
    · have empty : ∀ source,
          HasSource fragments opening (identifier.take maxNameLength) source →
            source = [] :=
        fun source known => absurd (whole ▸ known) (unnamed source)
      exact (takesSource_of_unknown isMark valid opened unnamed empty).noOther
        unnamed

end Reference

end Tracker

namespace Positional

open Tracker

/-- A group that is a reference by an identifier takes the source of the name
that the identifier starts with, cut at the greatest length of names, and
nothing if there is none.  No group is named by a longer identifier, so a
reference resolves by its whole identifier exactly if that is not too long or
the part that is read as a name has no source, or an empty one. -/
theorem reference_takesSource_iff (pattern : Text) (opening : Nat)
    (mark identifier : Text) (isMark : IsReferenceMark mark)
    (valid : IsIdentifier identifier)
    (opened : openedText? (split pattern) opening = some (mark ++ identifier)) :
    (∀ source,
      HasSource (split pattern) opening (identifier.take maxNameLength) source →
        outputAt (split pattern) (opening + 2) =
          outputAt (split pattern) (opening + 1) ++ source) ∧
      ((∀ source,
        ¬ HasSource (split pattern) opening (identifier.take maxNameLength)
          source) →
        outputAt (split pattern) (opening + 2) =
          outputAt (split pattern) (opening + 1)) ∧
      (maxNameLength < identifier.length →
        ¬ (ofPattern pattern).groups.hasName identifier) ∧
      (TakesSource (split pattern) opening identifier ↔
        identifier.length ≤ maxNameLength ∨
          ∀ source,
            HasSource (split pattern) opening (identifier.take maxNameLength)
                source →
              source = []) := by
  refine ⟨fun source => outputAt_identifier isMark valid opened,
    outputAt_identifier_unknown isMark valid opened, fun long known => ?_,
    takesSource_iff isMark valid opened⟩
  exact Nat.not_lt_of_ge (length_le_of_isName (isName_of_hasName known)) long

def namedAndReferred (name mark identifier : Text) : Text :=
  '(' :: '?' :: '<' :: (name ++ ['>', 'x', ')', '(']) ++ mark ++ identifier ++
    [')']

/-- An identifier of the greatest length, and a longer one that starts with no
name of a group. -/
theorem reference_takesSource_longest :
    TakesSource (split (namedAndReferred (List.replicate 51 'a') [':', '&']
      (List.replicate 51 'a'))) 5 (List.replicate 51 'a') ∧
      TakesSource
        (split (namedAndReferred ['a'] ['?', '&'] (List.replicate 52 'a'))) 5
        (List.replicate 52 'a') := by
  constructor
  · have resolves :=
      reference_takesSource_iff (namedAndReferred (List.replicate 51 'a')
        [':', '&'] (List.replicate 51 'a')) 5 [':', '&'] (List.replicate 51 'a')
        (.inr rfl) (by decide) (by decide)
    exact resolves.2.2.2.mpr (.inl (by decide))
  · have resolves := reference_takesSource_iff
      (namedAndReferred ['a'] ['?', '&'] (List.replicate 52 'a')) 5 ['?', '&']
      (List.replicate 52 'a') (.inl rfl) (by decide) (by decide)
    refine resolves.2.2.2.mpr (.inr fun source known => ?_)
    have unknown :
        (stateAt
          (split (namedAndReferred ['a'] ['?', '&'] (List.replicate 52 'a')))
          5).named.get? (List.replicate 51 'a') = none := by
      decide +kernel
    cases unknown.symm.trans (get?_stateAt_iff.mpr known)

/-- One character more than a name can have, behind the name of a group. -/
theorem not_takesSource_overlong :
    IsIdentifier (List.replicate 52 'a') ∧
      openedText? (split (namedAndReferred (List.replicate 51 'a') ['?', '&']
        (List.replicate 52 'a'))) 5 =
        some (['?', '&'] ++ List.replicate 52 'a') ∧
      (ofPattern (namedAndReferred (List.replicate 51 'a') ['?', '&']
        (List.replicate 52 'a'))).source = ['(', 'x', ')', '(', 'x', ')'] ∧
      ¬ TakesSource (split (namedAndReferred (List.replicate 51 'a') ['?', '&']
        (List.replicate 52 'a'))) 5 (List.replicate 52 'a') := by
  refine ⟨by decide, by decide, by decide +kernel, ?_⟩
  rw [takesSource_iff (.inl rfl) (by decide) (by decide)]
  rintro (short | empty)
  · exact absurd short (by decide)
  · have recorded : ['x'] = [] :=
      empty ['x']
        ⟨(1, 3), by decide +kernel, by decide +kernel, by decide +kernel⟩
    cases recorded

end Positional

end NamedGroups
