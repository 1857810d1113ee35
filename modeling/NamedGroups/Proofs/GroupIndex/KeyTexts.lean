import Mathlib.Data.List.Nodup
import NamedGroups.GroupIndex.Json
import NamedGroups.Proofs.GroupSyntax

/-!
# The texts of keys

A key is displayed as its bare name or as its ordinal in decimal, without a mark
that tells the one from the other.  A name may be any text, and then it may read
like an ordinal; but a valid name starts with no digit, so in an index of valid
names the texts of the keys are as good as the keys.
-/

namespace NamedGroups

open GroupSyntax

namespace GroupSyntax

private theorem not_isDigit_of_isNameStart {character : Char}
    (starts : isNameStart character) : ¬ character.isDigit := by
  simp only [isNameStart, Bool.or_eq_true, beq_iff_eq] at starts
  rcases starts with (letter | rfl) | rfl
  · intro digit
    have below : character.val ≤ 57 :=
      of_decide_eq_true (Bool.and_eq_true_iff.mp digit).2
    rcases Bool.or_eq_true_iff.mp letter with upper | lower
    · have above : 65 ≤ character.val := (of_decide_eq_true upper).1
      exact absurd (UInt32.le_trans above below) (by decide)
    · have above : 97 ≤ character.val :=
        of_decide_eq_true (Bool.and_eq_true_iff.mp lower).1
      exact absurd (UInt32.le_trans above below) (by decide)
  · decide
  · decide

end GroupSyntax

namespace GroupKey

theorem ne_decimal_of_isName {name : Text} (valid : IsName name)
    (number : Nat) : name ≠ Text.decimal number := by
  rintro rfl
  have numeric := Text.all_isDigit_decimal number
  cases digits : Text.decimal number with
  | nil => exact Text.decimal_ne_nil number digits
  | cons first rest =>
      rw [digits] at valid numeric
      exact not_isDigit_of_isNameStart valid.1
        (List.all_eq_true.mp numeric first (by simp))

/-- Whether the name in a key is valid, if there is one. -/
def IsValid : GroupKey → Prop
  | .name text => IsName text
  | .ordinal _ => True

private theorem text_injective {left right : GroupKey}
    (leftValid : left.IsValid) (rightValid : right.IsValid)
    (same : left.text = right.text) : left = right := by
  cases left with
  | name _ =>
      cases right with
      | name _ => exact congrArg GroupKey.name same
      | ordinal number =>
          exact absurd same (ne_decimal_of_isName leftValid number)
  | ordinal number =>
      cases right with
      | name _ =>
          exact absurd same.symm (ne_decimal_of_isName rightValid number)
      | ordinal _ =>
          exact congrArg GroupKey.ordinal (Text.decimal_injective same)

end GroupKey

namespace GroupIndex

/-- Where all names are valid, the texts of the keys are pairwise different. -/
theorem nodup_keyTexts {index : GroupIndex}
    (valid : ∀ key ∈ index.keys, key.IsValid) :
    (index.keys.map GroupKey.text).Nodup := by
  refine List.Nodup.map_on (fun left leftMember right rightMember same => ?_)
    index.distinct
  exact GroupKey.text_injective (valid left leftMember)
    (valid right rightMember) same

/-- The key type alone does not keep them apart. -/
example :
    ((OrderedMap.ofList [(GroupKey.name ['0'], 1), (.ordinal 0, 2)]).keys.map
      GroupKey.text) = [['0'], ['0']] := by
  decide

end GroupIndex

end NamedGroups
