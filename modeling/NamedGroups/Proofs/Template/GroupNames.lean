import NamedGroups.Proofs.Template.Placeholders
import NamedGroups.Proofs.Tracker.Recording

/-!
# Names in headers and in placeholders

A header reads as many characters as a name may have and then asks for a closing
angle bracket; a placeholder takes all that stands in front of the first closing
brace and then asks whether it is a name.  Both accept the same names: up to 51
bytes of ASCII letters, digits, low lines and dollar signs, with no digit in
front.  So a template can refer to each group that a pattern can name.
-/

namespace NamedGroups

namespace GroupSyntax

def IsNameLetter (character : Char) : Prop :=
  ('A' ≤ character ∧ character ≤ 'Z') ∨ ('a' ≤ character ∧ character ≤ 'z') ∨
    character = '_' ∨ character = '$'

def IsNameDigit (character : Char) : Prop := '0' ≤ character ∧ character ≤ '9'

/-- A name as it is spelled: its size in bytes, its first character and the
others. -/
structure SpellsName (name : Text) : Prop where
  bytes : 1 ≤ name.byteSize ∧ name.byteSize ≤ 51
  first : ∀ character ∈ name.head?, IsNameLetter character
  others :
    ∀ character ∈ name.tail, IsNameLetter character ∨ IsNameDigit character

private theorem isAlpha_iff (character : Char) :
    character.isAlpha ↔
      ('A' ≤ character ∧ character ≤ 'Z') ∨
        ('a' ≤ character ∧ character ≤ 'z') := by
  have upper : character.isUpper ↔ 'A' ≤ character ∧ character ≤ 'Z' :=
    decide_eq_true_iff
  have lower : character.isLower ↔ 'a' ≤ character ∧ character ≤ 'z' :=
    Bool.and_eq_true_iff.trans (and_congr decide_eq_true_iff decide_eq_true_iff)
  exact Bool.or_eq_true_iff.trans (or_congr upper lower)

theorem isNameStart_iff (character : Char) :
    isNameStart character ↔ IsNameLetter character := by
  simp only [isNameStart, IsNameLetter, Bool.or_eq_true, beq_iff_eq,
    isAlpha_iff, or_assoc]

theorem isNameContinue_iff (character : Char) :
    isNameContinue character ↔
      IsNameLetter character ∨ IsNameDigit character := by
  have digit : character.isDigit ↔ IsNameDigit character :=
    Bool.and_eq_true_iff.trans (and_congr decide_eq_true_iff decide_eq_true_iff)
  rw [isNameContinue, Bool.or_eq_true, isNameStart_iff, digit]

private theorem utf8Size_of_isNameContinue {character : Char}
    (named : isNameContinue character) : character.utf8Size = 1 := by
  rw [Char.utf8Size_eq_one_iff]
  have below :
      ∀ last : Char, last ≤ '\x7f' → character ≤ last → character.val ≤ 127 :=
    fun last ascii bound => Char.le_trans bound ascii
  rcases (isNameContinue_iff character).mp named with letter | digit
  · rcases letter with upper | lower | rfl | rfl
    · exact below 'Z' (by decide) upper.2
    · exact below 'z' (by decide) lower.2
    · decide
    · decide
  · exact below '9' (by decide) digit.2

private theorem byteSize_of_isNameContinue {text : Text}
    (named : ∀ character ∈ text, isNameContinue character) :
    text.byteSize = text.length := by
  induction text with
  | nil => rfl
  | cons character rest induction =>
      have single := utf8Size_of_isNameContinue (named character (by simp))
      have further :=
        induction fun other member => named other (by simp [member])
      rw [Text.byteSize_cons, List.length_cons, single, further, Nat.add_comm]

theorem isName_iff_spellsName (name : Text) :
    IsName name ↔ SpellsName name := by
  cases name with
  | nil =>
      refine iff_of_false (fun valid => valid) fun spelled => ?_
      exact absurd spelled.bytes.1 (by decide)
  | cons first rest =>
      have size :
          isNameStart first → (∀ character ∈ rest, isNameContinue character) →
            Text.byteSize (first :: rest) = rest.length + 1 := by
        intro starts continues
        apply byteSize_of_isNameContinue
        rintro character (_ | ⟨_, member⟩)
        · simp [isNameContinue, starts]
        · exact continues character member
      constructor
      · rintro ⟨starts, continues, short⟩
        have named := List.all_eq_true.mp continues
        refine ⟨?_, ?_,
          fun character member =>
            (isNameContinue_iff _).mp (named character member)⟩
        · have bound : rest.length < 51 := short
          rw [size starts named]
          omega
        · rintro character ⟨⟩
          exact (isNameStart_iff first).mp starts
      · rintro ⟨bytes, letter, others⟩
        have starts := (isNameStart_iff first).mpr (letter first rfl)
        have named : ∀ character ∈ rest, isNameContinue character :=
          fun character member =>
            (isNameContinue_iff _).mpr (others character member)
        rw [size starts named] at bytes
        exact ⟨starts, List.all_eq_true.mpr named, bytes.2⟩

/-- A header holds a name in front of its closing angle bracket. -/
theorem header?_eq_some_iff {mark : Text} (isMark : IsHeaderMark mark)
    (name behind : Text) :
    header? (mark ++ (name ++ '>' :: behind)) = some (name, behind) ↔
      IsName name :=
  ⟨isName_of_header, fun valid => header?_of_isName isMark valid behind⟩

end GroupSyntax

open GroupSyntax Fragment

namespace Positional

private theorem hasName_ofPattern_of_isName {name : Text}
    (valid : IsName name) :
    (ofPattern ('(' ::
      ('?' :: '<' :: (name ++ ['>', 'x']) ++ [')']))).groups.hasName name := by
  have found :
      header? ('?' :: '<' :: (name ++ ['>', 'x'])) = some (name, ['x']) :=
    header?_of_isName (.inl rfl) valid ['x']
  obtain ⟨header, whole, unmarked⟩ := unmarked_header found
  have solid : isSolid ('?' :: '<' :: (name ++ ['>', 'x'])) := by
    rw [whole, isSolid_append_of_unmarked unmarked]
    rfl
  have complete : Text.isComplete ('?' :: '<' :: (name ++ ['>', 'x'])) := by
    rw [whole, isComplete_append_of_unmarked unmarked]
    rfl
  rw [hasName_ofPattern_iff, split_opening, split_append_closing complete,
    split_of_isSolid solid]
  exact ⟨1, headerAt?_eq_some_iff.mpr ⟨_, rfl, by rw [headerName?, found]; rfl⟩⟩

/-- The names of groups are the texts that may be names. -/
theorem exists_hasName_iff (name : Text) :
    (∃ pattern, (ofPattern pattern).groups.hasName name) ↔ IsName name :=
  ⟨fun ⟨_, known⟩ => isName_of_hasName known,
    fun valid => ⟨_, hasName_ofPattern_of_isName valid⟩⟩

end Positional

namespace Template

/-- A header and a placeholder accept the same names, those that are spelled as
a name, and each of them is the name of a group in some pattern.  So in a
template every group that has a name can be referred to by it: the placeholder
is replaced by the token for the slot of the group. -/
theorem header_iff_placeholder (name behind others : Text) :
    (header? ('?' :: '<' :: (name ++ '>' :: behind)) = some (name, behind) ↔
      placeholderName? (name ++ '\x7d' :: others) = some name) ∧
      (placeholderName? (name ++ '\x7d' :: others) = some name ↔
        SpellsName name) ∧
      ((∃ pattern, (Positional.ofPattern pattern).groups.hasName name) ↔
        SpellsName name) ∧
      ∀ pattern slot,
        (Positional.ofPattern pattern).groups.named? name = some slot →
          resolve (Positional.ofPattern pattern).groups
              (placeholder name ++ others) =
            slotToken slot ++
              resolve (Positional.ofPattern pattern).groups others := by
  have header :
      header? ('?' :: '<' :: (name ++ '>' :: behind)) = some (name, behind) ↔
        IsName name := header?_eq_some_iff (.inl rfl) name behind
  have placeholder_iff :
      placeholderName? (name ++ '\x7d' :: others) = some name ↔
        IsName name := by
    rw [placeholderName?_eq_some_iff]
    exact and_iff_left ⟨others, rfl⟩
  rw [header, placeholder_iff, Positional.exists_hasName_iff,
    isName_iff_spellsName]
  refine ⟨Iff.rfl, Iff.rfl, Iff.rfl, fun pattern slot known => ?_⟩
  have valid : IsName name :=
    Positional.isName_of_hasName (Option.isSome_of_eq_some known)
  have token :
      resolved (Positional.ofPattern pattern).groups name = slotToken slot := by
    rw [resolved, known]
  have replaced :=
    resolve_placeholder (Positional.ofPattern pattern).groups valid others
  rw [token] at replaced
  simpa [placeholder] using replaced

/-- The longest name, of a group with another one in front of it. -/
theorem header_iff_placeholder_longest :
    ∃ name pattern, name = '$' :: List.replicate 50 '9' ∧
      pattern = ['(', 'a', ')', '(', '?', 'P', '<'] ++ name ++ ['>', 'x', ')'] ∧
      (Positional.ofPattern pattern).groups.named? name = some 2 ∧
      resolve (Positional.ofPattern pattern).groups
          (placeholder name ++ ['\x7d', '$']) =
        slotToken 2 ++
          resolve (Positional.ofPattern pattern).groups ['\x7d', '$'] := by
  have known : (Positional.ofPattern (['(', 'a', ')', '(', '?', 'P', '<'] ++
      ('$' :: List.replicate 50 '9') ++ ['>', 'x', ')'])).groups.named?
        ('$' :: List.replicate 50 '9') = some 2 := by
    decide +kernel
  exact ⟨_, _, rfl, rfl, known,
    (header_iff_placeholder ('$' :: List.replicate 50 '9') []
      ['\x7d', '$']).2.2.2 _ 2 known⟩

/-- One byte more is too long for either, and a letter beyond ASCII is in no
name. -/
example :
    header? ('?' :: '<' :: (List.replicate 52 'a' ++ ['>'])) = none ∧
      placeholderName? (List.replicate 52 'a' ++ ['\x7d']) = none ∧
      header? ['?', '<', 'é', '>'] = none ∧
      placeholderName? ['é', '\x7d'] = none := by
  decide

end Template

end NamedGroups
