import Mathlib.Data.List.Nodup
import NamedGroups.Flags

/-!
# Flags as sets of letters

Flags are the same as the set of letters in their canonical text.  Reading a
flags text takes one letter after the other into the set, which the order does
not matter for, and a letter is taken if there is a flag for it that is not set
yet.  So the texts that are read as given flags are the permutations of the
canonical text.
-/

namespace NamedGroups.Flags

def letters : Text := ['g', 'i', 'm', 's']

/-- Whether a text is a set of letters of flags. -/
def IsLetterSet (text : Text) : Prop :=
  (∀ letter ∈ text, letter ∈ letters) ∧ text.Nodup

/-- The flags whose letters occur in a text. -/
def ofLetters (text : Text) : Flags :=
  ⟨decide ('g' ∈ text), decide ('i' ∈ text), decide ('m' ∈ text),
    decide ('s' ∈ text)⟩

theorem mem_letter_iff {isSet : Bool} {character other : Char} :
    other ∈ letter isSet character ↔ isSet = true ∧ other = character := by
  cases isSet <;> simp [letter]

theorem mem_text_iff {flags : Flags} {character : Char} :
    character ∈ flags.text ↔
      (flags.global = true ∧ character = 'g' ∨
        flags.caseInsensitive = true ∧ character = 'i') ∨
        (flags.multiLine = true ∧ character = 'm' ∨
          flags.dotMatchesNewline = true ∧ character = 's') := by
  simp only [text, List.mem_append, mem_letter_iff, or_assoc]

theorem text_sublist (flags : Flags) : flags.text.Sublist letters := by
  have single (isSet : Bool) (character : Char) :
      (letter isSet character).Sublist [character] := by
    cases isSet <;> simp [letter]
  exact (((single _ 'g').append (single _ 'i')).append (single _ 'm')).append
    (single _ 's')

theorem nodup_text (flags : Flags) : flags.text.Nodup :=
  have distinct : letters.Nodup := by decide
  distinct.sublist flags.text_sublist

theorem isLetterSet_text (flags : Flags) : IsLetterSet flags.text :=
  ⟨fun _ member => flags.text_sublist.subset member, flags.nodup_text⟩

/-- A set of letters is the set of the letters of its flags. -/
theorem perm_text_ofLetters {text : Text} (isSet : IsLetterSet text) :
    text.Perm (ofLetters text).text := by
  rw [List.perm_ext_iff_of_nodup isSet.2 (nodup_text _)]
  intro character
  simp only [mem_text_iff, ofLetters, decide_eq_true_eq]
  constructor
  · intro member
    have known := isSet.1 character member
    simp only [letters, List.mem_cons, List.not_mem_nil, or_false] at known
    rcases known with rfl | rfl | rfl | rfl <;> simp [member]
  · rintro ((⟨member, rfl⟩ | ⟨member, rfl⟩) | ⟨member, rfl⟩ | ⟨member, rfl⟩) <;>
      exact member

/-- Flags with the same letters are the same. -/
theorem text_perm_iff {left right : Flags} :
    left.text.Perm right.text ↔ left = right := by
  constructor
  · intro permuted
    have letterwise (flags : Flags) : ofLetters flags.text = flags := by
      simp [ofLetters, mem_text_iff]
    have same : ofLetters left.text = ofLetters right.text := by
      simp only [ofLetters, permuted.mem_iff]
    rwa [letterwise, letterwise] at same
  · rintro rfl
    exact List.Perm.refl _

private theorem perm_of_add? {flags extended : Flags} {character : Char}
    (added : flags.add? character = some extended) :
    (character :: flags.text).Perm extended.text := by
  have of_members (unset : character ∉ flags.text) (members :
    ∀ other, other ∈ extended.text ↔ other = character ∨ other ∈ flags.text) :
      (character :: flags.text).Perm extended.text := by
    rw [List.perm_ext_iff_of_nodup
      (List.nodup_cons.mpr ⟨unset, flags.nodup_text⟩) extended.nodup_text]
    intro other
    rw [List.mem_cons, members]
  unfold add? at added
  split at added
  case h_5 => cases added
  all_goals
    split at added
    · cases added
    rename_i unset
    cases added
    apply of_members
    · simp [mem_text_iff, unset]
    · intro other
      simp only [mem_text_iff, unset]
      grind

private theorem isSome_add? {flags : Flags} {character : Char}
    (known : character ∈ letters) (unset : character ∉ flags.text) :
    (flags.add? character).isSome = true := by
  simp only [letters, List.mem_cons, List.not_mem_nil, or_false] at known
  rcases known with rfl | rfl | rfl | rfl <;> simp_all [mem_text_iff, add?]

/-- Reading puts the letters of a text to those that are set already. -/
theorem addAll?_eq_some_iff {flags extended : Flags} {text : Text} :
    flags.addAll? text = some extended ↔
      (text ++ flags.text).Perm extended.text := by
  induction text generalizing flags with
  | nil => simp [addAll?, text_perm_iff]
  | cons character text induction =>
      rw [addAll?]
      cases added : flags.add? character with
      | some next =>
          have taken :
              (text ++ next.text).Perm (character :: text ++ flags.text) :=
            ((perm_of_add? added).symm.append_left text).trans List.perm_middle
          rw [induction]
          exact ⟨taken.symm.trans, taken.trans⟩
      | none =>
          refine iff_of_false (by simp) ?_
          intro permuted
          have distinct := (permuted.nodup_iff).mpr extended.nodup_text
          have known : character ∈ letters :=
            extended.text_sublist.subset (permuted.subset (by simp))
          have unset : character ∉ flags.text := by
            intro member
            exact (List.nodup_cons.mp distinct).1
              (List.mem_append_right text member)
          have taken := isSome_add? known unset
          rw [added] at taken
          cases taken

/-- The texts that are read as given flags are the permutations of their
canonical text. -/
theorem parse?_eq_some_iff {text : Text} {flags : Flags} :
    parse? text = some flags ↔ text.Perm flags.text := by
  have nothing : empty.text = [] := rfl
  rw [parse?, addAll?_eq_some_iff, nothing, List.append_nil]

theorem isSome_parse?_iff (text : Text) :
    (parse? text).isSome = true ↔ IsLetterSet text := by
  rw [Option.isSome_iff_exists]
  constructor
  · rintro ⟨flags, parsed⟩
    have permuted := parse?_eq_some_iff.mp parsed
    obtain ⟨known, distinct⟩ := flags.isLetterSet_text
    exact ⟨fun letter member => known letter (permuted.subset member),
      permuted.nodup_iff.mpr distinct⟩
  · intro isSet
    exact ⟨ofLetters text, parse?_eq_some_iff.mpr (perm_text_ofLetters isSet)⟩

instance (text : Text) : Decidable (IsLetterSet text) :=
  decidable_of_iff _ (isSome_parse?_iff text)

/-- Flags that agree on the letters besides `g` differ in no more than the flag
`g`. -/
theorem eq_of_same_letters {left right : Flags}
    (same :
      ∀ letter, letter ≠ 'g' → (letter ∈ left.text ↔ letter ∈ right.text)) :
    right = { left with global := right.global } := by
  have onI := same 'i' (by decide)
  have onM := same 'm' (by decide)
  have onS := same 's' (by decide)
  simp only [mem_text_iff, Char.reduceEq, and_true, and_false, false_or,
    or_false, Bool.coe_iff_coe] at onI onM onS
  simp only [onI, onM, onS]

end NamedGroups.Flags
