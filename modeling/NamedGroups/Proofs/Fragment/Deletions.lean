import Mathlib.Data.List.Basic
import NamedGroups.Proofs.Fragment.EmptyGroups
import NamedGroups.Proofs.Text.Escapes

/-!
# One pass over the empty groups

Two scanners read the escapes of a pattern, each on its own: the one that cuts
it at its parentheses and the one that deletes every `()`.  They agree.  What is
deleted can be told from the fragments, where the texts around an empty group
come together, and from the places of the characters: a `()` goes where both of
its parentheses are bare, and whatever else there is stays, and stays as escaped
as it was.
-/

namespace NamedGroups

namespace Text

/-- The characters of a text, each with whether it is escaped. -/
def withEscapes (text : Text) : List (Char × Bool) :=
  text.mapIdx fun position character =>
    (character, decide (backslashesAtEnd (text.take position) % 2 = 1))

/-- Whether a `()` starts at a position, with both parentheses bare. -/
def StartsEmptyGroup (text : Text) (position : Nat) : Prop :=
  text.IsBareAt '(' position ∧ text.IsBareAt ')' (position + 1)

instance (text : Text) (position : Nat) :
    Decidable (text.StartsEmptyGroup position) :=
  inferInstanceAs (Decidable (_ ∧ _))

/-- Whether one of the parentheses of such a `()` stands at a position. -/
def InEmptyGroup (text : Text) (position : Nat) : Prop :=
  ∃ start,
    text.StartsEmptyGroup start ∧ (position = start ∨ position = start + 1)

instance (text : Text) (position : Nat) :
    Decidable (text.InEmptyGroup position) :=
  decidable_of_iff
    (∃ start, start < position + 1 ∧ text.StartsEmptyGroup start ∧
      (position = start ∨ position = start + 1))
    ⟨fun ⟨start, _, inside⟩ => ⟨start, inside⟩,
      fun ⟨start, inside⟩ => ⟨start, by omega, inside⟩⟩

/-- The positions outside of every `()`, in order. -/
def keptPositions (text : Text) : List Nat :=
  (List.range text.length).filter fun position => ¬ text.InEmptyGroup position

/-- The characters at these positions, each with whether it is escaped in the
whole text. -/
def keptCharacters (text : Text) : List (Char × Bool) :=
  text.keptPositions.filterMap (text.withEscapes[·]?)

theorem length_withEscapes (text : Text) :
    text.withEscapes.length = text.length := by
  simp [withEscapes]

theorem getElem?_withEscapes {text : Text} {position : Nat} {character : Char} :
    text.withEscapes[position]? = some (character, false) ↔
      text.IsBareAt character position := by
  simp [withEscapes, IsBareAt]

theorem InEmptyGroup.exists_isBareAt {text : Text} {position : Nat}
    (inside : text.InEmptyGroup position) :
    ∃ character, text.IsBareAt character position := by
  obtain ⟨start, ⟨opening, closing⟩, rfl | rfl⟩ := inside
  · exact ⟨_, opening⟩
  · exact ⟨_, closing⟩

section Append

variable {front back : Text} (complete : front.isComplete)
include complete

/-- A text that ends outside of an escape leaves the escapes behind it as they
are. -/
theorem withEscapes_append :
    (front ++ back).withEscapes = front.withEscapes ++ back.withEscapes := by
  have parity : ∀ position,
      backslashesAtEnd ((front ++ back).take (front.length + position)) % 2 =
          1 ↔
        backslashesAtEnd (back.take position) % 2 = 1 := by
    intro position
    have same := isComplete_append complete (back.take position)
    rw [List.take_length_add_append, ← not_iff_not, Nat.mod_two_not_eq_one,
      Nat.mod_two_not_eq_one, ← isComplete_iff, ← isComplete_iff, same]
  rw [withEscapes, List.mapIdx_append]
  refine congrArg₂ (· ++ ·)
    (List.mapIdx_eq_mapIdx_iff.mpr fun position inside => ?_)
    (List.mapIdx_eq_mapIdx_iff.mpr fun position inside => ?_)
  · rw [List.take_append_of_le_length (Nat.le_of_lt inside)]
  · simp only [Nat.add_comm position, parity]

variable
    (apart : back.head? = some ')' → ¬ front.IsBareAt '(' (front.length - 1))
include apart

private theorem startsEmptyGroup_append (position : Nat) :
    (front ++ back).StartsEmptyGroup position ↔
      front.StartsEmptyGroup position ∨
        ∃ offset,
          position = front.length + offset ∧ back.StartsEmptyGroup offset := by
  constructor
  · rintro ⟨opening, closing⟩
    obtain inFront | ⟨offset, rfl, inBack⟩ :=
      (isBareAt_append complete ..).mp opening
    · obtain closes | ⟨offset, same, closes⟩ :=
        (isBareAt_append complete ..).mp closing
      · exact .inl ⟨inFront, closes⟩
      · have inside := inFront.lt_length
        obtain rfl : offset = 0 := by omega
        obtain rfl : position = front.length - 1 := by omega
        exact absurd inFront (apart (by rw [List.head?_eq_getElem?, closes.1]))
    · rw [Nat.add_assoc, isBareAt_append_right complete] at closing
      exact .inr ⟨offset, rfl, inBack, closing⟩
  · rintro (⟨opening, closing⟩ | ⟨offset, rfl, opening, closing⟩)
    · exact ⟨(isBareAt_append complete ..).mpr (.inl opening),
        (isBareAt_append complete ..).mpr (.inl closing)⟩
    · exact ⟨(isBareAt_append_right complete ..).mpr opening,
        (isBareAt_append_right complete ..).mpr closing⟩

private theorem inEmptyGroup_append (position : Nat) :
    (front ++ back).InEmptyGroup position ↔
      front.InEmptyGroup position ∨
        ∃ offset,
          position = front.length + offset ∧ back.InEmptyGroup offset := by
  simp only [InEmptyGroup, startsEmptyGroup_append complete apart]
  constructor
  · rintro ⟨start, inFront | ⟨offset, rfl, inBack⟩, rfl | rfl⟩
    · exact .inl ⟨_, inFront, .inl rfl⟩
    · exact .inl ⟨_, inFront, .inr rfl⟩
    · exact .inr ⟨offset, rfl, offset, inBack, .inl rfl⟩
    · exact .inr ⟨offset + 1, rfl, offset, inBack, .inr rfl⟩
  · rintro (⟨start, inFront, place⟩ | ⟨_, rfl, start, inBack, rfl | rfl⟩)
    · exact ⟨start, .inl inFront, place⟩
    · exact ⟨_, .inr ⟨_, rfl, inBack⟩, .inl rfl⟩
    · exact ⟨_, .inr ⟨_, rfl, inBack⟩, .inr rfl⟩

private theorem keptPositions_append :
    (front ++ back).keptPositions =
      front.keptPositions ++ back.keptPositions.map (front.length + ·) := by
  have inFront : ∀ position, position < front.length →
      ((front ++ back).InEmptyGroup position ↔
        front.InEmptyGroup position) := by
    intro position bound
    rw [inEmptyGroup_append complete apart, or_iff_left]
    rintro ⟨offset, rfl, -⟩
    omega
  have inBack : ∀ offset, (front ++ back).InEmptyGroup (front.length + offset) ↔
      back.InEmptyGroup offset := by
    intro offset
    rw [inEmptyGroup_append complete apart, or_iff_right]
    · constructor
      · rintro ⟨other, same, inside⟩
        rwa [Nat.add_left_cancel same]
      · intro inside
        exact ⟨offset, rfl, inside⟩
    · intro inside
      obtain ⟨character, bare⟩ := inside.exists_isBareAt
      have bound := bare.lt_length
      omega
  rw [keptPositions, List.length_append, List.range_add, List.filter_append,
    List.filter_map, keptPositions, keptPositions]
  refine congrArg₂ (· ++ ·) (List.filter_congr fun position member => ?_) ?_
  · simp only [inFront position (List.mem_range.mp member)]
  · simp only [Function.comp_def, inBack]

theorem keptCharacters_append :
    (front ++ back).keptCharacters =
      front.keptCharacters ++ back.keptCharacters := by
  rw [keptCharacters, keptPositions_append complete apart,
    withEscapes_append complete, List.filterMap_append, List.filterMap_map,
    keptCharacters, keptCharacters]
  refine congrArg₂ (· ++ ·) (List.filterMap_congr fun position member => ?_)
    (List.filterMap_congr fun offset _ => ?_)
  · have inside : position < front.length :=
      List.mem_range.mp (List.mem_of_mem_filter member)
    rw [List.getElem?_append_left (by rwa [length_withEscapes])]
  · rw [Function.comp_apply, ← length_withEscapes,
      List.getElem?_append_right (Nat.le_add_right _ _),
      Nat.add_sub_cancel_left]

/-- What is left of the text behind a front that is kept as a whole comes behind
that front. -/
theorem withEscapes_append_eq_keptCharacters {left : Text}
    (kept : front.withEscapes = front.keptCharacters)
    (same : left.withEscapes = back.keptCharacters) :
    (front ++ left).withEscapes = (front ++ back).keptCharacters := by
  rw [withEscapes_append complete, keptCharacters_append complete apart, kept,
    same]

end Append

theorem filterMap_range_withEscapes (text : Text) :
    (List.range text.length).filterMap (text.withEscapes[·]?) =
      text.withEscapes := by
  rw [← length_withEscapes]
  generalize text.withEscapes = characters
  induction characters with
  | nil => rfl
  | cons character characters induction =>
      rw [List.length_cons, List.range_succ_eq_map, List.filterMap_cons,
        List.filterMap_map]
      exact congrArg (character :: ·) induction

private theorem withEscapes_eq_keptCharacters {text : Text}
    (filled : ∀ position, ¬ text.StartsEmptyGroup position) :
    text.withEscapes = text.keptCharacters := by
  have all : text.keptPositions = List.range text.length := by
    refine List.filter_eq_self.mpr fun position _ => decide_eq_true ?_
    rintro ⟨start, starts, -⟩
    exact filled start starts
  rw [keptCharacters, all, filterMap_range_withEscapes]

/-- No escaped character is lost with a `()`, since the characters in one are
bare. -/
theorem filter_escaped_keptCharacters (text : Text) :
    text.keptCharacters.filter (·.2) = text.withEscapes.filter (·.2) := by
  have all := congrArg (List.filter (·.2)) text.filterMap_range_withEscapes
  rw [← all, keptCharacters, keptPositions, List.filterMap_filter,
    List.filter_filterMap, List.filter_filterMap]
  refine List.filterMap_congr fun position _ => ?_
  split
  · rfl
  · rename_i deleted
    have inside : text.InEmptyGroup position := by simpa using deleted
    obtain ⟨character, bare⟩ := inside.exists_isBareAt
    rw [getElem?_withEscapes.mpr bare]
    rfl

/-- What is left of a text by deleting every `()`: the characters outside of
these groups, each escaped exactly if it was so before. -/
theorem withEscapes_removeEmptyGroups (text : Text) :
    (removeEmptyGroups text).withEscapes = text.keptCharacters := by
  fun_induction removeEmptyGroups text with
  | case1 => rfl
  | case2 character rest induction =>
      have complete : isComplete ['\\', character] := by simp
      have noParenthesis :
          ∀ position, ¬ IsBareAt ['\\', character] '(' position :=
        fun position bare =>
          not_hasBare_escape (by decide) character ⟨position, bare⟩
      have kept :
          withEscapes ['\\', character] = keptCharacters ['\\', character] :=
        withEscapes_eq_keptCharacters fun position starts =>
          noParenthesis position starts.1
      exact withEscapes_append_eq_keptCharacters complete
        (fun _ => noParenthesis _) kept induction
  | case3 rest induction =>
      have nothing : keptCharacters ['(', ')'] = [] := by decide
      have behind :
          keptCharacters (['(', ')'] ++ rest) = keptCharacters rest := by
        rw [keptCharacters_append (by decide) fun _ => by decide, nothing,
          List.nil_append]
      exact induction.trans behind.symm
  | case4 character rest notEscape notEmpty induction =>
      by_cases backslash : character = '\\'
      · subst backslash
        cases rest with
        | nil => rfl
        | cons next rest => exact absurd rfl (notEscape next rest rfl)
      have complete : isComplete [character] := by
        simp [isComplete_bare backslash]
      have apart : rest.head? = some ')' → ¬ IsBareAt [character] '(' 0 := by
        intro closes opens
        obtain ⟨tail, rfl⟩ := List.head?_eq_some_iff.mp closes
        obtain ⟨-, rfl⟩ := isBareAt_singleton.mp opens
        exact notEmpty tail rfl rfl
      have kept : withEscapes [character] = keptCharacters [character] := by
        refine withEscapes_eq_keptCharacters fun position starts => ?_
        have bound := starts.2.lt_length
        simp at bound
      exact withEscapes_append_eq_keptCharacters complete apart kept induction

end Text

namespace Fragment

/-- The fragments without every opening parenthesis, empty text and closing
parenthesis in a row. -/
def deleteEmptyGroups : List Fragment → List Fragment
  | .opening :: .plain [] :: .closing :: fragments =>
      deleteEmptyGroups fragments
  | fragment :: fragments => fragment :: deleteEmptyGroups fragments
  | [] => []

def joinTexts : List Fragment → List Fragment
  | .plain text :: fragments => extend text (joinTexts fragments)
  | fragment :: fragments => fragment :: joinTexts fragments
  | [] => []

@[simp] theorem deleteEmptyGroups_plain (text : Text)
    (fragments : List Fragment) :
    deleteEmptyGroups (.plain text :: fragments) =
      .plain text :: deleteEmptyGroups fragments := by
  simp [deleteEmptyGroups]

@[simp] theorem deleteEmptyGroups_closing (fragments : List Fragment) :
    deleteEmptyGroups (.closing :: fragments) =
      .closing :: deleteEmptyGroups fragments := by
  simp [deleteEmptyGroups]

@[simp] theorem deleteEmptyGroups_empty (fragments : List Fragment) :
    deleteEmptyGroups (.opening :: .plain [] :: .closing :: fragments) =
      deleteEmptyGroups fragments := rfl

theorem deleteEmptyGroups_opening {fragments : List Fragment}
    (other : ¬ [.plain [], .closing] <+: fragments) :
    deleteEmptyGroups (.opening :: fragments) =
      .opening :: deleteEmptyGroups fragments := by
  rw [deleteEmptyGroups]
  rintro others - rfl
  exact other ⟨others, rfl⟩

namespace Cut

variable {fragments : List Fragment}

private theorem joinTexts_deleteEmptyGroups (cut : Cut fragments) :
    joinTexts (deleteEmptyGroups fragments) =
      Fragment.dropEmptyGroups fragments := by
  induction cut using groupInduction with
  | last text solid => rfl
  | empty text fragments solid complete cut induction =>
      exact congrArg (Fragment.extend text) induction
  | opening text fragments solid complete cut other induction =>
      rw [dropEmptyGroups_opening other, ← induction, deleteEmptyGroups_plain,
        deleteEmptyGroups_opening other]
      rfl
  | closing text fragments solid complete cut induction =>
      exact congrArg (fun others => .plain text :: .closing :: others) induction

/-- A group does not become empty in front of a deleted one: that leaves its
text behind. -/
theorem prefix_of_prefix_deleteEmptyGroups (cut : Cut fragments)
    (closes : [.plain [], .closing] <+: deleteEmptyGroups fragments) :
    [.plain [], .closing] <+: fragments := by
  induction cut using groupInduction with
  | last text solid => exact closes
  | empty text fragments solid complete cut _ =>
      obtain ⟨first, others, rfl⟩ := cut.starts_with_text
      simp at closes
  | opening text fragments solid complete cut other _ =>
      simp [deleteEmptyGroups_opening other] at closes
  | closing text fragments solid complete cut _ => simpa using closes

/-- None is left, as long as the texts are not joined. -/
theorem not_hasEmptyGroup_deleteEmptyGroups (cut : Cut fragments) :
    ¬ HasEmptyGroup (deleteEmptyGroups fragments) := by
  induction cut using groupInduction with
  | last text solid => exact hasEmptyGroup_behind_last false text
  | empty text fragments solid complete cut induction => simpa using induction
  | opening text fragments solid complete cut other induction =>
      rw [deleteEmptyGroups_plain, deleteEmptyGroups_opening other,
        hasEmptyGroup_plain, hasEmptyGroup_opening, not_or]
      exact ⟨fun closes =>
        other (cut.prefix_of_prefix_deleteEmptyGroups closes), induction⟩
  | closing text fragments solid complete cut induction => simpa using induction

end Cut

/-- Deleting every `()` of a text and cutting it agree on the escapes.  Of the
fragments, every opening parenthesis, empty text and closing parenthesis in a
row are deleted, so that none are left, and then the texts that stand side by
side are joined; without such fragments, and only then, the text stays as it is.
Of the characters, those of each `()` with bare parentheses are deleted and the
others stay, escaped exactly if they were so before; the escaped ones all
stay. -/
theorem removeEmptyGroups_agrees_with_split (text : Text) :
    split (removeEmptyGroups text) =
        joinTexts (deleteEmptyGroups (split text)) ∧
      ¬ HasEmptyGroup (deleteEmptyGroups (split text)) ∧
      (removeEmptyGroups text = text ↔ ¬ HasEmptyGroup (split text)) ∧
      (removeEmptyGroups text).withEscapes =
        text.keptPositions.filterMap (text.withEscapes[·]?) ∧
      (removeEmptyGroups text).withEscapes.filter (·.2) =
        text.withEscapes.filter (·.2) := by
  have cut := Cut.of_split text
  refine ⟨?_, cut.not_hasEmptyGroup_deleteEmptyGroups,
    removeEmptyGroups_eq_self_iff text, text.withEscapes_removeEmptyGroups, ?_⟩
  · rw [split_removeEmptyGroups, cut.joinTexts_deleteEmptyGroups]
  · rw [text.withEscapes_removeEmptyGroups, text.filter_escaped_keptCharacters]

/-- What comes together by a deletion stays, and an escaped parenthesis makes no
`()`. -/
example :
    split (removeEmptyGroups ['(', '(', ')', ')', '\\', '(', ')', '(', ')',
      '\\']) =
      [.plain [], .opening, .plain [], .closing, .plain ['\\', '('], .closing,
        .plain ['\\']] := by
  decide

end Fragment

end NamedGroups
