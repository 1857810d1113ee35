import Mathlib.Logic.Equiv.Basic
import NamedGroups.Proofs.Tracker.Following

/-!
# Patterns with other names

The pass reads a name to tell whether it has seen it before, and for nothing
else.  A header may be opened in three ways and a reference in two, and the pass
does the same for all of them.  So a pattern under other names, written in any
of the spellings, has the same source, and its index and its recorded sources
differ in the names only.
-/

namespace NamedGroups

open Fragment GroupSyntax

namespace GroupSyntax

/-- A text with its header or its reference under another name, in one of the
spellings. -/
inductive Spelled (rename : Text → Text) : Text → Text → Prop where
  | header {text name rest mark : Text} :
      header? text = some (name, rest) → IsHeaderMark mark →
        Spelled rename text (mark ++ (rename name ++ '>' :: rest))
  | reference {text name mark : Text} :
      reference? text = some name → IsReferenceMark mark →
        Spelled rename text
          (mark ++ (rename name ++ text.drop (2 + name.length)))
  | plain {text : Text} : header? text = none → reference? text = none →
      Spelled rename text text

/-- Whether a reference is all that a text says, and does not stand behind a
header. -/
structure SpellsOneName (text : Text) : Prop where
  exact : ∀ name ∈ reference? text, text.drop 2 = name
  apart : ∀ header ∈ header? text, reference? header.2 = none

instance (text : Text) : Decidable (SpellsOneName text) :=
  decidable_of_iff ((∀ name ∈ reference? text, text.drop 2 = name) ∧
      ∀ header ∈ header? text, reference? header.2 = none)
    ⟨fun ⟨exact, apart⟩ => ⟨exact, apart⟩, fun ⟨exact, apart⟩ => ⟨exact, apart⟩⟩

theorem SpellsOneName.drop_eq_nil {text name : Text}
    (single : SpellsOneName text) (found : reference? text = some name) :
    text.drop (2 + name.length) = [] := by
  rw [← List.drop_drop, single.exact name found, List.drop_length]

end GroupSyntax

section Spelling

variable {rename : Text → Text} {text other : Text}
  (valid : ∀ name, IsName name → IsName (rename name))
include valid

/-- Texts under different names differ at their start, in characters that mean
nothing to the cutting of a pattern. -/
theorem Fragment.unmarked_spelled (spelled : Spelled rename text other) :
    ∃ front otherFront rest, text = front ++ rest ∧ other = otherFront ++ rest ∧
      (∀ character ∈ front, Unmarked character) ∧
      ∀ character ∈ otherFront, Unmarked character := by
  cases spelled with
  | @header name rest _ found isMark =>
      obtain ⟨front, whole, unmarked⟩ := unmarked_header found
      obtain ⟨otherFront, otherWhole, otherUnmarked⟩ := unmarked_header
        (header?_of_isName isMark (valid name (isName_of_header found)) rest)
      exact ⟨front, otherFront, rest, whole, otherWhole, unmarked,
        otherUnmarked⟩
  | @reference name mark found isMark =>
      have named := isName_of_reference found
      obtain ⟨formerMark, isFormerMark, whole⟩ := reference?_eq_some found
      exact ⟨formerMark ++ name, mark ++ rename name,
        text.drop (2 + name.length), by rw [List.append_assoc, ← whole],
        by rw [List.append_assoc], unmarked_reference isFormerMark named,
        unmarked_reference isMark (valid name named)⟩
  | plain => exact ⟨[], [], text, rfl, rfl, by simp, by simp⟩

/-- Fragments under other names are cut from the pattern that they are written
as. -/
theorem Fragment.Cut.spelled {fragments others : List Fragment} {opened : Bool}
    (cut : Cut fragments)
    (alongside : Alongside (Spelled rename) opened fragments others) :
    Cut others := by
  have kept : ∀ {opened : Bool} {text other : Text},
      relatedBehind (Spelled rename) opened text other →
      isSolid other = isSolid text ∧ other.isComplete = text.isComplete := by
    intro opened text other holds
    cases opened with
    | false =>
        cases holds
        exact ⟨rfl, rfl⟩
    | true =>
        obtain ⟨front, otherFront, rest, rfl, rfl, unmarked, otherUnmarked⟩ :=
          unmarked_spelled valid holds
        rw [isSolid_append_of_unmarked unmarked,
          isSolid_append_of_unmarked otherUnmarked,
          isComplete_append_of_unmarked unmarked,
          isComplete_append_of_unmarked otherUnmarked]
        exact ⟨rfl, rfl⟩
  induction alongside with
  | last holds =>
      obtain ⟨sameSolid, -⟩ := kept holds
      cases cut with
      | last solid => exact .last (sameSolid.trans solid)
  | opening holds _ induction =>
      obtain ⟨sameSolid, sameComplete⟩ := kept holds
      cases cut with
      | opening solid complete rest =>
          exact .opening (sameSolid.trans solid) (sameComplete.trans complete)
            (induction rest)
  | closing holds _ induction =>
      obtain ⟨sameSolid, sameComplete⟩ := kept holds
      cases cut with
      | closing solid complete rest =>
          exact .closing (sameSolid.trans solid) (sameComplete.trans complete)
            (induction rest)

end Spelling

namespace Tracker

def Naming.renamed (rename : Text → Text)
    (injective : ∀ name other,
      IsName name → IsName other → rename name = rename other → name = other) :
    Naming start where
  Known := IsName
  names := rename
  injective := injective _ _
  unlisted _ member := by cases member
  unrecorded _ member := by cases member
  counts := counts_start
  closed := rfl

private theorem Respells.renamed {rename : Text → Text} {text other : Text}
    (valid : ∀ name, IsName name → IsName (rename name))
    (injective : ∀ name other,
      IsName name → IsName other → rename name = rename other → name = other)
    (single : SpellsOneName text) (spelled : Spelled rename text other) :
    Respells (Naming.renamed rename injective) text other := by
  cases spelled with
  | @header name rest mark found isMark =>
      have named := isName_of_header found
      have renamed := header?_of_isName isMark (valid name named) rest
      have unreferring : reference? rest = none := single.apart _ found
      exact
        { capturing := by
            rw [isCapturing_of_header found, isCapturing_of_header renamed]
          header := by simp [found, renamed, Naming.renamed]
          reference := by simp [afterHeader, found, renamed, unreferring]
          kept := fun _ => by simp [afterHeader, found, renamed]
          knownHeader := by
            intro other same
            simp only [headerName?, found, Option.map_some, Option.some.injEq]
              at same
            exact same ▸ named
          knownReference := by simp [afterHeader, found, unreferring] }
  | @reference name mark found isMark =>
      have named := isName_of_reference found
      rw [single.drop_eq_nil found, List.append_nil]
      have renamed := reference?_of_isName isMark (valid name named)
      have unnamed := header?_of_reference found
      have unnamedOther := header?_of_reference renamed
      exact
        { capturing := by
            rw [isCapturing_of_reference found,
              isCapturing_of_reference renamed]
          header := by simp [unnamed, unnamedOther]
          reference := by
            simp [afterHeader, unnamed, unnamedOther, found, renamed,
              Naming.renamed]
          kept := by simp [afterHeader, unnamed, found]
          knownHeader := by simp [headerName?, unnamed]
          knownReference := by
            intro other same
            simp only [afterHeader, unnamed, found, Option.some.injEq] at same
            exact same ▸ named }
  | plain unnamed unreferring =>
      exact
        { capturing := rfl
          header := by simp [unnamed]
          reference := by simp [afterHeader, unnamed, unreferring]
          kept := fun _ => rfl
          knownHeader := by simp [headerName?, unnamed]
          knownReference := by simp [afterHeader, unnamed, unreferring] }

end Tracker

namespace Positional

open Tracker

/-- A pattern under other names, in any spelling, has the same source.  Its
groups and their sources are the same under the other names. -/
theorem ofPattern_renamed {rename : Text → Text}
    (valid : ∀ name, IsName name → IsName (rename name))
    (injective : ∀ name other,
      IsName name → IsName other → rename name = rename other → name = other)
    (pattern : Text)
    (single : ∀ text ∈ openedTexts (split pattern), SpellsOneName text)
    {fragments : List Fragment}
    (spelled : Alongside (Spelled rename) false (split pattern) fragments) :
    (ofPattern (renderAll fragments)).source = (ofPattern pattern).source ∧
      (ofPattern (renderAll fragments)).groups.entries =
        (ofPattern pattern).groups.entries.map
          (Prod.map (GroupKey.rename rename) id) ∧
      (ofPattern (renderAll fragments)).named.entries =
        (ofPattern pattern).named.entries.map (Prod.map rename id) := by
  have cut := (Cut.of_split pattern).spelled valid spelled
  have alongside := spelled.imp fun text member other related =>
    Respells.renamed valid injective (single text member) related
  have follows :=
    (Follows.start (Naming.renamed rename injective)).run alongside
  simp only [ofPattern, cut.split_renderAll]
  refine ⟨?_, ?_, ?_⟩
  · rw [follows.output, output_start, List.nil_append]
  · have key :
        (Naming.renamed rename injective).key = GroupKey.rename rename := by
      funext key
      exact GroupKey.shift_zero _
    have captures : (start.captures + ·) = id := funext Nat.zero_add
    rw [follows.groups, key, captures]
    rfl
  · rw [follows.named]
    rfl

/-- Two names change places, one of them in a group, in a reference and in a
second group, and every spelling changes too. -/
theorem ofPattern_renamed_swap :
    ∃ renamed,
      renamed =
          ['(', '?', 'P', '<', 'b', '>', '(', '?', '<', 'a', '>', 'y', ')', ')',
            '(', '?', '&', 'b', ')', '(', ':', '<', 'b', '>', 'z', ')'] ∧
        (ofPattern renamed).source =
          ['(', '(', 'y', ')', ')', '(', '(', 'y', ')', ')', '(', 'z', ')'] ∧
        (ofPattern renamed).groups.entries =
          [(.name ['b'], 1), (.name ['a'], 2), (.ordinal 0, 3),
            (.ordinal 1, 4)] ∧
        (ofPattern renamed).named.entries =
          [(['a'], ['y']), (['b'], ['(', 'y', ')'])] := by
  have valid : ∀ name, IsName name → IsName (Equiv.swap ['a'] ['b'] name) := by
    intro name valid
    rw [Equiv.swap_apply_def]
    split
    · decide
    · split
      · decide
      · exact valid
  have changed :=
    ofPattern_renamed valid
      (fun _ _ _ _ same => (Equiv.swap _ _).injective same) ['(', '?', '<', 'a',
        '>', '(', ':', '<', 'b', '>', 'y', ')', ')', '(', ':', '&', 'a', ')',
        '(', '?', 'P', '<', 'a', '>', 'z', ')'] (by decide) (.opening rfl
          (.opening (.header rfl (.inr (.inr rfl))) (.closing
            (.header rfl (.inl rfl)) (.closing rfl (.opening rfl (.closing
              (.reference rfl (.inl rfl)) (.opening rfl
                (.closing (.header rfl (.inr (.inl rfl))) (.last rfl)))))))))
  exact ⟨_, rfl, changed⟩

end Positional

end NamedGroups
