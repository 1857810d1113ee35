import NamedGroups.Positional
import NamedGroups.Proofs.Fragment.Decomposition

/-!
# What stands behind the opening parentheses

The text right behind an opening parenthesis tells what the parenthesis opens.
This file collects these texts, says which parentheses open capture groups, and
shows that a pattern without `()` is left alone by `removeEmptyGroups`.
-/

namespace NamedGroups

namespace Fragment

open Text (escapeInduction)

/-- The texts right behind the opening parentheses, in order. -/
def openedTexts : List Fragment → List Text
  | .opening :: .plain text :: fragments => text :: openedTexts fragments
  | _ :: fragments => openedTexts fragments
  | [] => []

/-- The texts that start the capture groups, in order. -/
def captureTexts (fragments : List Fragment) : List Text :=
  (openedTexts fragments).filter fun text => GroupSyntax.isCapturing text

def opensCapture (fragments : List Fragment) (position : Nat) : Bool :=
  match fragments[position]?, fragments[position + 1]? with
  | some .opening, some (.plain text) => GroupSyntax.isCapturing text
  | _, _ => false

def captureOpenings (fragments : List Fragment) : List Nat :=
  (List.range fragments.length).filter fun position =>
    opensCapture fragments position

@[simp] theorem openedTexts_plain (text : Text) (fragments : List Fragment) :
    openedTexts (.plain text :: fragments) = openedTexts fragments := by
  simp [openedTexts]

@[simp] theorem openedTexts_closing (fragments : List Fragment) :
    openedTexts (.closing :: fragments) = openedTexts fragments := by
  simp [openedTexts]

@[simp] theorem openedTexts_opening_plain (text : Text)
    (fragments : List Fragment) :
    openedTexts (.opening :: .plain text :: fragments) =
      text :: openedTexts fragments := by
  simp [openedTexts]

/-- Puts the opening parenthesis that has just been read back in front. -/
def behind (opened : Bool) (fragments : List Fragment) : List Fragment :=
  if opened then .opening :: fragments else fragments

@[simp] theorem behind_false (fragments : List Fragment) :
    behind false fragments = fragments :=
  rfl

@[simp] theorem behind_true (fragments : List Fragment) :
    behind true fragments = .opening :: fragments := rfl

@[simp] theorem openedTexts_behind_last (opened : Bool) (text : Text) :
    openedTexts (behind opened [.plain text]) =
      if opened then [text] else [] := by
  cases opened <;> rfl

@[simp] theorem openedTexts_behind_opening (opened : Bool) (text : Text)
    (fragments : List Fragment) :
    openedTexts (behind opened (.plain text :: .opening :: fragments)) =
      (if opened then [text] else []) ++
        openedTexts (behind true fragments) := by
  cases opened <;> simp

@[simp] theorem openedTexts_behind_closing (opened : Bool) (text : Text)
    (fragments : List Fragment) :
    openedTexts (behind opened (.plain text :: .closing :: fragments)) =
      (if opened then [text] else []) ++
        openedTexts (behind false fragments) := by
  cases opened <;> simp

theorem mem_openedTexts_behind {opened : Bool} (isOpened : opened = true)
    (text : Text) (fragments : List Fragment) :
    text ∈ openedTexts (behind opened (.plain text :: fragments)) := by
  simp [isOpened]

theorem Cut.openedTexts_append_closing {fragments : List Fragment}
    (cut : Cut fragments) (opened : Bool) (others : List Fragment) :
    openedTexts (behind opened (fragments ++ .closing :: others)) =
      openedTexts (behind opened fragments) ++ openedTexts others := by
  induction cut generalizing opened with
  | last _ => simp
  | opening _ _ _ induction => simpa using induction true
  | closing _ _ _ induction => simpa using induction false

private theorem captureOpenings_cons (fragment : Fragment)
    (fragments : List Fragment) :
    captureOpenings (fragment :: fragments) =
      (if opensCapture (fragment :: fragments) 0 then [0] else []) ++
        (captureOpenings fragments).map (· + 1) := by
  simp only [captureOpenings, List.length_cons, List.range_succ_eq_map,
    List.filter_cons, List.filter_map]
  split <;> rfl

/-- There are as many such parentheses as texts that start capture groups. -/
theorem Cut.length_captureOpenings {fragments : List Fragment}
    (cut : Cut fragments) :
    (captureOpenings fragments).length = (captureTexts fragments).length := by
  induction cut with
  | last _ => rfl
  | opening _ _ rest induction =>
      obtain ⟨text, others, rfl⟩ := rest.starts_with_text
      rw [captureOpenings_cons, captureOpenings_cons]
      cases kind : GroupSyntax.isCapturing text <;>
        simpa [opensCapture, captureTexts, kind] using induction
  | closing _ _ _ induction =>
      rw [captureOpenings_cons, captureOpenings_cons]
      simpa [opensCapture, captureTexts] using induction

/-- Whether an opening and a closing parenthesis have nothing between them. -/
def HasEmptyGroup (fragments : List Fragment) : Prop :=
  [.opening, .plain [], .closing] <:+: fragments

instance (fragments : List Fragment) : Decidable (HasEmptyGroup fragments) :=
  inferInstanceAs (Decidable (_ <:+: _))

@[simp] theorem hasEmptyGroup_plain (text : Text) (fragments : List Fragment) :
    HasEmptyGroup (.plain text :: fragments) ↔ HasEmptyGroup fragments := by
  simp [HasEmptyGroup, List.infix_cons_iff]

@[simp] theorem hasEmptyGroup_closing (fragments : List Fragment) :
    HasEmptyGroup (.closing :: fragments) ↔ HasEmptyGroup fragments := by
  simp [HasEmptyGroup, List.infix_cons_iff]

theorem hasEmptyGroup_opening (fragments : List Fragment) :
    HasEmptyGroup (.opening :: fragments) ↔
      [.plain [], .closing] <+: fragments ∨ HasEmptyGroup fragments := by
  simp [HasEmptyGroup, List.infix_cons_iff]

@[simp] theorem hasEmptyGroup_behind_last (opened : Bool) (text : Text) :
    ¬ HasEmptyGroup (behind opened [.plain text]) := by
  cases opened <;> simp [HasEmptyGroup, behind, List.infix_cons_iff]

@[simp] theorem hasEmptyGroup_behind_opening (opened : Bool) (text : Text)
    (fragments : List Fragment) :
    HasEmptyGroup (behind opened (.plain text :: .opening :: fragments)) ↔
      HasEmptyGroup (behind true fragments) := by
  cases opened <;> simp [behind, hasEmptyGroup_opening]

@[simp] theorem hasEmptyGroup_behind_closing (opened : Bool) (text : Text)
    (fragments : List Fragment) :
    HasEmptyGroup (behind opened (.plain text :: .closing :: fragments)) ↔
      (opened ∧ text = []) ∨ HasEmptyGroup (behind false fragments) := by
  cases opened <;> simp [behind, hasEmptyGroup_opening, eq_comm]

theorem hasEmptyGroup_extend (characters text : Text)
    (fragments : List Fragment) :
    HasEmptyGroup (extend characters (.plain text :: fragments)) ↔
      HasEmptyGroup (.plain text :: fragments) := by
  simp [extend]

/-- Whether a text starts with a closing parenthesis, from its fragments. -/
theorem prefix_split_iff (text : Text) :
    [.plain [], .closing] <+: split text ↔ text.head? = some ')' := by
  constructor
  · rintro ⟨fragments, cut⟩
    have rendered := renderAll_split text
    rw [← cut] at rendered
    rw [← rendered]
    rfl
  · intro closing
    obtain ⟨rest, rfl⟩ := List.head?_eq_some_iff.mp closing
    exact ⟨split rest, rfl⟩

theorem hasEmptyGroup_split_opening (rest : Text) :
    HasEmptyGroup (split ('(' :: rest)) ↔
      rest.head? = some ')' ∨ HasEmptyGroup (split rest) := by
  rw [split_opening, hasEmptyGroup_plain, hasEmptyGroup_opening,
    prefix_split_iff]

theorem hasEmptyGroup_split_escaped (character : Char) (rest : Text) :
    HasEmptyGroup (split ('\\' :: character :: rest)) ↔
      HasEmptyGroup (split rest) := by
  obtain ⟨first, others, cut⟩ := (Cut.of_split rest).starts_with_text
  rw [split_escaped, cut, hasEmptyGroup_extend]

theorem hasEmptyGroup_split_bare {character : Char} (bare : character ≠ '\\')
    (notOpening : character ≠ '(') (rest : Text) :
    HasEmptyGroup (split (character :: rest)) ↔ HasEmptyGroup (split rest) := by
  obtain ⟨first, others, cut⟩ := (Cut.of_split rest).starts_with_text
  by_cases closing : character = ')'
  · subst closing
    simp
  · rw [split_unmarked ⟨bare, notOpening, closing⟩, cut, hasEmptyGroup_extend]

theorem removeEmptyGroups_opening {rest : Text}
    (other : rest.head? ≠ some ')') :
    removeEmptyGroups ('(' :: rest) = '(' :: removeEmptyGroups rest := by
  rw [removeEmptyGroups]
  · simp
  · rintro tail -
    rintro rfl
    exact other rfl

theorem removeEmptyGroups_bare {character : Char} (bare : character ≠ '\\')
    (notOpening : character ≠ '(') (rest : Text) :
    removeEmptyGroups (character :: rest) =
      character :: removeEmptyGroups rest := by
  rw [removeEmptyGroups]
  · simp [bare]
  · simp [notOpening]

private theorem length_removeEmptyGroups_le (text : Text) :
    (removeEmptyGroups text).length ≤ text.length := by
  fun_induction removeEmptyGroups text <;> simp <;> omega

/-- Something is deleted exactly where something is empty. -/
theorem removeEmptyGroups_eq_self_iff (text : Text) :
    removeEmptyGroups text = text ↔ ¬ HasEmptyGroup (split text) := by
  induction text using escapeInduction with
  | nil => exact iff_of_true rfl (hasEmptyGroup_behind_last false [])
  | backslash => exact iff_of_true rfl (hasEmptyGroup_behind_last false ['\\'])
  | escaped character rest induction =>
      rw [hasEmptyGroup_split_escaped, ← induction]
      simp [removeEmptyGroups]
  | bare character rest bare induction =>
      by_cases opening : character = '('
      · subst opening
        rw [hasEmptyGroup_split_opening]
        by_cases closing : rest.head? = some ')'
        · obtain ⟨tail, rfl⟩ := List.head?_eq_some_iff.mp closing
          have shorter := length_removeEmptyGroups_le tail
          refine iff_of_false (fun kept => ?_) (by simp)
          have lengths := congrArg List.length kept
          simp only [removeEmptyGroups, List.length_cons] at lengths
          omega
        · simp [removeEmptyGroups_opening closing, closing, induction]
      · simp [removeEmptyGroups_bare bare opening,
          hasEmptyGroup_split_bare bare opening, induction]

theorem removeEmptyGroups_eq_self {text : Text}
    (kept : ¬ HasEmptyGroup (split text)) : removeEmptyGroups text = text :=
  (removeEmptyGroups_eq_self_iff text).mpr kept

end Fragment

end NamedGroups
