import Mathlib.Data.List.TakeWhile
import NamedGroups.Proofs.Fragment.OpenedTexts

/-!
# Headers and references

A header is written with characters that mean nothing to the cutting of a
pattern.  A group with a header and a reference always count as capture groups.
-/

namespace NamedGroups

namespace GroupSyntax

theorem leadingName_prefix (text : Text) : leadingName text <+: text := by
  cases text with
  | nil => exact List.nil_prefix
  | cons character rest =>
      rw [leadingName]
      split
      · exact (List.cons_prefix_cons.mpr
          ⟨rfl, (List.takeWhile_prefix _).trans (List.take_prefix _ _)⟩)
      · exact List.nil_prefix

theorem isNameContinue_of_mem_leadingName {text : Text} {character : Char}
    (member : character ∈ leadingName text) : isNameContinue character := by
  cases text with
  | nil => simp [leadingName] at member
  | cons first rest =>
      rw [leadingName] at member
      split at member
      · rename_i start
        rcases List.mem_cons.mp member with same | later
        · subst same
          simp [isNameContinue, start]
        · exact List.all_eq_true.mp List.all_takeWhile character later
      · simp at member

theorem isNameStart_of_leadingName {text name : Text} {first : Char}
    (leading : leadingName text = first :: name) : isNameStart first := by
  cases text with
  | nil => simp [leadingName] at leading
  | cons character rest =>
      rw [leadingName] at leading
      split at leading
      · rename_i start
        obtain ⟨rfl, _⟩ := List.cons.inj leading
        exact start
      · simp at leading

/-- Whether a text as a whole is a name. -/
def IsName : Text → Prop
  | [] => False
  | first :: rest =>
      isNameStart first ∧ rest.all isNameContinue ∧ rest.length < maxNameLength

instance : DecidablePred IsName
  | [] => inferInstanceAs (Decidable False)
  | _ :: _ => inferInstanceAs (Decidable (_ ∧ _))

theorem leadingName_of_isName {name : Text} (valid : IsName name) :
    leadingName name = name := by
  cases name with
  | nil => cases valid
  | cons first rest =>
      obtain ⟨starts, continues, short⟩ := valid
      have whole : rest.take (maxNameLength - 1) = rest :=
        List.take_of_length_le (Nat.le_sub_one_of_lt short)
      rw [leadingName, if_pos starts, whole,
        List.takeWhile_eq_self_iff.mpr (List.all_eq_true.mp continues)]

theorem isName_leadingName {text : Text} (filled : leadingName text ≠ []) :
    IsName (leadingName text) := by
  cases named : leadingName text with
  | nil => exact absurd named filled
  | cons first others =>
      refine ⟨isNameStart_of_leadingName named,
        List.all_eq_true.mpr fun character member => ?_, ?_⟩
      · have inName : character ∈ leadingName text := by simp [named, member]
        exact isNameContinue_of_mem_leadingName inName
      · cases text with
        | nil => simp [leadingName] at named
        | cons character rest =>
            rw [leadingName] at named
            split at named
            · obtain ⟨-, rfl⟩ := List.cons.inj named
              have bound :=
                ((List.takeWhile_prefix isNameContinue).length_le).trans
                  (List.length_take_le (maxNameLength - 1) rest)
              exact Nat.lt_of_le_of_lt bound (by decide)
            · simp at named

theorem leadingName_append {name : Text} (valid : IsName name)
    {character : Char} (other : isNameContinue character = false)
    (rest : Text) : leadingName (name ++ character :: rest) = name := by
  cases name with
  | nil => cases valid
  | cons first tail =>
      obtain ⟨starts, continues, short⟩ := valid
      have whole : tail.take (maxNameLength - 1) = tail :=
        List.take_of_length_le (Nat.le_sub_one_of_lt short)
      rw [List.cons_append, leadingName, if_pos starts, List.take_append, whole,
        List.takeWhile_append_of_pos (List.all_eq_true.mp continues)]
      cases maxNameLength - 1 - tail.length <;> simp [other]

/-- The ways to open a reference. -/
def IsReferenceMark (mark : Text) : Prop :=
  mark = ['?', '&'] ∨ mark = [':', '&']

theorem reference?_of_isName {mark name : Text} (isMark : IsReferenceMark mark)
    (valid : IsName name) : reference? (mark ++ name) = some name := by
  cases name with
  | nil => cases valid
  | cons first rest =>
      rcases isMark with rfl | rfl <;>
        simp [reference?, referenceTail?, leadingName_of_isName valid]

theorem isName_of_reference {text name : Text}
    (found : reference? text = some name) : IsName name := by
  unfold reference? at found
  split at found
  · cases found
  rename_i tail _
  split at found
  · cases found
  · rename_i filled
    cases found
    exact isName_leadingName filled

def IsHeaderMark (mark : Text) : Prop :=
  mark = ['?', '<'] ∨ mark = [':', '<'] ∨ mark = ['?', 'P', '<']

private theorem headerTail?_eq_some {text tail : Text}
    (found : headerTail? text = some tail) :
    ∃ mark, IsHeaderMark mark ∧ text = mark ++ tail := by
  unfold headerTail? at found
  split at found
  · cases found
    exact ⟨_, .inl rfl, rfl⟩
  · cases found
    exact ⟨_, .inr (.inl rfl), rfl⟩
  · cases found
    exact ⟨_, .inr (.inr rfl), rfl⟩
  · cases found

/-- A header is a mark, a name and a closing angle bracket, with the rest of the
text behind. -/
theorem header?_eq_some {text name rest : Text}
    (found : header? text = some (name, rest)) :
    ∃ mark, IsHeaderMark mark ∧ text = mark ++ (name ++ '>' :: rest) ∧
      name ≠ [] ∧ leadingName (name ++ '>' :: rest) = name := by
  unfold header? at found
  split at found
  · cases found
  rename_i tail opened
  obtain ⟨mark, isMark, rfl⟩ := headerTail?_eq_some opened
  split at found
  · cases found
  rename_i leading notEmpty
  split at found
  · rename_i remaining dropped
    cases found
    obtain ⟨others, split⟩ := leadingName_prefix tail
    have behind : others = '>' :: rest := by
      have same := congrArg (List.drop (leadingName tail).length) split
      rw [List.drop_left, dropped] at same
      exact same
    subst behind
    refine ⟨mark, isMark, by rw [split], ?_, by rw [split]⟩
    intro empty
    exact notEmpty empty
  · cases found

theorem isName_of_header {text name rest : Text}
    (found : header? text = some (name, rest)) : IsName name := by
  obtain ⟨mark, -, -, filled, leading⟩ := header?_eq_some found
  rw [← leading] at filled ⊢
  exact isName_leadingName filled

theorem header?_of_isName {mark name : Text} (isMark : IsHeaderMark mark)
    (valid : IsName name) (rest : Text) :
    header? (mark ++ (name ++ '>' :: rest)) = some (name, rest) := by
  have opened :
      headerTail? (mark ++ (name ++ '>' :: rest)) =
        some (name ++ '>' :: rest) := by
    rcases isMark with rfl | rfl | rfl <;> rfl
  have leading : leadingName (name ++ '>' :: rest) = name :=
    leadingName_append valid (by decide) rest
  cases name with
  | nil => cases valid
  | cons first tail =>
      rw [List.cons_append] at opened leading
      simp [header?, opened, leading]

theorem referenceTail?_eq_some {text tail : Text}
    (found : referenceTail? text = some tail) :
    text = '?' :: '&' :: tail ∨ text = ':' :: '&' :: tail := by
  unfold referenceTail? at found
  split at found
  · cases found
    exact .inl rfl
  · cases found
    exact .inr rfl
  · cases found

/-- A reference is a mark and a name, with more of the text behind. -/
theorem reference?_eq_some {text name : Text}
    (found : reference? text = some name) :
    ∃ mark, IsReferenceMark mark ∧
      text = mark ++ (name ++ text.drop (2 + name.length)) := by
  unfold reference? at found
  split at found
  · cases found
  rename_i tail opened
  split at found
  · cases found
  cases found
  obtain ⟨rest, whole⟩ := leadingName_prefix tail
  have dropped : tail.drop (leadingName tail).length = rest := by
    have same := congrArg (List.drop (leadingName tail).length) whole
    rwa [List.drop_left, eq_comm] at same
  rcases referenceTail?_eq_some opened with rfl | rfl
  · exact ⟨_, .inl rfl, by simp [← List.drop_drop, dropped, whole]⟩
  · exact ⟨_, .inr rfl, by simp [← List.drop_drop, dropped, whole]⟩

theorem isCapturing_of_ne_question {text : Text}
    (other : text.head? ≠ some '?') : isCapturing text := by
  unfold isCapturing
  split <;> simp_all

theorem isCapturing_of_header {text name rest : Text}
    (found : header? text = some (name, rest)) : isCapturing text := by
  obtain ⟨mark, isMark, rfl, notEmpty, leading⟩ := header?_eq_some found
  obtain ⟨first, others, rfl⟩ := List.exists_cons_of_ne_nil notEmpty
  have start : isNameStart first := isNameStart_of_leadingName leading
  rcases isMark with rfl | rfl | rfl
  · have notEqual : first ≠ '=' := by
      rintro rfl
      exact absurd start (by decide)
    have notNegated : first ≠ '!' := by
      rintro rfl
      exact absurd start (by decide)
    simp [isCapturing, notEqual, notNegated]
  · exact isCapturing_of_ne_question (by simp)
  · rfl

theorem header?_eq_none {text : Text} (kind : isCapturing text = false) :
    header? text = none := by
  cases found : header? text with
  | none => rfl
  | some header => simp [isCapturing_of_header found] at kind

theorem header?_of_reference {text name : Text}
    (found : reference? text = some name) : header? text = none := by
  unfold reference? at found
  split at found
  · cases found
  rename_i tail opened
  rcases referenceTail?_eq_some opened with rfl | rfl <;>
    simp [header?, headerTail?]

theorem isCapturing_of_reference {text name : Text}
    (found : reference? text = some name) : isCapturing text := by
  have kept := found
  unfold reference? at found
  split at found
  · cases found
  rename_i tail opened
  rcases referenceTail?_eq_some opened with rfl | rfl
  · simp [isCapturing, kept]
  · exact isCapturing_of_ne_question (by simp)

end GroupSyntax

open GroupSyntax

namespace Fragment

theorem unmarked_of_isNameContinue {character : Char}
    (named : isNameContinue character) : Unmarked character := by
  refine ⟨?_, ?_, ?_⟩ <;> rintro rfl <;> exact absurd named (by decide)

theorem unmarked_reference {mark name : Text} (isMark : IsReferenceMark mark)
    (valid : IsName name) : ∀ character ∈ mark ++ name, Unmarked character := by
  have named : ∀ character ∈ name, isNameContinue character := by
    rw [← leadingName_of_isName valid]
    exact fun _ => isNameContinue_of_mem_leadingName
  rw [List.forall_mem_append]
  refine ⟨?_,
    fun character member => unmarked_of_isNameContinue (named character member)⟩
  rcases isMark with rfl | rfl <;> simp [Unmarked]

theorem isSolid_append_of_unmarked {characters : Text}
    (unmarked : ∀ character ∈ characters, Unmarked character) (rest : Text) :
    isSolid (characters ++ rest) = isSolid rest := by
  induction characters with
  | nil => rfl
  | cons character characters induction =>
      rw [List.cons_append, isSolid_unmarked (unmarked character (by simp)),
        induction fun other member => unmarked other (by simp [member])]

theorem isComplete_append_of_unmarked {characters : Text}
    (unmarked : ∀ character ∈ characters, Unmarked character) (rest : Text) :
    (characters ++ rest).isComplete = rest.isComplete := by
  induction characters with
  | nil => rfl
  | cons character characters induction =>
      rw [List.cons_append,
        Text.isComplete_bare (unmarked character (by simp)).1,
        induction fun other member => unmarked other (by simp [member])]

/-- What a text consists of besides its header. -/
theorem header_characters {text name rest : Text}
    (found : header? text = some (name, rest)) :
    ∃ header, text = header ++ rest ∧
      ∀ character ∈ header,
        isNameContinue character ∨ character ∈ ['?', ':', '<', '>'] := by
  obtain ⟨mark, isMark, rfl, _, leading⟩ := header?_eq_some found
  refine ⟨mark ++ (name ++ ['>']), by simp, ?_⟩
  intro character member
  simp only [List.mem_append, List.mem_singleton] at member
  rcases member with inMark | inName | rfl
  · have known : (mark.all fun character =>
        isNameContinue character ||
          ['?', ':', '<', '>'].contains character) = true := by
      rcases isMark with rfl | rfl | rfl <;> rfl
    simpa using List.all_eq_true.mp known character inMark
  · rw [← leading] at inName
    exact .inl (isNameContinue_of_mem_leadingName inName)
  · exact .inr (by decide)

theorem unmarked_header {text name rest : Text}
    (found : header? text = some (name, rest)) :
    ∃ header,
      text = header ++ rest ∧ ∀ character ∈ header, Unmarked character := by
  obtain ⟨header, whole, characters⟩ := header_characters found
  have marks : ∀ mark ∈ ['?', ':', '<', '>'], Unmarked mark := by
    simp [Unmarked]
  refine ⟨header, whole, fun character member => ?_⟩
  rcases characters character member with named | isMark
  · exact unmarked_of_isNameContinue named
  · exact marks character isMark

end Fragment

end NamedGroups
