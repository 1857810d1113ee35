import NamedGroups.Proofs.GroupSyntax
import NamedGroups.Template

/-!
# Reading templates

Both steps of a template go through it from left to right and look only at what
stands behind a dollar sign.  One lemma for each way to go on says what the step
makes of the text in front.
-/

namespace NamedGroups.Template

open GroupSyntax

theorem isNameContinue_of_isName {name : Text} (valid : IsName name)
    {character : Char} (member : character ∈ name) :
    isNameContinue character := by
  rw [← leadingName_of_isName valid] at member
  exact isNameContinue_of_mem_leadingName member

private theorem takeWhile_ne_brace {name : Text} (valid : IsName name)
    (rest : Text) :
    (name ++ '\x7d' :: rest).takeWhile (· != '\x7d') = name := by
  have inside : ∀ character ∈ name, (character != '\x7d') = true := by
    intro character member
    rw [bne_iff_ne]
    rintro rfl
    exact absurd (isNameContinue_of_isName valid member) (by decide)
  rw [List.takeWhile_append_of_pos inside]
  simp

/-- A placeholder holds a name as a whole, up to the first closing brace. -/
theorem placeholderName?_eq_some_iff {text name : Text} :
    placeholderName? text = some name ↔
      IsName name ∧ ∃ rest, text = name ++ '\x7d' :: rest := by
  constructor
  · intro found
    simp only [placeholderName?] at found
    split at found
    · cases found
    rename_i closed
    split at found
    · cases found
    rename_i first others leading
    split at found
    · rename_i valid
      cases found
      simp only [Bool.and_eq_true, decide_eq_true_eq, leading] at valid ⊢
      obtain ⟨⟨starts, continues⟩, short⟩ := valid
      refine ⟨⟨starts, continues, short⟩, ?_⟩
      have whole :=
        List.takeWhile_append_dropWhile (p := (· != '\x7d')) (l := text)
      cases behind : text.dropWhile (· != '\x7d') with
      | nil =>
          rw [behind, List.append_nil] at whole
          exact absurd (congrArg List.length whole) closed
      | cons character rest =>
          have filled : text.dropWhile (· != '\x7d') ≠ [] := by simp [behind]
          have brace := List.head_dropWhile_not (· != '\x7d') filled
          simp only [behind, List.head_cons, bne_eq_false_iff_eq] at brace
          rw [behind, leading, brace] at whole
          exact ⟨rest, whole.symm⟩
    · cases found
  · rintro ⟨valid, rest, rfl⟩
    have leading := takeWhile_ne_brace valid rest
    cases name with
    | nil => cases valid
    | cons first others =>
        obtain ⟨starts, continues, short⟩ := valid
        have fits : (first :: others).length ≤ maxNameLength := short
        simp only [placeholderName?, leading, starts, continues, fits]
        simp

section Resolve

variable (groups : GroupIndex)

theorem resolve_of_ne {character : Char} (plain : character ≠ '$')
    (rest : Text) :
    resolve groups (character :: rest) = character :: resolve groups rest := by
  rw [resolve]
  simp [plain]

theorem resolve_dollar {rest : Text}
    (bare : ∀ name tail,
      rest = '+' :: '\x7b' :: name ++ '\x7d' :: tail → ¬ IsName name) :
    resolve groups ('$' :: rest) = '$' :: resolve groups rest := by
  by_cases opened : ∃ tail, rest = '+' :: '\x7b' :: tail
  · obtain ⟨tail, rfl⟩ := opened
    have unnamed : placeholderName? tail = none := by
      rw [Option.eq_none_iff_forall_ne_some]
      intro name found
      obtain ⟨valid, behind, rfl⟩ := placeholderName?_eq_some_iff.mp found
      exact bare name behind rfl valid
    rw [resolve, unnamed, resolve_of_ne groups (by decide),
      resolve_of_ne groups (by decide)]
  · rw [resolve]
    intro tail _ closed
    exact opened ⟨tail, closed⟩

theorem resolve_placeholder {name : Text} (valid : IsName name) (rest : Text) :
    resolve groups ('$' :: '+' :: '\x7b' :: name ++ '\x7d' :: rest) =
      resolved groups name ++ resolve groups rest := by
  have found : placeholderName? (name ++ '\x7d' :: rest) = some name :=
    placeholderName?_eq_some_iff.mpr ⟨valid, rest, rfl⟩
  rw [List.cons_append, List.cons_append, List.cons_append, resolve, found]
  simp

end Resolve

section Expand

variable (found : Match)

theorem expand_of_ne {character : Char} (plain : character ≠ '$')
    (rest : Text) :
    expand (character :: rest) found = character :: expand rest found := by
  rw [expand, tokens] <;> simp [plain, expand, Token.value]

theorem expand_dollar (rest : Text) :
    expand ('$' :: '$' :: rest) found = '$' :: expand rest found := by
  rw [expand, tokens]
  rfl

end Expand

end NamedGroups.Template
