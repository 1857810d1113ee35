import NamedGroups.NamedRegex.Replace
import NamedGroups.Proofs.NamedRegex.Compilation
import NamedGroups.Proofs.Template.Reading
import NamedGroups.Proofs.Tracker.Steps

/-!
# Doubled dollar signs

In the second step of a template a dollar sign that is written twice stands for
itself.  The first step knows no escapes: it takes any dollar sign for the start
of a placeholder, also the second one of two.  So a text whose dollar signs are
doubled stands for itself exactly if no placeholder comes about in it.
-/

namespace NamedGroups

open Fragment GroupSyntax

namespace Template

/-- The text with each dollar sign written twice. -/
def escape : Text → Text
  | [] => []
  | '$' :: rest => '$' :: '$' :: escape rest
  | character :: rest => character :: escape rest

theorem escape_of_ne {character : Char} (plain : character ≠ '$')
    (rest : Text) : escape (character :: rest) = character :: escape rest := by
  rw [escape]
  simp [plain]

/-- Whether a placeholder starts at a dollar sign that has this behind it. -/
def StartsPlaceholder (rest : Text) : Prop :=
  ∃ name after : Text,
    rest = '+' :: '\x7b' :: name ++ '\x7d' :: after ∧ IsName (escape name)

/-- Whether the text has a placeholder, whose name is to be one after its dollar
signs have been doubled as well. -/
def HasPlaceholder (text : Text) : Prop :=
  ∃ before rest : Text, text = before ++ '$' :: rest ∧ StartsPlaceholder rest

theorem hasPlaceholder_cons_iff {character : Char} {rest : Text} :
    HasPlaceholder (character :: rest) ↔
      character = '$' ∧ StartsPlaceholder rest ∨ HasPlaceholder rest := by
  constructor
  · rintro ⟨before, behind, whole, starts⟩
    cases before with
    | nil =>
        obtain ⟨rfl, rfl⟩ := List.cons.inj whole
        exact .inl ⟨rfl, starts⟩
    | cons first before =>
        obtain ⟨-, rfl⟩ := List.cons.inj whole
        exact .inr ⟨before, behind, rfl, starts⟩
  · rintro (⟨rfl, starts⟩ | ⟨before, behind, rfl, starts⟩)
    · exact ⟨[], rest, rfl, starts⟩
    · exact ⟨character :: before, behind, rfl, starts⟩

/-- A character other than the dollar sign cuts the text where it cuts the
escaped text. -/
theorem escape_eq_append {text left right : Text} {character : Char}
    (plain : character ≠ '$')
    (escaped : escape text = left ++ character :: right) :
    ∃ before after, text = before ++ character :: after ∧ escape before = left ∧
      escape after = right := by
  induction text generalizing left with
  | nil => simp [escape] at escaped
  | cons first rest induction =>
      by_cases dollar : first = '$'
      · subst dollar
        rw [escape] at escaped
        rcases left with _ | ⟨_, _ | ⟨_, left⟩⟩
        · exact absurd (List.cons.inj escaped).1.symm plain
        · exact absurd (List.cons.inj (List.cons.inj escaped).2).1.symm plain
        · simp only [List.cons_append, List.cons.injEq] at escaped
          obtain ⟨rfl, rfl, escaped⟩ := escaped
          obtain ⟨before, after, rfl, rfl, rfl⟩ := induction escaped
          exact ⟨'$' :: before, after, rfl, rfl, rfl⟩
      · rw [escape_of_ne dollar] at escaped
        cases left with
        | nil =>
            obtain ⟨rfl, rfl⟩ := List.cons.inj escaped
            exact ⟨[], rest, rfl, rfl, rfl⟩
        | cons second left =>
            simp only [List.cons_append, List.cons.injEq] at escaped
            obtain ⟨rfl, escaped⟩ := escaped
            obtain ⟨before, after, rfl, rfl, rfl⟩ := induction escaped
            exact ⟨first :: before, after, rfl, escape_of_ne dollar before, rfl⟩

private theorem escape_eq_cons {text right : Text} {character : Char}
    (plain : character ≠ '$') (escaped : escape text = character :: right) :
    ∃ after, text = character :: after ∧ escape after = right := by
  have cut : escape text = [] ++ character :: right := escaped
  obtain ⟨before, after, rfl, nothing, rfl⟩ := escape_eq_append plain cut
  cases before with
  | nil => exact ⟨after, rfl, rfl⟩
  | cons first before =>
      by_cases dollar : first = '$'
      · subst dollar
        simp [escape] at nothing
      · simp [escape_of_ne dollar] at nothing

theorem escape_append (left right : Text) :
    escape (left ++ right) = escape left ++ escape right := by
  induction left with
  | nil => rfl
  | cons character left induction =>
      by_cases dollar : character = '$'
      · subst dollar
        simp [escape, induction]
      · simp [escape_of_ne dollar, induction]

variable {groups : GroupIndex}

/-- The first step goes past two dollar signs that start no placeholder. -/
theorem resolve_escape_dollar {rest : Text} (bare : ¬ StartsPlaceholder rest) :
    resolve groups (escape ('$' :: rest)) =
      '$' :: '$' :: resolve groups (escape rest) := by
  rw [escape, resolve_dollar groups (by simp), resolve_dollar]
  intro name tail escaped valid
  apply bare
  rw [List.cons_append, List.cons_append] at escaped
  obtain ⟨opened, rfl, behindPlus⟩ := escape_eq_cons (by decide) escaped
  obtain ⟨inside, rfl, behindBrace⟩ := escape_eq_cons (by decide) behindPlus
  obtain ⟨name, after, rfl, rfl, -⟩ := escape_eq_append (by decide) behindBrace
  exact ⟨name, after, rfl, valid⟩

theorem resolve_escape {text : Text} (bare : ¬ HasPlaceholder text) :
    resolve groups (escape text) = escape text := by
  induction text with
  | nil => simp [escape, resolve]
  | cons character rest induction =>
      rw [hasPlaceholder_cons_iff, not_or] at bare
      by_cases dollar : character = '$'
      · subst dollar
        have here : ¬ StartsPlaceholder rest :=
          fun starts => bare.1 ⟨rfl, starts⟩
        rw [resolve_escape_dollar here, induction bare.2, escape]
      · rw [escape_of_ne dollar, resolve_of_ne groups dollar, induction bare.2]

theorem expand_escape (text : Text) (found : Match) :
    expand (escape text) found = text := by
  induction text with
  | nil => simp [escape, expand, tokens]
  | cons character rest induction =>
      by_cases dollar : character = '$'
      · subst dollar
        rw [escape, expand_dollar, induction]
      · rw [escape_of_ne dollar, expand_of_ne found dollar, induction]

/-- A placeholder of a known name leaves a brace where the text has a plus
sign. -/
theorem expandOnce_escape_ne {text : Text} (placed : HasPlaceholder text) :
    ∃ name, IsName name ∧
      ∀ (groups : GroupIndex) (slot : Nat), groups.named? name = some slot →
        ∀ found : Match,
          Replacer.expandOnce (escape text) found groups ≠ text := by
  induction text with
  | nil =>
      obtain ⟨before, rest, whole, -⟩ := placed
      simp at whole
  | cons character rest induction =>
      by_cases here : character = '$' ∧ StartsPlaceholder rest
      · obtain ⟨rfl, name, after, rfl, valid⟩ := here
        refine ⟨escape name, valid, ?_⟩
        intro groups slot known found
        have resolves :
            resolve groups
                (escape ('$' :: ('+' :: '\x7b' :: name ++ '\x7d' :: after))) =
              '$' :: '$' :: '\x7b' ::
                (Text.decimal slot ++ '\x7d' ::
                  resolve groups (escape after)) := by
          have escaped :
              escape ('$' :: ('+' :: '\x7b' :: name ++ '\x7d' :: after)) =
                '$' ::
                  ('$' :: '+' :: '\x7b' :: escape name ++ '\x7d' ::
                    escape after) := by
            simp [escape, escape_append]
          rw [escaped, resolve_dollar groups (by simp),
            resolve_placeholder groups valid, resolved, known]
          simp [slotToken]
        rw [Replacer.expandOnce, resolves, expand_dollar,
          expand_of_ne found (by decide)]
        simp
      · have further : HasPlaceholder rest := by
          rcases hasPlaceholder_cons_iff.mp placed with starts | later
          · exact absurd starts here
          · exact later
        obtain ⟨name, valid, differs⟩ := induction further
        refine ⟨name, valid, ?_⟩
        intro groups slot known found same
        apply differs groups slot known found
        by_cases dollar : character = '$'
        · subst dollar
          have bare : ¬ StartsPlaceholder rest :=
            fun starts => here ⟨rfl, starts⟩
          rw [Replacer.expandOnce, resolve_escape_dollar bare, expand_dollar]
            at same
          exact (List.cons.inj same).2
        · rw [Replacer.expandOnce, escape_of_ne dollar,
            resolve_of_ne groups dollar, expand_of_ne found dollar] at same
          exact (List.cons.inj same).2

end Template

def namedLetter (name : Text) : Text :=
  '(' :: (['?', '<'] ++ (name ++ '>' :: ['a'])) ++ [')']

private theorem ofPattern_namedLetter {name : Text} (valid : IsName name) :
    Positional.ofPattern (namedLetter name) =
      { source := ['(', 'a', ')']
        captures := 1
        groups := (∅ : GroupIndex).insert (.name name) 1
        named := (∅ : NamedSources).insert name ['a'] } := by
  have header := header?_of_isName (.inl rfl) valid ['a']
  obtain ⟨front, whole, unmarked⟩ := unmarked_header header
  have cut :
      Cut [.plain [], .opening, .plain (['?', '<'] ++ (name ++ '>' :: ['a'])),
        .closing, .plain []] := by
    rw [whole]
    refine .opening rfl rfl (.closing ?_ ?_ (.last rfl))
    · rw [isSolid_append_of_unmarked unmarked]
      rfl
    · rw [isComplete_append_of_unmarked unmarked]
      rfl
  have pieces := cut.split_renderAll
  have written :
      renderAll [.plain [], .opening,
        .plain (['?', '<'] ++ (name ++ '>' :: ['a'])), .closing, .plain []] =
        namedLetter name := by
    simp [namedLetter, render]
  rw [written] at pieces
  have capturing := isCapturing_of_header header
  simp only [Positional.ofPattern, pieces, Tracker.run, capturing,
    Tracker.capture, Tracker.enterCapture, header]
  rfl

private theorem named?_namedLetter {name : Text} (valid : IsName name) :
    (Positional.ofPattern (namedLetter name)).groups.named? name = some 1 := by
  rw [ofPattern_namedLetter valid]
  exact (OrderedMap.get?_insert _ _ _ _).trans (if_pos rfl)

namespace Template

section Replacing

variable {searches : Searches} {groups : GroupIndex}
    {text template content : Text}

private theorem expandOnce_eq_of_replace {slots : List (Option Span)}
    (matched : searches 0 = .ok (some slots))
    (same : Replacement.replace (m := Id)
        (Finder.ofSearches searches text groups) groups false text
        (.ofTemplate template) =
      Replacement.replace (Finder.ofSearches searches text groups) groups false
        text (.literal content)) :
    Replacer.expandOnce template (.ofSlots text slots groups) groups =
      content := by
  have finds : Finder.ofSearches searches text groups 0 =
      .ok (some (.ofSlots text slots groups)) := by
    rw [Finder.ofSearches, matched]
    rfl
  generalize Match.ofSlots text slots groups = found at finds ⊢
  generalize Finder.ofSearches searches text groups = find at finds same
  have replaces : ∀ render : Match → Text,
      Replacement.startingAt (m := Id) find (fun found => pure (render found))
          false text 0 0 =
        .ok ⟨text.slice 0 found.start ++ render found ++
          text.dropBytes found.stop, 1⟩ := by
    intro render
    rw [Replacement.startingAt, dif_pos (Nat.zero_le _), finds]
    rfl
  have templated :
      Replacement.replace (m := Id) find groups false text
          (.ofTemplate template) =
        .ok ⟨text.slice 0 found.start ++
          Replacer.expandOnce template found groups ++
          text.dropBytes found.stop, 1⟩ :=
    replaces fun found => Replacer.expandOnce template found groups
  have verbatim : Replacement.replace (m := Id) find groups false text
      (.literal content) = .ok
        ⟨text.slice 0 found.start ++ content ++ text.dropBytes found.stop, 1⟩ :=
    replaces fun _ => content
  rw [templated, verbatim] at same
  have texts := congrArg Replacement.text (Except.ok.inj same)
  exact List.append_cancel_left (List.append_cancel_right texts)

end Replacing

/-- A placeholder makes a difference with a regular expression that has the
name of it, wherever that matches. -/
theorem exists_replace_escape_ne {content : Text}
    (placed : HasPlaceholder content) :
    ∃ pattern, ∀ (searches : Searches) (text : Text) slots,
      searches 0 = .ok (some slots) →
        Replacement.replace (m := Id)
            (.ofSearches searches text (Positional.ofPattern pattern).groups)
            (Positional.ofPattern pattern).groups false text
            (.ofTemplate (escape content)) ≠
          Replacement.replace
            (.ofSearches searches text (Positional.ofPattern pattern).groups)
            (Positional.ofPattern pattern).groups false text
            (.literal content) := by
  obtain ⟨name, valid, differs⟩ := expandOnce_escape_ne placed
  refine ⟨namedLetter name, ?_⟩
  intro searches text slots matched same
  exact differs _ 1 (named?_namedLetter valid) _
    (expandOnce_eq_of_replace matched same)

/-- Doubling the dollar signs of a text makes a template for the text itself,
whatever is searched for and however its groups are numbered, exactly if there
is no placeholder in the text.  Otherwise there is a pattern for which it makes
another text in place of every first match. -/
theorem replace_escape_iff (content : Text) :
    ((∀ (searches : Searches) (groups : GroupIndex) (everywhere : Bool)
      (text : Text) {m : Type → Type} [Monad m] [LawfulMonad m],
      Replacement.replace (m := m) (.ofSearches searches text groups) groups
          everywhere text (.ofTemplate (escape content)) =
        Replacement.replace (.ofSearches searches text groups) groups everywhere
          text (.literal content)) ↔
      ¬ HasPlaceholder content) ∧
      (HasPlaceholder content →
        ∃ pattern, ∀ (searches : Searches) (text : Text) slots,
          searches 0 = .ok (some slots) →
            Replacement.replace (m := Id) (.ofSearches searches text
              (Positional.ofPattern pattern).groups)
                (Positional.ofPattern pattern).groups false text
                (.ofTemplate (escape content)) ≠
              Replacement.replace (.ofSearches searches text
                (Positional.ofPattern pattern).groups)
                (Positional.ofPattern pattern).groups false text
                (.literal content)) := by
  refine ⟨⟨?_, ?_⟩, exists_replace_escape_ne⟩
  · intro verbatim placed
    obtain ⟨pattern, differs⟩ := exists_replace_escape_ne placed
    exact differs (fun _ => .ok (some [])) [] [] rfl (verbatim _ _ _ _)
  · intro bare searches groups everywhere text m _ _
    simp only [Replacement.replace, Replacer.ofTemplate, Replacer.literal,
      pure_bind, resolve_escape bare, expand_escape]

/-- A placeholder of a known name shows the number of its group, and one of an
unknown name goes. -/
theorem replace_escape_placeholder :
    (NamedRegex.compile Engine.builtIn
      (.text ['(', '?', '<', 'n', '>', 'a', ')']) none).toOption.map
        (fun regex =>
          (Except.toOption (regex.replace (m := Id) ['a']
            (.ofTemplate (escape ['$', '+', '\x7b', 'n', '\x7d']))),
            Except.toOption (regex.replace (m := Id) ['a']
              (.literal ['$', '+', '\x7b', 'n', '\x7d'])),
            Except.toOption (regex.replace (m := Id) ['a']
              (.ofTemplate (escape ['$', '+', '\x7b', 'x', '\x7d']))))) =
      some (some ⟨['$', '\x7b', '1', '\x7d'], 1⟩,
        some ⟨['$', '+', '\x7b', 'n', '\x7d'], 1⟩, some ⟨['$'], 1⟩) := by
  decide +kernel

end Template

end NamedGroups
