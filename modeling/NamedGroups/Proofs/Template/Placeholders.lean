import NamedGroups.NamedRegex.Replace
import NamedGroups.Proofs.NamedRegex.Compilation
import NamedGroups.Proofs.Template.BracedNumbers

/-!
# Placeholders in templates

A placeholder is resolved in its own place, whatever stands around it.  Tokens
are read only then: so a placeholder contributes the text of its group and
nothing else, unless a token comes about that starts in what is in front of it
and ends in what it is resolved to, or behind that if it is resolved to nothing.
-/

namespace NamedGroups.Template

open GroupSyntax

def placeholder (name : Text) : Text :=
  '$' :: '+' :: '\x7b' :: (name ++ ['\x7d'])

section Resolve

variable (groups : GroupIndex) {name : Text}

/-- A placeholder does not end one that has been started in front of it. -/
theorem bare_append_placeholder {rest : Text}
    (bare : ∀ other tail,
      rest = '+' :: '\x7b' :: other ++ '\x7d' :: tail → ¬ IsName other)
    (name right : Text) :
    ∀ other tail,
      rest ++ (placeholder name ++ right) =
          '+' :: '\x7b' :: other ++ '\x7d' :: tail →
        ¬ IsName other := by
  intro other tail whole valid
  rcases rest with _ | ⟨first, _ | ⟨second, rest⟩⟩
  · simp [placeholder] at whole
  · simp [placeholder] at whole
  · obtain ⟨rfl, rfl, behind⟩ : first = '+' ∧ second = '\x7b' ∧
        rest ++ (placeholder name ++ right) = other ++ '\x7d' :: tail := by
      simpa using whole
    obtain ⟨middle, rfl, starts⟩ | ⟨middle, rfl, starts⟩ :=
      List.append_eq_append_iff.mp behind
    · rcases middle with _ | ⟨dollar, _ | ⟨plus, middle⟩⟩
      · simp [placeholder] at starts
      · simp [placeholder] at starts
      · obtain ⟨-, rfl, -⟩ : '$' = dollar ∧ '+' = plus ∧ _ := by
          simpa [placeholder] using starts
        have inName : '+' ∈ rest ++ dollar :: '+' :: middle := by simp
        exact absurd (isNameContinue_of_isName valid inName) (by decide)
    · cases middle with
      | nil => simp [placeholder] at starts
      | cons brace middle =>
          obtain ⟨rfl, -⟩ := List.cons.inj starts
          exact bare other middle rfl valid

theorem resolve_append_placeholder (valid : IsName name) (left right : Text) :
    resolve groups (left ++ (placeholder name ++ right)) =
      resolve groups left ++
        (resolved groups name ++ resolve groups right) := by
  induction length : left.length using Nat.strongRecOn generalizing left with
  | ind length induction =>
      subst length
      cases left with
      | nil =>
          have alone := resolve_placeholder groups valid right
          simpa [placeholder, resolve] using alone
      | cons character rest =>
          by_cases dollar : character = '$'
          · subst dollar
            by_cases bare : ∀ other tail,
              rest = '+' :: '\x7b' :: other ++ '\x7d' :: tail → ¬ IsName other
            · rw [List.cons_append, resolve_dollar groups bare,
                resolve_dollar groups (bare_append_placeholder bare name right),
                induction rest.length (by simp) rest rfl, List.cons_append]
            · obtain ⟨other, tail, rfl, named⟩ : ∃ other tail,
                  rest = '+' :: '\x7b' :: other ++ '\x7d' :: tail ∧
                    IsName other := by
                by_contra none
                exact bare fun other tail whole named =>
                  none ⟨other, tail, whole, named⟩
              have alone := resolve_placeholder groups named tail
              have here :=
                resolve_placeholder groups named
                  (tail ++ (placeholder name ++ right))
              have further := induction tail.length (by simp; omega) tail rfl
              simp only [List.cons_append, List.append_assoc] at alone here ⊢
              rw [here, alone, further, List.append_assoc]
          · rw [List.cons_append, resolve_of_ne groups dollar,
              resolve_of_ne groups dollar,
              induction rest.length (by simp) rest rfl, List.cons_append]

end Resolve

theorem named?_ofSlots (input : Text) (spans : List (Option Span))
    (groups : GroupIndex) (name : Text) :
    (Match.ofSlots input spans groups).named? name =
      (groups.named? name).bind (Match.slotText input spans) := by
  rw [Match.named?, Match.ofSlots, OrderedMap.get?_mapValues, GroupIndex.named?]
  cases groups.get? (.name name) <;> rfl

/-- What a placeholder is resolved to stands for the text of its group. -/
theorem expand_resolved_append {groups : GroupIndex} {name : Text}
    (fits : ∀ slot, groups.named? name = some slot → slot < Text.wordLimit)
    (input : Text) (spans : List (Option Span)) (right : Text) :
    expand (resolved groups name ++ right) (Match.ofSlots input spans groups) =
      ((Match.ofSlots input spans groups).named? name).getD [] ++
        expand right (Match.ofSlots input spans groups) := by
  rw [resolved, named?_ofSlots]
  cases known : groups.named? name with
  | none => rfl
  | some slot =>
      have token :
          slotToken slot ++ right = bracedToken (Text.decimal slot) ++ right :=
        rfl
      have value := Text.ofDigitChars_decimal slot
      have bound :
          Nat.ofDigitChars 10 (Text.decimal slot) 0 < Text.wordLimit := by
        rw [value]
        exact fits slot known
      rw [token,
        expand_bracedToken_of_lt (Text.decimal_ne_nil slot)
          (Text.all_isDigit_decimal slot) bound, value]
      rfl

/-- A placeholder of a valid name contributes the text of its group, or nothing
if the name is unknown or the group took no part, and leaves what stands around
it alone, exactly if no token comes about where what it is resolved to meets
what is in front of it: otherwise all matches of the empty text are replaced by
something else.  The token for a group only ever meets a dollar sign. -/
theorem expandOnce_append_placeholder (groups : GroupIndex) {name : Text}
    (valid : IsName name)
    (fits : ∀ slot, groups.named? name = some slot → slot < Text.wordLimit)
    (left right : Text) (slots : Nat) :
    (¬ Crosses slots (resolve groups left)
        (resolved groups name ++ resolve groups right) →
      ∀ (input : Text) (spans : List (Option Span)), spans.length = slots →
        Replacer.expandOnce (left ++ (placeholder name ++ right))
            (.ofSlots input spans groups) groups =
          Replacer.expandOnce left (.ofSlots input spans groups) groups ++
            (((Match.ofSlots input spans groups).named? name).getD [] ++
              Replacer.expandOnce right (.ofSlots input spans groups) groups)) ∧
      (Crosses slots (resolve groups left)
          (resolved groups name ++ resolve groups right) →
        ∀ spans : List (Option Span), spans.length = slots →
          Replacer.expandOnce (left ++ (placeholder name ++ right))
              (.ofSlots [] spans groups) groups ≠
            Replacer.expandOnce left (.ofSlots [] spans groups) groups ++
              (((Match.ofSlots [] spans groups).named? name).getD [] ++
                Replacer.expandOnce right (.ofSlots [] spans groups) groups)) ∧
      (groups.hasName name →
        (Crosses slots (resolve groups left)
            (resolved groups name ++ resolve groups right) ↔
          leavesDollar false (resolve groups left) = true)) := by
  simp only [Replacer.expandOnce, resolve_append_placeholder groups valid,
    ← expand_resolved_append fits]
  refine ⟨?_, ?_, ?_⟩
  · intro apart input spans length
    subst length
    exact expand_append apart
  · intro crosses spans length
    subst length
    exact expand_append_ne rfl crosses
  · intro known
    obtain ⟨slot, indexed⟩ := Option.isSome_iff_exists.mp known
    rw [resolved, indexed]
    exact crosses_brace_iff

def singleIndex : GroupIndex := (∅ : GroupIndex).insert (.name ['n']) 1

/-- A digit behind a placeholder that goes belongs to the number in front of it
if there are that many groups.  A pair of dollar signs in front of a placeholder
is no harm. -/
theorem expandOnce_append_placeholder_digits :
    (∀ (input : Text) (spans : List (Option Span)), spans.length = 2 →
      Replacer.expandOnce (['$', '1'] ++ (placeholder ['x'] ++ ['0']))
          (.ofSlots input spans singleIndex) singleIndex =
        Replacer.expandOnce ['$', '1'] (.ofSlots input spans singleIndex)
            singleIndex ++
          (((Match.ofSlots input spans singleIndex).named? ['x']).getD [] ++
            Replacer.expandOnce ['0'] (.ofSlots input spans singleIndex)
              singleIndex)) ∧
      (∀ spans : List (Option Span), spans.length = 11 →
        Replacer.expandOnce (['$', '1'] ++ (placeholder ['x'] ++ ['0']))
            (.ofSlots [] spans singleIndex) singleIndex ≠
          Replacer.expandOnce ['$', '1'] (.ofSlots [] spans singleIndex)
              singleIndex ++
            (((Match.ofSlots [] spans singleIndex).named? ['x']).getD [] ++
              Replacer.expandOnce ['0'] (.ofSlots [] spans singleIndex)
                singleIndex)) ∧
      ∀ (input : Text) (spans : List (Option Span)), spans.length = 2 →
        Replacer.expandOnce (['$', '$'] ++ (placeholder ['n'] ++ ['0']))
            (.ofSlots input spans singleIndex) singleIndex =
          Replacer.expandOnce ['$', '$'] (.ofSlots input spans singleIndex)
              singleIndex ++
            (((Match.ofSlots input spans singleIndex).named? ['n']).getD [] ++
              Replacer.expandOnce ['0'] (.ofSlots input spans singleIndex)
                singleIndex) := by
  have unknown :
      ∀ slot, singleIndex.named? ['x'] = some slot → slot < Text.wordLimit := by
    intro slot known
    cases known
  have fits :
      ∀ slot, singleIndex.named? ['n'] = some slot → slot < Text.wordLimit := by
    intro slot known
    cases known
    decide
  have validX : IsName ['x'] := by decide
  have validN : IsName ['n'] := by decide
  have digits :=
    expandOnce_append_placeholder singleIndex validX unknown ['$', '1'] ['0']
  have number : resolve singleIndex ['$', '1'] = ['$', '1'] := by simp [resolve]
  have gone : resolved singleIndex ['x'] = [] := rfl
  have digit :
      resolved singleIndex ['x'] ++ resolve singleIndex ['0'] = ['0'] := by
    simp [gone, resolve]
  rw [number, digit] at digits
  refine ⟨(digits 2).1 ?_, (digits 11).2.1 ?_, ?_⟩
  · rintro ⟨before, opened, closed, part, whole, -, spells, filled, leads⟩
    obtain ⟨rfl, rfl⟩ : before = [] ∧ opened = ['1'] := by
      rcases before with _ | ⟨first, _ | ⟨second, before⟩⟩
      · simpa [eq_comm] using whole
      · simp at whole
      · simp at whole
    obtain ⟨last, others, rfl⟩ := List.exists_cons_of_ne_nil filled
    obtain ⟨rfl, rfl⟩ : last = '0' ∧ others = [] := by simpa using leads
    cases spells with
    | twoDigits _ _ _ bound => exact absurd bound (by decide)
  · exact ⟨[], ['1'], ['0'], _, rfl, rfl,
      .twoDigits (by decide) (by decide) (by decide) (by decide), by simp,
      by simp⟩
  · have pair :=
      expandOnce_append_placeholder singleIndex validN fits ['$', '$'] ['0'] 2
    have dollars : resolve singleIndex ['$', '$'] = ['$', '$'] := by
      simp [resolve]
    apply pair.1
    rw [pair.2.2 rfl, dollars]
    decide

/-- An unknown placeholder goes between the parts of a token, and a pair of
dollar signs comes about in front of the token for a group. -/
theorem expandOnce_placeholder_joined :
    IsName ['x'] ∧ IsName ['n'] ∧
      (NamedRegex.compile Engine.builtIn
        (.text ['(', '?', '<', 'n', '>', 'a', ')']) none).toOption.bind
          (fun regex =>
            (regex.searchFrom ['a'] 0).toOption.join.map fun found =>
              (Replacer.expandOnce
                (['$', '\x7b'] ++ (placeholder ['x'] ++ ['1', '\x7d'])) found
                regex.groups,
                Replacer.expandOnce ['$', '\x7b'] found regex.groups ++
                  ((found.named? ['x']).getD [] ++
                    Replacer.expandOnce ['1', '\x7d'] found regex.groups),
                Replacer.expandOnce
                  ('$' :: placeholder ['x'] ++ (placeholder ['n'] ++ [])) found
                  regex.groups,
                Replacer.expandOnce ('$' :: placeholder ['x']) found
                    regex.groups ++
                  ((found.named? ['n']).getD [] ++
                    Replacer.expandOnce [] found regex.groups))) =
        some (['a'], ['$', '\x7b', '1', '\x7d'], ['$', '\x7b', '1', '\x7d'],
          ['$', 'a']) := by
  decide +kernel

end NamedGroups.Template
