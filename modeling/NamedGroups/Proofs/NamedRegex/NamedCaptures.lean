import NamedGroups.Proofs.NamedRegex.SuccessiveMatches
import NamedGroups.Proofs.Template.Placeholders
import NamedGroups.Proofs.Tracker.Recording

/-!
# Ways to a named group

The text of a named group can be asked for by its name, read from the groups of
the match, looked up by the number that the index has for the name, or written
by a template with a placeholder of the name.  All of them come to the same.  A
template takes the longest way: the number is written into a token, and read
back from there.
-/

namespace NamedGroups

open Fragment GroupSyntax

namespace Text

private theorem length_le_byteSize (text : Text) :
    text.length ≤ text.byteSize := by
  induction text with
  | nil => exact Nat.le_refl 0
  | cons character rest induction =>
      have := character.utf8Size_pos
      rw [List.length_cons, byteSize_cons]
      omega

end Text

namespace Fragment

private theorem length_openedTexts_le (fragments : List Fragment) :
    (openedTexts fragments).length ≤ (renderAll fragments).length := by
  fun_induction openedTexts fragments with
  | case1 text fragments induction =>
      simp only [List.length_cons, renderAll_cons, List.length_append, render]
      omega
  | case2 fragment fragments _ induction =>
      simp only [renderAll_cons, List.length_append]
      omega
  | case3 => exact Nat.le_refl 0

end Fragment

namespace Positional

open Tracker

/-- The numbers of the index go from one to the number of capture groups. -/
theorem named?_bounds {pattern name : Text} {slot : Nat}
    (known : (ofPattern pattern).groups.named? name = some slot) :
    1 ≤ slot ∧ slot ≤ (captureTexts (split pattern)).length := by
  have numbered := (counts_ofPattern pattern).1.captures
  have listed : slot ∈ List.range' 1 (ofPattern pattern).captures := by
    rw [ofPattern, ← numbered]
    exact OrderedMap.value_mem_of_get? known
  rw [captures_ofPattern, List.mem_range'_1] at listed
  omega

/-- A pattern of this size has an index with no larger numbers. -/
theorem named?_le_byteSize {pattern name : Text} {slot : Nat}
    (known : (ofPattern pattern).groups.named? name = some slot) :
    slot ≤ pattern.byteSize :=
  calc
    slot ≤ (captureTexts (split pattern)).length := (named?_bounds known).2
    _ ≤ (openedTexts (split pattern)).length := List.length_filter_le _ _
    _ ≤ (renderAll (split pattern)).length := length_openedTexts_le _
    _ = pattern.length := by rw [renderAll_split]
    _ ≤ pattern.byteSize := pattern.length_le_byteSize

end Positional

namespace Match

/-- Whether a match has the same text, or none, for a name and for a slot. -/
structure SameText (found : Match) (name : Text) (slot : Nat) : Prop where
  named : found.named? name = found.get? slot
  /-- The entry is there also where the group took no part. -/
  listed : found.groups.get? (.name name) = some (found.get? slot)

theorem sameText_ofSlots {groups : GroupIndex} {name : Text} {slot : Nat}
    (known : groups.named? name = some slot) (input : Text)
    (spans : List (Option Span)) :
    (ofSlots input spans groups).SameText name slot := by
  constructor
  · rw [Template.named?_ofSlots, known]
    rfl
  · have indexed : groups.get? (.name name) = some slot := known
    rw [ofSlots, OrderedMap.get?_mapValues, indexed]
    rfl

end Match

namespace Replacement

variable {m : Type → Type} [Monad m]

/-- What is written for the matches that are found is all that counts. -/
theorem startingAt_congr {find : Finder} {render other : Match → m Text}
    (same : ∀ offset found,
      find offset = .ok (some found) → render found = other found)
    (everywhere : Bool) (text : Text) (last offset : Nat) :
    startingAt find render everywhere text last offset =
      startingAt find other everywhere text last offset := by
  induction left : text.byteSize + 1 - offset using Nat.strongRecOn
    generalizing offset last with
  | ind left induction =>
      subst left
      by_cases inside : offset ≤ text.byteSize
      · rw [startingAt, startingAt, dif_pos inside, dif_pos inside]
        rcases answered : find offset with problem | _ | found
        · rfl
        · rfl
        · simp only [same offset found answered]
          refine bind_congr fun inserted => ?_
          by_cases ahead : everywhere = true ∧ offset < found.resumeOffset text
          · have further :=
              induction (text.byteSize + 1 - found.resumeOffset text) (by omega)
                found.stop (found.resumeOffset text) rfl
            simp only [dif_pos ahead, further]
          · simp only [dif_neg ahead]
      · rw [startingAt, startingAt, dif_neg inside, dif_neg inside]

end Replacement

namespace Template

/-- The template that is one placeholder stands for the text of the group. -/
theorem expandOnce_placeholder {groups : GroupIndex} {name : Text}
    (valid : IsName name)
    (fits : ∀ slot, groups.named? name = some slot → slot < Text.wordLimit)
    (input : Text) (spans : List (Option Span)) :
    Replacer.expandOnce (placeholder name) (.ofSlots input spans groups)
        groups = ((Match.ofSlots input spans groups).named? name).getD [] := by
  have resolves := resolve_append_placeholder groups valid [] []
  have expands := expand_resolved_append fits input spans []
  have empty : resolve groups [] = [] := by rw [resolve]
  simp only [List.nil_append, List.append_nil, empty] at resolves
  rw [Replacer.expandOnce, resolves]
  simpa [expand, tokens] using expands

end Template

namespace NamedRegex

open Replacement

/-- For a name of the index of any pattern, a match has the same text under the
name, in its list of groups, and in the slot that the index has for the name.
And whatever an engine answers to searches, replacing by the placeholder of the
name is the same as replacing by a function that asks for the name, with the
flag `g` and without.  The bound holds of every pattern, since its size in bytes
is a machine word.  `NamedRegex.searchFrom` and `NamedRegex.replace` are these
for the searches of their own engine. -/
theorem named_routes_agree {pattern name : Text} {slot : Nat}
    (known : (Positional.ofPattern pattern).groups.named? name = some slot) :
    (∀ input spans,
      (Match.ofSlots input spans (Positional.ofPattern pattern).groups).SameText
        name slot) ∧
      (∀ (searches : Searches) text offset found,
        Finder.ofSearches searches text (Positional.ofPattern pattern).groups
              offset = .ok (some found) →
          found.SameText name slot) ∧
      (pattern.byteSize < Text.wordLimit →
        ∀ (searches : Searches) (everywhere : Bool) (text : Text)
          {m : Type → Type} [Monad m] [LawfulMonad m],
          Replacement.replace (m := m)
              (.ofSearches searches text (Positional.ofPattern pattern).groups)
              (Positional.ofPattern pattern).groups everywhere text
              (.ofTemplate (Template.placeholder name)) =
            Replacement.replace
              (.ofSearches searches text (Positional.ofPattern pattern).groups)
              (Positional.ofPattern pattern).groups everywhere text
              (.ofFunction fun found _ =>
                pure ((found.named? name).getD []))) := by
  refine ⟨Match.sameText_ofSlots known, ?_, ?_⟩
  · intro searches text offset found matched
    obtain ⟨spans, -, rfl⟩ := Finder.ofSearches_eq_some matched
    exact Match.sameText_ofSlots known text spans
  · intro addressable searches everywhere text m _ _
    have valid : IsName name :=
      Positional.isName_of_hasName (Option.isSome_iff_exists.mpr ⟨slot, known⟩)
    have fits : ∀ other,
        (Positional.ofPattern pattern).groups.named? name = some other →
          other < Text.wordLimit := by
      intro other isOther
      rw [known] at isOther
      cases isOther
      exact Nat.lt_of_le_of_lt (Positional.named?_le_byteSize known) addressable
    simp only [Replacement.replace, Replacer.ofTemplate, Replacer.ofFunction,
      pure_bind]
    apply startingAt_congr
    intro offset found matched
    obtain ⟨spans, -, rfl⟩ := Finder.ofSearches_eq_some matched
    have expands := Template.expandOnce_placeholder valid fits text spans
    exact congrArg pure expands

/-- The group takes part in the second match only. -/
theorem named_routes_agree_alternatives : ∃ regex,
    compile Engine.builtIn
        (.text ['b', '|', '(', '?', '<', 'n', '>', 'a', ')']) (some ['g']) =
        .ok regex ∧
      regex.groups.named? ['n'] = some 1 ∧
      (∀ text offset found, regex.searchFrom text offset = .ok (some found) →
        found.SameText ['n'] 1) ∧
      regex.replace (m := Id) ['b', 'a', 'c']
          (.ofFunction fun found _ => (found.named? ['n']).getD []) =
        .ok ⟨['a', 'c'], 2⟩ := by
  obtain ⟨regex, compiled, checked⟩ := exists_of_checked Engine.builtIn
    (.text ['b', '|', '(', '?', '<', 'n', '>', 'a', ')']) (some ['g'])
    (fun regex => decide (regex.groups.named? ['n'] = some 1) &&
      regex.flags.global &&
      decide (Except.toOption (regex.replace (m := Id) ['b', 'a', 'c']
        (.ofTemplate (Template.placeholder ['n']))) = some ⟨['a', 'c'], 2⟩))
    (by decide +kernel)
  simp only [Bool.and_eq_true, decide_eq_true_eq] at checked
  obtain ⟨⟨known, everywhere⟩, templated⟩ := checked
  have groups := (compile_eq_ok_iff.mp compiled).groups
  have indexed := known
  rw [groups] at indexed
  obtain ⟨-, texts, replaces⟩ := named_routes_agree indexed
  refine ⟨regex, compiled, known, ?_, ?_⟩
  · intro text offset found matched
    rw [searchFrom, groups] at matched
    exact texts _ text offset found matched
  · have same := replaces (by decide +kernel) (regex.searches ['b', 'a', 'c'])
      true ['b', 'a', 'c'] (m := Id)
    have done := eq_ok_of_toOption templated
    rw [NamedRegex.replace, searchFrom, everywhere, groups] at done ⊢
    exact same.symm.trans done

end NamedRegex

end NamedGroups
