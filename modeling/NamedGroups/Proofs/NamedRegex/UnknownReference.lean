import NamedGroups.Proofs.Engine.DroppedGroup
import NamedGroups.Proofs.Engine.Slots
import NamedGroups.Proofs.NamedRegex.Transparency

/-!
# References to unknown names

A reference to a name without a source stands for `()`, which is deleted before
the engine sees the pattern.  What stood behind it then follows on what stood in
front.  It behaves as an empty group for those engines and patterns where the
deletion makes no difference; but a quantifier, for one, finds another part to
repeat.
-/

namespace NamedGroups

open Fragment GroupSyntax

/-- Deleting the only `()` of a pattern joins what is around it. -/
theorem removeEmptyGroups_between {front back : Text}
    (complete : front.isComplete) (frontFilled : ¬ HasEmptyGroup (split front))
    (backFilled : ¬ HasEmptyGroup (split back)) :
    removeEmptyGroups (front ++ '(' :: ')' :: back) = front ++ back := by
  rw [removeEmptyGroups_append complete (by simp), removeEmptyGroups,
    removeEmptyGroups_eq_self frontFilled, removeEmptyGroups_eq_self backFilled]

/-- Whether two compiled patterns find the same span in every text. -/
def RegexEngine.SameSpans (engine : RegexEngine)
    (native other : engine.Regex) : Prop :=
  ∀ text, (engine.search native text 0).map (Option.map List.head?) =
    (engine.search other text 0).map (Option.map List.head?)

namespace Engine

private theorem map_mapError {ε δ α β : Type} (result : Except ε α)
    (rename : ε → δ) (read : α → β) :
    (result.mapError rename).map read = (result.map read).mapError rename := by
  cases result <;> rfl

/-- The built-in engine finds the same spans without an empty group where it
reads nothing else differently and has no need to go back. -/
theorem builtIn_dropGroup {pattern : Text} {native : Regex}
    (accepted : builtIn.compile pattern = .ok native) (other : Text)
    (whole : Parsed) (dropped : Nat) (reads : parse pattern = .ok whole)
    (soft : whole.IsSoft)
    (readsOther : parse other = .ok (whole.dropGroup dropped)) :
    ∃ lighter : Regex, builtIn.compile other = .ok lighter ∧
      builtIn.SameSpans lighter native := by
  obtain ⟨lighter, compiled, finds⟩ := Regex.search_dropGroup reads soft
    (mapError_eq_ok.mp accepted) readsOther
  refine ⟨lighter, mapError_eq_ok.mpr compiled, fun text => ?_⟩
  simp only [builtIn, map_mapError, finds]

end Engine

namespace NamedRegex

variable {engine : RegexEngine}

/-- Whether a pattern is accepted, and its first match in every text has the
span that the engine finds. -/
def FindsAs (pattern : Text) (native : engine.Regex) : Prop :=
  ∃ regex, compile engine (.text pattern) none = .ok regex ∧
    ∀ text, (regex.exec text).map (Option.map fun found => found.slots.head?) =
      (engine.search native text 0).map (Option.map List.head?)

/-- A regular expression finds what the engine finds with its source. -/
theorem findsAs_iff {pattern : Text} {native : engine.Regex} :
    FindsAs pattern native ↔
      ∃ lighter,
        engine.compile (Positional.ofPattern pattern).source = .ok lighter ∧
          engine.SameSpans lighter native := by
  have spans : ∀ (regex : NamedRegex engine) (text : Text),
      (regex.exec text).map (Option.map fun found => found.slots.head?) =
        (engine.search regex.matcher text 0).map (Option.map List.head?) := by
    intro regex text
    rw [← slots_exec]
    rcases regex.exec text with error | _ | found <;> rfl
  constructor
  · rintro ⟨regex, compiled, finds⟩
    have built := compile_eq_ok_iff.mp compiled
    have unflagged : some Flags.empty = some regex.flags := built.flags
    have accepted := built.matcher
    rw [← Option.some.inj unflagged, built.source] at accepted
    exact ⟨regex.matcher, accepted, fun text => by rw [← spans, finds]⟩
  · rintro ⟨lighter, accepted, same⟩
    obtain ⟨regex, compiled, rfl⟩ := exists_of_compile_source accepted
    exact ⟨regex, compiled, fun text => by rw [spans, same]⟩

/-- A reference to an unknown name compiles as `()` does, which is as nothing at
all.  It behaves as an empty group exactly if the engine accepts the pattern
without the `()` and finds the same spans with it. -/
theorem search_unknown_reference (front back name : Text)
    (complete : front.isComplete) (valid : IsName name)
    (unknown : (Positional.ofPattern front).named.get? name = none) :
    (compile engine
      (.text (front ++ '(' :: '?' :: '&' :: (name ++ ')' :: back))) none).map
          NamedRegex.matcher =
        (engine.compile (Positional.ofPattern (front ++ '(' :: ')' ::
          back)).source).mapError (.rejected (Positional.ofPattern (front ++
            '(' :: ')' :: back)).source) ∧
      ((∀ text ∈ openedTexts (Fragment.split (front ++ '(' :: ')' :: back)),
        header? text = none ∧ reference? text = none) →
        ¬ HasEmptyGroup (Fragment.split front) →
        ¬ HasEmptyGroup (Fragment.split back) →
        (Positional.ofPattern (front ++ '(' :: ')' :: back)).source =
          front ++ back) ∧
      ∀ native : engine.Regex,
        FindsAs (front ++ '(' :: '?' :: '&' :: (name ++ ')' :: back)) native ↔
          ∃ lighter,
            engine.compile (Positional.ofPattern (front ++ '(' :: ')' ::
              back)).source = .ok lighter ∧
              engine.SameSpans lighter native := by
  have emptied :=
    Positional.ofPattern_unknown_reference complete valid unknown back
  refine ⟨?_, ?_, ?_⟩
  · rw [compile_text_matcher, emptied]
  · intro nameless frontFilled backFilled
    rw [Positional.source_of_nameless nameless]
    exact removeEmptyGroups_between complete frontFilled backFilled
  · intro native
    rw [findsAs_iff, emptied]

/-- A reference between two parts, none of which looks at its neighbours. -/
theorem search_unknown_reference_between : ∃ native : Engine.builtIn.Regex,
    Engine.builtIn.compile ['(', 'a', ')', '+', '(', ')', 'b', '?'] =
        .ok native ∧
      FindsAs ['(', 'a', ')', '+', '(', '?', '&', 'n', ')', 'b', '?']
        native := by
  have accepts : (Engine.builtIn.compile
      ['(', 'a', ')', '+', '(', ')', 'b', '?']).toOption.isSome := by
    decide +kernel
  cases accepted :
      Engine.builtIn.compile ['(', 'a', ')', '+', '(', ')', 'b', '?'] with
  | error problem =>
      rw [accepted] at accepts
      cases accepts
  | ok native =>
      have source : (Positional.ofPattern
          (['(', 'a', ')', '+'] ++ '(' :: ')' :: ['b', '?'])).source =
            ['(', 'a', ')', '+', 'b', '?'] := by decide
      obtain ⟨lighter, handed, same⟩ := Engine.builtIn_dropGroup accepted
        ['(', 'a', ')', '+', 'b', '?']
        ⟨.concat [.repetition (.group 1 (.literal 'a')) 1 none true,
          .group 2 .empty, .repetition (.literal 'b') 0 (some 1) true], 2, []⟩
        2 (by with_unfolding_all rfl) (by decide) (by with_unfolding_all rfl)
      refine ⟨native, rfl, ?_⟩
      exact ((search_unknown_reference ['(', 'a', ')', '+'] ['b', '?'] ['n']
        (by decide) (by decide) (by decide)).2.2 native).mpr
          ⟨lighter, by rw [source]; exact handed, same⟩

/-- A quantifier behind the reference repeats what stands in front of it. -/
theorem search_unknown_reference_quantified :
    IsName ['n'] ∧ (Positional.ofPattern ['x']).named.get? ['n'] = none ∧
    (Engine.builtIn.compile ['x', '(', ')', '*']).toOption.map (fun native =>
      (Engine.builtIn.search native ['x', 'x', 'x'] 0).map
        (Option.map List.head?)) = some (.ok (some (some (some ⟨0, 1⟩)))) ∧
    (compile Engine.builtIn
      (.text ['x', '(', '?', '&', 'n', ')', '*']) none).toOption.map
        (fun regex => (regex.source,
          (regex.exec ['x', 'x', 'x']).map (Option.map fun found =>
            found.slots.head?))) =
      some (['x', '*'], .ok (some (some (some ⟨0, 3⟩)))) := by
  decide +kernel

end NamedRegex

end NamedGroups
