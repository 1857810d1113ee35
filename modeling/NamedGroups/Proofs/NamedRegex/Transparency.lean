import NamedGroups.Proofs.Engine.Slots
import NamedGroups.Proofs.NamedRegex.Compilation
import NamedGroups.Proofs.NamedRegex.SuccessiveMatches
import NamedGroups.Proofs.Tracker.Inlining

/-!
# Patterns without names

A pattern without headers and references comes out of the pass as it went in,
and what the engine compiles is that pattern without its `()`.  The pass knows
no character classes, so a `()` in a class goes too.  Where there is none at
all, a regular expression finds what the engine finds with the pattern itself,
whatever the engine.
-/

namespace NamedGroups

open Fragment GroupSyntax

namespace Tracker

/-- Nameless fragments are written as they stand, whatever they open and
close. -/
theorem output_run_nameless {fragments : List Fragment} (cut : Cut fragments)
    (tracker : Tracker) (opened : Bool)
    (nameless :
      ∀ text ∈ openedTexts (behind opened fragments), IsNameless text) :
    (tracker.run opened fragments).output =
      tracker.output ++ renderAll fragments := by
  have output_addOrdinals : ∀ (tracker : Tracker) (count : Nat),
      (tracker.addOrdinals count).output = tracker.output := by
    intro tracker count
    exact (alike_addOrdinals tracker count 0).output
  induction cut generalizing tracker opened with
  | @last text solid =>
      have start : opened = true → IsNameless text :=
        fun isOpened => nameless text (mem_openedTexts_behind isOpened _ _)
      rw [run_last, read_nameless start, output_emit, output_addOrdinals]
      simp [render]
  | @opening text fragments solid complete _ induction =>
      have start : opened = true → IsNameless text :=
        fun isOpened => nameless text (mem_openedTexts_behind isOpened _ _)
      rw [openedTexts_behind_opening, List.forall_mem_append] at nameless
      rw [run_opening, read_nameless start, induction _ true nameless.2,
        output_openGroup, output_emit, output_addOrdinals]
      simp [render]
  | @closing text fragments solid complete _ induction =>
      have start : opened = true → IsNameless text :=
        fun isOpened => nameless text (mem_openedTexts_behind isOpened _ _)
      rw [openedTexts_behind_closing, List.forall_mem_append] at nameless
      rw [run_closing, read_nameless start, induction _ false nameless.2,
        output_closeGroup, output_emit, output_addOrdinals]
      simp [render]

end Tracker

/-- A pattern without headers and references only loses its `()`. -/
theorem Positional.source_of_nameless {pattern : Text}
    (nameless : ∀ text ∈ openedTexts (split pattern), Tracker.IsNameless text) :
    (ofPattern pattern).source = removeEmptyGroups pattern := by
  have written :=
    Tracker.output_run_nameless (Cut.of_split pattern) .start false nameless
  rw [renderAll_split] at written
  simp only [ofPattern, written]
  rfl

namespace NamedRegex

variable {engine : RegexEngine}

theorem compile_text_matcher (engine : RegexEngine) (pattern : Text) :
    (compile engine (.text pattern) none).map NamedRegex.matcher =
      (engine.compile (Positional.ofPattern pattern).source).mapError
        (.rejected (Positional.ofPattern pattern).source) := by
  have unflagged : Flags.parse?
      ((Pattern.text pattern : Pattern engine).generate none).flags =
        some .empty := rfl
  have bare : engineText .empty
      ((Pattern.text pattern : Pattern engine).generate none).source =
        (Positional.ofPattern pattern).source := rfl
  simp only [compile, unflagged, bare]
  cases engine.compile (Positional.ofPattern pattern).source <;> rfl

theorem exists_of_compile_source {pattern : Text} {native : engine.Regex}
    (accepted :
      engine.compile (Positional.ofPattern pattern).source = .ok native) :
    ∃ regex, compile engine (.text pattern) none = .ok regex ∧
      regex.matcher = native := by
  have compiled := compile_text_matcher engine pattern
  rw [accepted] at compiled
  cases handed : compile engine (.text pattern) none with
  | error problem =>
      rw [handed] at compiled
      cases compiled
  | ok regex =>
      rw [handed] at compiled
      exact ⟨regex, rfl, Except.ok.inj compiled⟩

theorem slots_exec (regex : NamedRegex engine) (text : Text) :
    (regex.exec text).map (Option.map Match.slots) =
      engine.search regex.matcher text 0 := by
  unfold exec searchFrom Finder.ofSearches searches
  rcases engine.search regex.matcher text 0 with error | _ | slots <;> rfl

private theorem get?_of_exec {regex : NamedRegex engine} {text : Text}
    {found : Match} (matched : regex.exec text = .ok (some found))
    (position : Nat) :
    found.get? position =
      (found.slots[position]?).join.map fun span =>
        text.slice span.start span.stop := by
  obtain ⟨slots, -, rfl⟩ := Finder.ofSearches_eq_some matched
  rfl

/-- A pattern without headers and references is compiled without its `()`.  It
is handed on as it is exactly if it has none, and then it finds what the engine
finds with it, slot by slot. -/
theorem transparent_without_names {pattern : Text} {native : engine.Regex}
    (accepted : engine.compile pattern = .ok native)
    (nameless : ∀ text ∈ openedTexts (Fragment.split pattern),
      header? text = none ∧ reference? text = none) :
    (compile engine (.text pattern) none).map NamedRegex.matcher =
        (engine.compile (removeEmptyGroups pattern)).mapError
          (.rejected (removeEmptyGroups pattern)) ∧
      (removeEmptyGroups pattern = pattern ↔
        ¬ HasEmptyGroup (Fragment.split pattern)) ∧
      (¬ HasEmptyGroup (Fragment.split pattern) →
        ∃ regex, compile engine (.text pattern) none = .ok regex ∧
          regex.matcher = native ∧
          ∀ text,
            (regex.exec text).map (Option.map Match.slots) =
                engine.search native text 0 ∧
              ∀ found, regex.exec text = .ok (some found) →
                ∀ position, found.get? position =
                  (found.slots[position]?).join.map fun span =>
                    text.slice span.start span.stop) := by
  have source := Positional.source_of_nameless nameless
  have compiled := compile_text_matcher engine pattern
  rw [source] at compiled
  refine ⟨compiled, removeEmptyGroups_eq_self_iff pattern, ?_⟩
  intro filled
  rw [removeEmptyGroups_eq_self filled] at source
  rw [← source] at accepted
  obtain ⟨regex, handed, same⟩ := exists_of_compile_source accepted
  refine ⟨regex, handed, same, ?_⟩
  intro text
  rw [← same]
  constructor
  · exact slots_exec regex text
  · intro found matched
    exact get?_of_exec matched

/-- A parenthesis in a class does no harm. -/
theorem transparent_bracketed : ∃ native regex,
    Engine.builtIn.compile ['[', ')', '(', ']', '(', 'x', ')', '*'] =
        .ok native ∧
      compile Engine.builtIn
        (.text ['[', ')', '(', ']', '(', 'x', ')', '*']) none = .ok regex ∧
      ∀ text, (regex.exec text).map (Option.map Match.slots) =
        Engine.builtIn.search native text 0 := by
  have accepts : (Engine.builtIn.compile
      ['[', ')', '(', ']', '(', 'x', ')', '*']).toOption.isSome := by
    decide +kernel
  cases accepted :
      Engine.builtIn.compile ['[', ')', '(', ']', '(', 'x', ')', '*'] with
  | error problem =>
      rw [accepted] at accepts
      cases accepts
  | ok native =>
      obtain ⟨regex, handed, -, finds⟩ :=
        (transparent_without_names accepted (by decide)).2.2 (by decide)
      exact ⟨native, regex, rfl, handed, fun text => (finds text).1⟩

/-- A class loses the `()` among its members. -/
theorem not_transparent_class :
    Engine.slotMarks ['[', 'a', '(', ')', ']'] = [false] ∧
    (∀ text ∈ openedTexts (Fragment.split ['[', 'a', '(', ')', ']']),
      header? text = none ∧ reference? text = none) ∧
    (Engine.builtIn.compile ['[', 'a', '(', ')', ']']).toOption.map
      (fun native => Engine.builtIn.search native ['('] 0) =
        some (.ok (some [some ⟨0, 1⟩])) ∧
    (compile Engine.builtIn (.text ['[', 'a', '(', ')', ']']) none).toOption.map
      (fun regex => (regex.source, regex.test ['('])) =
        some (['[', 'a', ']'], .ok false) := by
  decide +kernel

end NamedRegex

end NamedGroups
