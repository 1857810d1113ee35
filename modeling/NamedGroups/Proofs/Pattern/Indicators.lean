import NamedGroups.Proofs.Flags.LetterSets
import NamedGroups.Proofs.NamedRegex.Compilation

/-!
# Indicators and flags texts of patterns

A pattern says twice which of the flags `i`, `m` and `g` it has: by an
indicator, and by a letter in its flags text.  A handle passes both on.  A
pattern that might have been absent passes on the flags text alone, and its
indicators are false, so the two agree there only if the flags text has none of
the letters.  A regular expression that is compiled from such a pattern has
indicators again for all the letters.
-/

namespace NamedGroups

/-- The flags that a pattern has indicators for. -/
inductive Indicator where
  | caseInsensitive
  | multiLine
  | global
deriving DecidableEq

def Indicator.letter : Indicator → Char
  | .caseInsensitive => 'i'
  | .multiLine => 'm'
  | .global => 'g'

namespace Pattern

variable {engine : RegexEngine}

def indicates (pattern : Pattern engine) : Indicator → Bool
  | .caseInsensitive => pattern.caseInsensitive
  | .multiLine => pattern.multiLine
  | .global => pattern.global

/-- Whether the indicators of a pattern say the same as its flags text. -/
def Agrees (pattern : Pattern engine) : Prop :=
  ∀ indicator : Indicator,
    indicator.letter ∈ pattern.flags ↔ pattern.indicates indicator = true

def isOptional : Pattern engine → Bool
  | present _ => true
  | shared pattern => pattern.isOptional
  | _ => false

/-- The letters that are derived from indicators are those of the indicators
that are true. -/
theorem mem_indicatorLetters_iff (pattern : Pattern engine)
    (indicator : Indicator) :
    indicator.letter ∈
        indicatorLetters pattern.caseInsensitive pattern.multiLine
          pattern.global ↔
      pattern.indicates indicator = true := by
  cases indicator <;>
    simp [indicatorLetters, Flags.mem_letter_iff, Indicator.letter, indicates]

theorem agrees_named (regex : NamedRegex engine) : (named regex).Agrees := by
  intro indicator
  cases indicator <;>
    simp [flags, Flags.mem_text_iff, Indicator.letter, indicates,
      caseInsensitive, multiLine, global]

/-- An indicator is true if its letter is in the flags text, unless the pattern
might have been absent. -/
theorem indicates_iff (pattern : Pattern engine) (indicator : Indicator) :
    pattern.indicates indicator = true ↔
      indicator.letter ∈ pattern.flags ∧ pattern.isOptional = false := by
  induction pattern with
  | text _ | compiled _ | absent =>
      cases indicator <;>
        simp [indicates, flags, caseInsensitive, multiLine, global]
  | indicated source caseInsensitive multiLine global =>
      rw [← mem_indicatorLetters_iff]
      exact (and_iff_left rfl).symm
  | named regex =>
      rw [← agrees_named regex indicator]
      exact (and_iff_left rfl).symm
  | present _ _ =>
      cases indicator <;>
        simp [indicates, isOptional, caseInsensitive, multiLine, global]
  | shared pattern induction =>
      have forwarded :
          (shared pattern).indicates indicator =
            pattern.indicates indicator := by
        cases indicator <;> rfl
      rw [forwarded]
      exact induction

/-- Compiling a pattern gives a regular expression with the same letters. -/
theorem mem_flags_named_iff {pattern : Pattern engine}
    {regex : NamedRegex engine}
    (compiled : NamedRegex.compile engine pattern none = .ok regex)
    (letter : Char) :
    letter ∈ (named regex).flags ↔ letter ∈ pattern.flags := by
  have parsed : Flags.parse? pattern.flags = some regex.flags :=
    (NamedRegex.compile_eq_ok_iff.mp compiled).flags
  exact (Flags.parse?_eq_some_iff.mp parsed).mem_iff.symm

/-- The indicators of a pattern say what its flags text says, up to those of a
pattern that might have been absent, which are false whatever its flags text is.
Compiled once more, every pattern has indicators that say what its flags text
said. -/
theorem agrees_iff (pattern : Pattern engine) :
    (∀ indicator : Indicator, pattern.indicates indicator = true ↔
      indicator.letter ∈ pattern.flags ∧ pattern.isOptional = false) ∧
      (pattern.Agrees ↔
        pattern.isOptional = false ∨
          ∀ indicator : Indicator, indicator.letter ∉ pattern.flags) ∧
      ∀ regex, NamedRegex.compile engine pattern none = .ok regex →
        (named regex).Agrees ∧
          ∀ indicator : Indicator, (named regex).indicates indicator = true ↔
            indicator.letter ∈ pattern.flags := by
  refine ⟨indicates_iff pattern, ?_, ?_⟩
  · cases optional : pattern.isOptional with
    | false => simp [Agrees, indicates_iff, optional]
    | true => simp [Agrees, indicates_iff, optional]
  · intro regex compiled
    refine ⟨agrees_named regex, ?_⟩
    intro indicator
    rw [← mem_flags_named_iff compiled]
    exact (agrees_named regex indicator).symm

theorem exists_foo :
    ∃ regex : NamedRegex Engine.builtIn,
      NamedRegex.compile Engine.builtIn (.text ['f', 'o', 'o']) (some ['i']) =
          .ok regex ∧
        (named regex).flags = ['i'] := by
  obtain ⟨regex, compiled, checked⟩ :=
    NamedRegex.exists_of_checked Engine.builtIn (.text ['f', 'o', 'o'])
      (some ['i']) (fun regex => regex.flags.text = ['i']) (by decide +kernel)
  exact ⟨regex, compiled, of_decide_eq_true checked⟩

/-- `/foo/i` that might have been absent has the letter but not the indicator,
and is compiled to a regular expression that has both. -/
theorem agrees_iff_optional : ∃ regex : NamedRegex Engine.builtIn,
    (shared (present (named regex))).flags = ['i'] ∧
      (shared (present (named regex))).indicates .caseInsensitive = false ∧
      NamedRegex.compile Engine.builtIn (shared (present (named regex))) none =
        .ok regex ∧
      (named regex).indicates .caseInsensitive = true := by
  obtain ⟨regex, compiled, flags⟩ := exists_foo
  have built := NamedRegex.compile_eq_ok_iff.mp compiled
  have again : NamedRegex.compile Engine.builtIn
      (shared (present (named regex))) none = .ok regex := by
    have unwrapped :
        NamedRegex.compile Engine.builtIn (named regex) none = .ok regex :=
      built.compile_unflagged rfl
    rw [← unwrapped]
    apply NamedRegex.compile_congr
    · rfl
    · rfl
  obtain ⟨indicates, -, compiles⟩ := agrees_iff (shared (present (named regex)))
  refine ⟨regex, flags, ?_, again, ?_⟩
  · rw [← Bool.not_eq_true, indicates]
    simp [isOptional]
  · rw [(compiles regex again).2]
    have letter : 'i' ∈ (named regex).flags := by simp [flags]
    exact letter

/-- A pattern that might have been absent can be case-insensitive without
indicating it. -/
theorem not_agrees_present :
    ∃ regex : NamedRegex Engine.builtIn,
      NamedRegex.compile Engine.builtIn (.text ['f', 'o', 'o']) (some ['i']) =
          .ok regex ∧
        ¬ (present (named regex)).Agrees := by
  obtain ⟨regex, compiled, flags⟩ := exists_foo
  refine ⟨regex, compiled, ?_⟩
  intro agrees
  have letter : 'i' ∈ (present (named regex)).flags := by
    rw [show (present (named regex)).flags = ['i'] from flags]
    exact List.mem_singleton.mpr rfl
  have indicated := (agrees .caseInsensitive).mp letter
  cases indicated

end Pattern

end NamedGroups
