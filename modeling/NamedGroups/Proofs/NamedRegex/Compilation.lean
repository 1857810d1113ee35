import NamedGroups.Engine.BuiltIn
import NamedGroups.NamedRegex.Compile

/-!
# Regular expressions as patterns

A regular expression that is used as a pattern stands for the pattern that it
was built from, with the same flags.  So compiling it once more gives it back,
and compiling it with other flags gives what the first pattern gives with them.
In a chain of compilations nothing is kept of the flags in between, but flags
that are refused end it.  This holds with any engine.
-/

namespace NamedGroups

theorem eq_ok_of_toOption {ε α : Type} {result : Except ε α} {value : α}
    (answered : result.toOption = some value) : result = .ok value := by
  cases result with
  | error problem => cases answered
  | ok answer => exact congrArg Except.ok (Option.some.inj answered)

theorem exists_eq_ok_of_isSome {ε α : Type} {result : Except ε α}
    (answered : result.toOption.isSome) : ∃ value, result = .ok value := by
  obtain ⟨value, found⟩ := Option.isSome_iff_exists.mp answered
  exact ⟨value, eq_ok_of_toOption found⟩

theorem eq_ok_of_join {ε α : Type} {result : Except ε (Option α)} {value : α}
    (answered : result.toOption.join = some value) :
    result = .ok (some value) :=
  eq_ok_of_toOption (Option.join_eq_some_iff.mp answered)

namespace NamedRegex

variable {engine : RegexEngine}

/-- What is known of a regular expression from the text of its pattern and its
flags text. -/
structure BuiltFrom (regex : NamedRegex engine) (text letters : Text) :
    Prop where
  pattern : regex.pattern = text
  source : regex.source = (Positional.ofPattern text).source
  flags : Flags.parse? letters = some regex.flags
  groups : regex.groups = (Positional.ofPattern text).groups
  named : regex.named = (Positional.ofPattern text).named
  matcher :
    engine.compile (engineText regex.flags regex.source) = .ok regex.matcher

/-- This is all that there is to know of it. -/
theorem compile_eq_ok_iff {pattern : Pattern engine} {flags : Option Text}
    {regex : NamedRegex engine} :
    compile engine pattern flags = .ok regex ↔
      regex.BuiltFrom pattern.source (pattern.chooseFlags flags) := by
  constructor
  · intro compiled
    simp only [compile, Pattern.generate] at compiled
    split at compiled
    · cases compiled
    · rename_i parsed
      split at compiled
      · cases compiled
      · rename_i accepted
        cases compiled
        exact ⟨rfl, rfl, parsed, rfl, rfl, accepted⟩
  · intro built
    obtain ⟨matcher, written, source, flags, groups, named⟩ := regex
    obtain ⟨rfl, rfl, parsed, rfl, rfl, accepted⟩ := built
    simp only [compile, Pattern.generate, parsed, accepted]

/-- A compilation depends on the text of the pattern and on the flags that
apply. -/
theorem compile_congr {left right : Pattern engine}
    {flags others : Option Text} (sources : left.source = right.source)
    (letters : left.chooseFlags flags = right.chooseFlags others) :
    compile engine left flags = compile engine right others := by
  simp only [compile, Pattern.generate, sources, letters]

/-- A pattern that is accepted, with what can be checked of the regular
expression. -/
theorem exists_of_checked (engine : RegexEngine) (pattern : Pattern engine)
    (flags : Option Text) (check : NamedRegex engine → Bool)
    (checked : (compile engine pattern flags).toOption.any check) :
    ∃ regex, compile engine pattern flags = .ok regex ∧ check regex := by
  cases compiled : compile engine pattern flags with
  | error problem =>
      rw [compiled] at checked
      cases checked
  | ok regex =>
      rw [compiled] at checked
      exact ⟨regex, rfl, checked⟩

/-- Compiles a regular expression once more for each of the flags texts, every
time as the pattern of the next one. -/
def recompile (regex : NamedRegex engine) :
    List (Option Text) → Except PatternError (NamedRegex engine)
  | [] => .ok regex
  | flags :: others => do
      (← compile engine (.named regex) flags).recompile others

namespace BuiltFrom

variable {regex : NamedRegex engine} {text letters : Text}

theorem compile_unflagged (built : regex.BuiltFrom text letters)
    {flags : Option Text} (unflagged : flags.getD [] = []) :
    compile engine (.named regex) flags = .ok regex := by
  have chosen :
      (Pattern.named regex).chooseFlags flags = regex.flags.text := by
    rcases flags with _ | _ | ⟨letter, letters⟩
    · rfl
    · rfl
    · cases unflagged
  rw [compile_eq_ok_iff, chosen]
  have same : (Pattern.named regex).source = text := built.pattern
  rw [same]
  exact { built with flags := regex.flags.parse?_text }

theorem compile_flagged (built : regex.BuiltFrom text letters)
    {flags : Option Text} (flagged : flags.getD [] ≠ []) :
    compile engine (.named regex) flags =
      compile engine (.text text) flags := by
  apply compile_congr
  · exact built.pattern
  · rcases flags with _ | _ | ⟨letter, letters⟩
    · exact absurd rfl flagged
    · exact absurd rfl flagged
    · rfl

/-- Each step of a chain that is given flags compiles the first pattern with
them, and the other steps do nothing. -/
theorem recompile_eq (built : regex.BuiltFrom text letters)
    (given : List (Option Text)) :
    regex.recompile given =
      (given.filter fun flags => flags.getD [] ≠ []).foldlM
        (fun _ flags => compile engine (.text text) flags) regex := by
  induction given generalizing regex letters with
  | nil => rfl
  | cons flags others induction =>
      by_cases flagged : flags.getD [] = []
      · rw [recompile, built.compile_unflagged flagged,
          List.filter_cons_of_neg (by simpa using flagged)]
        exact induction built
      · rw [recompile, built.compile_flagged flagged,
          List.filter_cons_of_pos (by simpa using flagged), List.foldlM_cons]
        cases compiled : compile engine (.text text) flags with
        | error problem => rfl
        | ok next => exact induction (compile_eq_ok_iff.mp compiled)

end BuiltFrom

/-- A regular expression that is compiled again without flags is the same,
however often that is done.  With flags it gives what its pattern gives with
them, which may be an error, and of a chain of compilations only the ones with
flags count. -/
theorem recompile_faithful {pattern : Pattern engine} {flags : Option Text}
    {regex : NamedRegex engine}
    (compiled : compile engine pattern flags = .ok regex) :
    compile engine (.named regex) none = .ok regex ∧
      compile engine (.named regex) (some []) = .ok regex ∧
      (∀ given : List (Option Text),
        (∀ flags ∈ given, flags = none ∨ flags = some []) →
          regex.recompile given = .ok regex) ∧
      (∀ letters : Text, letters ≠ [] →
        compile engine (.named regex) (some letters) =
          compile engine (.text pattern.source) (some letters)) ∧
      ∀ given : List (Option Text), regex.recompile given =
        (given.filter fun flags => flags.getD [] ≠ []).foldlM
          (fun _ flags => compile engine (.text pattern.source) flags)
          regex := by
  have built := compile_eq_ok_iff.mp compiled
  refine ⟨built.compile_unflagged rfl, built.compile_unflagged rfl, ?_,
    fun letters filled => built.compile_flagged filled, built.recompile_eq⟩
  intro given unflagged
  have nothing : given.filter (fun flags => flags.getD [] ≠ []) = [] := by
    rw [List.filter_eq_nil_iff]
    intro flags member
    rcases unflagged flags member with rfl | rfl <;> simp
  rw [built.recompile_eq, nothing]
  rfl

/-- The flag `s` is kept, although a pattern has no indicator for it. -/
theorem recompile_faithful_dotted : ∃ regex,
    compile Engine.builtIn
        (.text ['(', '?', '<', 'n', '>', '.', ')', '(', '?', '&', 'n', ')'])
        (some ['s', 'g']) = .ok regex ∧
      regex.flags.text = ['g', 's'] ∧
      regex.recompile [none, some [], none] = .ok regex ∧
      compile Engine.builtIn (.named regex) (some ['i', 'i']) =
        .error (.invalidFlags ['i', 'i']) := by
  obtain ⟨regex, compiled, checked⟩ := exists_of_checked Engine.builtIn
    (.text ['(', '?', '<', 'n', '>', '.', ')', '(', '?', '&', 'n', ')'])
    (some ['s', 'g']) (fun regex => regex.flags.text = ['g', 's'])
    (by decide +kernel)
  obtain ⟨-, -, chain, flagged, -⟩ := recompile_faithful compiled
  exact ⟨regex, compiled, of_decide_eq_true checked, chain _ (by simp),
    flagged ['i', 'i'] (by simp)⟩

end NamedRegex

end NamedGroups
