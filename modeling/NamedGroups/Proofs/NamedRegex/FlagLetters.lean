import NamedGroups.NamedRegex.Replace
import NamedGroups.NamedRegex.Split
import NamedGroups.Proofs.Flags.LetterSets
import NamedGroups.Proofs.NamedRegex.Compilation

/-!
# Flags texts that are given

A flags text that is given to a compilation is read as a set of letters, or the
compilation is refused with the text as it was given.  The letter `g` has no
part in what the engine compiles, so two flags texts that have the same other
letters lead to regular expressions with the same answers.  They differ in how
much a replacement replaces, and in nothing else.
-/

namespace NamedGroups

namespace Flags

theorem parse_eq_ok_iff {text : Text} {flags : Flags} :
    parse text = .ok flags ↔ text.Perm flags.text := by
  rw [← parse?_eq_some_iff, parse]
  cases parse? text <;> simp

theorem exists_parse_eq_ok_iff (text : Text) :
    (∃ flags, parse text = .ok flags) ↔ IsLetterSet text := by
  rw [← isSome_parse?_iff, Option.isSome_iff_exists]
  simp only [parse_eq_ok_iff, parse?_eq_some_iff]

theorem parse?_of_parse {text : Text} {flags : Flags}
    (parsed : parse text = .ok flags) : parse? text = some flags :=
  parse?_eq_some_iff.mpr (parse_eq_ok_iff.mp parsed)

theorem parse?_of_not_isLetterSet {text : Text} (refused : ¬ IsLetterSet text) :
    parse? text = none := by
  rwa [← isSome_parse?_iff, Bool.not_eq_true, Option.isSome_eq_false_iff,
    Option.isNone_iff_eq_none] at refused

theorem parse_of_not_isLetterSet {text : Text} (refused : ¬ IsLetterSet text) :
    parse text = .error (.invalidFlags text) := by
  rw [parse, parse?_of_not_isLetterSet refused]

/-- What a flags text has to do with the flags that it is read as. -/
structure IsReadAs (text : Text) (flags : Flags) : Prop where
  permuted : flags.text.Perm text
  /-- The canonical text has the letters in their order. -/
  ordered : flags.text.Sublist letters
  readBack : parse flags.text = .ok flags
  /-- The order of the letters is all that texts of the same flags can differ
  in. -/
  alike_iff : ∀ other, parse other = .ok flags ↔ other.Perm text

theorem isReadAs_of_parse {text : Text} {flags : Flags}
    (parsed : parse text = .ok flags) : IsReadAs text flags := by
  have permuted := parse_eq_ok_iff.mp parsed
  constructor
  · exact permuted.symm
  · exact flags.text_sublist
  · exact parse_eq_ok_iff.mpr (.refl _)
  · intro other
    rw [parse_eq_ok_iff]
    constructor
    · intro reordered
      exact reordered.trans permuted.symm
    · intro reordered
      exact reordered.trans permuted

theorem inlinePrefix_withGlobal (flags : Flags) (everywhere : Bool) :
    inlinePrefix { flags with global := everywhere } = flags.inlinePrefix := rfl

end Flags

namespace NamedRegex

variable {engine : RegexEngine}

/-- Whether two regular expressions give the same answers about every text. -/
structure AnswersAlike (left right : NamedRegex engine) : Prop where
  exec : ∀ text, left.exec text = right.exec text
  test : ∀ text, left.test text = right.test text
  search : ∀ text, left.search text = right.search text
  split : ∀ text, left.split text = right.split text

/-- Whether two compilations are refused for the same reason, or both are
accepted and answer alike. -/
inductive CompiledAlike : Except PatternError (NamedRegex engine) →
    Except PatternError (NamedRegex engine) → Prop where
  | refused (problem : PatternError) :
      CompiledAlike (.error problem) (.error problem)
  | accepted {left right : NamedRegex engine} :
      left.AnswersAlike right → CompiledAlike (.ok left) (.ok right)

theorem CompiledAlike.exists_of_ok {regex : NamedRegex engine}
    {result : Except PatternError (NamedRegex engine)}
    (alike : CompiledAlike (.ok regex) result) :
    ∃ again, result = .ok again ∧ regex.AnswersAlike again := by
  cases alike with
  | accepted answers => exact ⟨_, rfl, answers⟩

/-- What is answered does not depend on the flags that are kept beside the
compiled engine. -/
theorem answersAlike_withFlags (regex : NamedRegex engine) (flags : Flags) :
    regex.AnswersAlike { regex with flags } := by
  constructor <;> intro text <;> rfl

theorem chooseFlags_of_ne_nil {letters : Text} (filled : letters ≠ [])
    (pattern : Pattern engine) :
    pattern.chooseFlags (some letters) = letters := by
  cases letters with
  | nil => exact absurd rfl filled
  | cons letter letters => rfl

theorem compile_of_not_isLetterSet {letters : Text}
    (refused : ¬ Flags.IsLetterSet letters) (pattern : Pattern engine) :
    compile engine pattern (some letters) = .error (.invalidFlags letters) := by
  have filled : letters ≠ [] := by
    rintro rfl
    exact refused (by decide)
  have chosen : (pattern.generate (some letters)).flags = letters :=
    chooseFlags_of_ne_nil filled pattern
  simp only [compile, chosen, Flags.parse?_of_not_isLetterSet refused]

/-- Other flags with the same text for the engine change no more than the flags
that are kept. -/
theorem compile_of_same_engineText {letters others : Text} {left right : Flags}
    {pattern : Pattern engine} (filled : letters ≠ [])
    (otherFilled : others ≠ []) (parsed : Flags.parse letters = .ok left)
    (otherParsed : Flags.parse others = .ok right)
    (same :
      engineText left (Positional.ofPattern pattern.source).source =
        engineText right (Positional.ofPattern pattern.source).source) :
    compile engine pattern (some others) =
      (compile engine pattern (some letters)).map fun regex =>
        { regex with flags := right } := by
  have known := Flags.parse?_of_parse parsed
  have otherKnown := Flags.parse?_of_parse otherParsed
  simp only [compile, Pattern.generate, chooseFlags_of_ne_nil filled,
    chooseFlags_of_ne_nil otherFilled, known, otherKnown, same]
  cases engine.compile
    (engineText right (Positional.ofPattern pattern.source).source) <;> rfl

private theorem compiledAlike_map
    (result : Except PatternError (NamedRegex engine)) (flags : Flags) :
    CompiledAlike result (result.map fun regex => { regex with flags }) := by
  cases result with
  | error problem => exact .refused problem
  | ok regex => exact .accepted (regex.answersAlike_withFlags flags)

/-- With the same letters besides `g`, the engine compiles the same text. -/
theorem engineText_of_same_letters {letters others : Text} {left right : Flags}
    (parsed : Flags.parse letters = .ok left)
    (otherParsed : Flags.parse others = .ok right)
    (same : ∀ letter, letter ≠ 'g' → (letter ∈ letters ↔ letter ∈ others))
    (source : Text) : engineText left source = engineText right source := by
  have permuted := Flags.parse_eq_ok_iff.mp parsed
  have otherPermuted := Flags.parse_eq_ok_iff.mp otherParsed
  have differ : right = { left with global := right.global } := by
    apply Flags.eq_of_same_letters
    intro letter besides
    rw [← permuted.mem_iff, ← otherPermuted.mem_iff]
    exact same letter besides
  rw [engineText, engineText, differ, left.inlinePrefix_withGlobal right.global]

/-- A flags text is read if it is a set of letters of flags, and is handed back
otherwise.  The canonical text of what is read is the permutation of it in the
order of all letters, and exactly its permutations are read as the same flags.
Given to a compilation, two texts that have the same letters besides `g` give
the engine the same text, and every search has the same answer. -/
theorem compile_by_letterSet (text : Text) :
    ((∃ flags, Flags.parse text = .ok flags) ↔ Flags.IsLetterSet text) ∧
      (¬ Flags.IsLetterSet text →
        Flags.parse text = .error (.invalidFlags text) ∧
          ∀ (engine : RegexEngine) (pattern : Pattern engine),
            compile engine pattern (some text) = .error (.invalidFlags text)) ∧
      ∀ flags, Flags.parse text = .ok flags →
        Flags.IsReadAs text flags ∧
          ∀ other others, Flags.parse other = .ok others → text ≠ [] →
            other ≠ [] →
            (∀ letter, letter ≠ 'g' → (letter ∈ text ↔ letter ∈ other)) →
            ∀ (engine : RegexEngine) (pattern : Pattern engine),
              engineText flags (pattern.generate (some text)).source =
                  engineText others (pattern.generate (some other)).source ∧
                CompiledAlike (compile engine pattern (some text))
                  (compile engine pattern (some other)) := by
  refine ⟨Flags.exists_parse_eq_ok_iff text, ?_, ?_⟩
  · intro refused
    exact ⟨Flags.parse_of_not_isLetterSet refused,
      fun _ => compile_of_not_isLetterSet refused⟩
  · intro flags parsed
    refine ⟨Flags.isReadAs_of_parse parsed, ?_⟩
    intro other others otherParsed filled otherFilled same engine pattern
    have handed := engineText_of_same_letters parsed otherParsed same
      (Positional.ofPattern pattern.source).source
    refine ⟨handed, ?_⟩
    rw [compile_of_same_engineText filled otherFilled parsed otherParsed handed]
    exact compiledAlike_map _ others

/-- The order of the letters does not matter, and `g` does not matter for
searching. -/
theorem compile_by_letterSet_searched : ∃ regex again,
    Flags.parse ['m', 'i', 'g'] = .ok ⟨true, true, true, false⟩ ∧
      Flags.parse ['i', 'x'] = .error (.invalidFlags ['i', 'x']) ∧
      compile Engine.builtIn (.text ['(', '?', '<', 'n', '>', '.', ')'])
        (some ['m', 'i', 'g']) = .ok regex ∧
      compile Engine.builtIn (.text ['(', '?', '<', 'n', '>', '.', ')'])
        (some ['i', 'm']) = .ok again ∧
      regex.AnswersAlike again := by
  have parsed : Flags.parse ['m', 'i', 'g'] = .ok ⟨true, true, true, false⟩ :=
    rfl
  have otherParsed : Flags.parse ['i', 'm'] = .ok ⟨false, true, true, false⟩ :=
    rfl
  obtain ⟨-, -, read⟩ := compile_by_letterSet ['m', 'i', 'g']
  obtain ⟨-, refused, -⟩ := compile_by_letterSet ['i', 'x']
  obtain ⟨-, alike⟩ := read _ parsed
  have same : ∀ letter,
      letter ≠ 'g' → (letter ∈ ['m', 'i', 'g'] ↔ letter ∈ ['i', 'm']) := by
    intro letter besides
    simp [besides, or_comm]
  obtain ⟨regex, compiled, -⟩ :=
    exists_of_checked Engine.builtIn (.text ['(', '?', '<', 'n', '>', '.', ')'])
      (some ['m', 'i', 'g']) (fun _ => true) (by decide +kernel)
  have both := (alike _ _ otherParsed (by simp) (by simp) same Engine.builtIn
    (.text ['(', '?', '<', 'n', '>', '.', ')'])).2
  rw [compiled] at both
  obtain ⟨again, reached, answers⟩ := both.exists_of_ok
  exact ⟨regex, again, parsed, (refused (by decide)).1, compiled, reached,
    answers⟩

end NamedRegex

end NamedGroups
