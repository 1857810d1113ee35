import NamedGroups.NamedRegex.Compile
import NamedGroups.Proofs.Flags.LetterSets
import NamedGroups.Proofs.NamedRegex.Compilation
import NamedGroups.Proofs.Text.Escapes

/-!
# Display texts

In a display text the body is the source with a backslash in front of each slash
that had none, so no slash of the body is bare.  Unless the source ends inside
an escape, the slash behind the body is bare, and the body and the flags are
read back by going to it.  The source itself is not read back, since `/` and
`\/` are displayed alike, but nothing else is lost.
-/

namespace NamedGroups

open Text (escapeInduction IsBareAt isComplete_bare isComplete_append)

/-- A character of the body of a display text. -/
structure ShownCharacter where
  character : Char
  /-- Whether the character stands there for the display alone. -/
  added : Bool

/-- The body of a display text: the source, with a backslash added in front of
each bare slash. -/
def shownCharacters (source : Text) : List ShownCharacter :=
  source.zipIdx.flatMap fun (character, position) =>
    if source.IsBareAt '/' position then [⟨'\\', true⟩, ⟨character, false⟩]
    else [⟨character, false⟩]

/-- Whether two sources differ in no more than writing `/` as `\/`. -/
inductive SameUpToSlashes : Text → Text → Prop where
  | nil : SameUpToSlashes [] []
  | backslash : SameUpToSlashes ['\\'] ['\\']
  | escaped (character : Char) {left right : Text} :
      SameUpToSlashes left right →
      SameUpToSlashes ('\\' :: character :: left) ('\\' :: character :: right)
  | bare {character : Char} {left right : Text} :
      character ≠ '\\' → SameUpToSlashes left right →
      SameUpToSlashes (character :: left) (character :: right)
  | escapedLeft {left right : Text} :
      SameUpToSlashes left right →
        SameUpToSlashes ('\\' :: '/' :: left) ('/' :: right)
  | escapedRight {left right : Text} :
      SameUpToSlashes left right →
        SameUpToSlashes ('/' :: left) ('\\' :: '/' :: right)

/-- What stands in front of the first bare slash of a text, and what stands
behind it. -/
def Text.atSlash? : Text → Option (Text × Text)
  | [] => none
  | '\\' :: escaped :: rest =>
      (atSlash? rest).map fun (front, back) => ('\\' :: escaped :: front, back)
  | '/' :: rest => some ([], rest)
  | character :: rest =>
      (atSlash? rest).map fun (front, back) => (character :: front, back)

/-- The body and the flags of a display text. -/
def readDisplay? : Text → Option (Text × Flags)
  | '/' :: rest => do
      let (body, letters) ← Text.atSlash? rest
      return (body, ← Flags.parse? letters)
  | _ => none

/-- A text that is a body and letters behind a slash each, where no other slash
is bare. -/
structure IsDelimited (shown body letters : Text) : Prop where
  written : shown = '/' :: body ++ '/' :: letters
  bare_iff : ∀ position,
    shown.IsBareAt '/' position ↔ position = 0 ∨ position = body.length + 1

section Escaping

@[simp] theorem escapeSlashes_nil : escapeSlashes [] = [] := rfl

@[simp] theorem escapeSlashes_backslash : escapeSlashes ['\\'] = ['\\'] := rfl

@[simp] theorem escapeSlashes_escaped (character : Char) (rest : Text) :
    escapeSlashes ('\\' :: character :: rest) =
      '\\' :: character :: escapeSlashes rest := rfl

@[simp] theorem escapeSlashes_slash (rest : Text) :
    escapeSlashes ('/' :: rest) = '\\' :: '/' :: escapeSlashes rest := rfl

theorem escapeSlashes_other {character : Char} (bare : character ≠ '\\')
    (other : character ≠ '/') (rest : Text) :
    escapeSlashes (character :: rest) = character :: escapeSlashes rest := by
  rw [escapeSlashes] <;> simp [bare, other]

/-- Induction along a source, with a case for each way in which its body can go
on. -/
@[elab_as_elim]
theorem slashInduction {motive : Text → Prop} (nil : motive [])
    (backslash : motive ['\\'])
    (escaped : ∀ (character : Char) (rest : Text),
      motive rest → motive ('\\' :: character :: rest))
    (slash : ∀ rest : Text, motive rest → motive ('/' :: rest))
    (other : ∀ (character : Char) (rest : Text), character ≠ '\\' →
      character ≠ '/' → motive rest → motive (character :: rest))
    (source : Text) : motive source := by
  induction source using escapeInduction with
  | nil => exact nil
  | backslash => exact backslash
  | escaped character rest induction => exact escaped character rest induction
  | bare character rest bare induction =>
      by_cases isSlash : character = '/'
      · subst isSlash
        exact slash rest induction
      · exact other character rest bare isSlash induction

/-- Whether an escape is left open at the end does not change. -/
theorem isComplete_escapeSlashes (source : Text) :
    (escapeSlashes source).isComplete = source.isComplete := by
  induction source using slashInduction with
  | nil => rfl
  | backslash => rfl
  | escaped character rest induction => simpa using induction
  | slash rest induction =>
      rw [escapeSlashes_slash, Text.isComplete_escaped,
        isComplete_bare (by decide), induction]
  | other character rest bare other induction =>
      rw [escapeSlashes_other bare other, isComplete_bare bare,
        isComplete_bare bare, induction]

theorem not_hasBare_escapeSlashes (source : Text) :
    ¬ (escapeSlashes source).HasBare '/' := by
  induction source using slashInduction with
  | nil => simp
  | backslash => simp
  | escaped character rest induction =>
      rwa [escapeSlashes_escaped, Text.hasBare_escaped (by decide)]
  | slash rest induction =>
      rwa [escapeSlashes_slash, Text.hasBare_escaped (by decide)]
  | other character rest bare other induction =>
      rw [escapeSlashes_other bare other, Text.hasBare_bare bare]
      simp [other, induction]

private theorem escapeSlashes_of_not_hasBare {text : Text}
    (slashless : ¬ text.HasBare '/') : escapeSlashes text = text := by
  induction text using escapeInduction with
  | nil => rfl
  | backslash => rfl
  | escaped character rest induction =>
      rw [Text.hasBare_escaped (by decide)] at slashless
      rw [escapeSlashes_escaped, induction slashless]
  | bare character rest bare induction =>
      rw [Text.hasBare_bare bare, not_or] at slashless
      rw [escapeSlashes_other bare slashless.1, induction slashless.2]

theorem escapeSlashes_escapeSlashes (source : Text) :
    escapeSlashes (escapeSlashes source) = escapeSlashes source :=
  escapeSlashes_of_not_hasBare (not_hasBare_escapeSlashes source)

end Escaping

section Shown

theorem shownCharacters_append {front : Text}
    (complete : front.isComplete = true) (back : Text) :
    shownCharacters (front ++ back) =
      shownCharacters front ++ shownCharacters back := by
  rw [shownCharacters, List.zipIdx_append, List.flatMap_append]
  congr 1
  · apply List.flatMap_congr
    rintro ⟨character, position⟩ member
    have inside : position < front.length := by
      have bounds := List.mem_zipIdx member
      omega
    simp only [Text.isBareAt_append_left inside]
  · rw [List.zipIdx_eq_map_add, List.flatMap_map, shownCharacters]
    simp only [Nat.zero_add, Text.isBareAt_append_right complete]

private theorem shownCharacters_escaped (character : Char) (rest : Text) :
    shownCharacters ('\\' :: character :: rest) =
      ⟨'\\', false⟩ :: ⟨character, false⟩ :: shownCharacters rest := by
  have complete : Text.isComplete ['\\', character] = true := by simp
  have pair :
      shownCharacters ['\\', character] =
        [⟨'\\', false⟩, ⟨character, false⟩] := by
    simp [shownCharacters, IsBareAt, Text.backslashesAtEnd]
  have apart := shownCharacters_append complete rest
  rwa [pair] at apart

private theorem shownCharacters_slash (rest : Text) :
    shownCharacters ('/' :: rest) =
      ⟨'\\', true⟩ :: ⟨'/', false⟩ :: shownCharacters rest := by
  have complete : Text.isComplete ['/'] = true := rfl
  exact shownCharacters_append complete rest

private theorem shownCharacters_other {character : Char}
    (bare : character ≠ '\\') (other : character ≠ '/') (rest : Text) :
    shownCharacters (character :: rest) =
      ⟨character, false⟩ :: shownCharacters rest := by
  have complete : Text.isComplete [character] = true := by
    simp [isComplete_bare bare]
  have single : shownCharacters [character] = [⟨character, false⟩] := by
    simp [shownCharacters, IsBareAt, other]
  have apart := shownCharacters_append complete rest
  rwa [single] at apart

/-- The scanner adds a backslash in front of each bare slash, and nothing
else. -/
theorem character_shownCharacters (source : Text) :
    (shownCharacters source).map ShownCharacter.character =
      escapeSlashes source := by
  induction source using slashInduction with
  | nil => rfl
  | backslash => rfl
  | escaped character rest induction =>
      simp [shownCharacters_escaped, induction]
  | slash rest induction => simp [shownCharacters_slash, induction]
  | other character rest bare other induction =>
      simp [shownCharacters_other bare other, escapeSlashes_other bare other,
        induction]

theorem filter_shownCharacters (source : Text) :
    ((shownCharacters source).filter fun shown => !shown.added).map
        ShownCharacter.character = source := by
  have kept (character : Char) (position : Nat) :
      ((if source.IsBareAt '/' position then [⟨'\\', true⟩, ⟨character, false⟩]
        else [⟨character, false⟩]).filter fun shown : ShownCharacter =>
        !shown.added) = [⟨character, false⟩] := by
    split <;> rfl
  rw [shownCharacters, List.filter_flatMap, List.map_flatMap]
  simp only [kept, List.map_cons, List.map_nil]
  rw [← List.map_eq_flatMap, List.zipIdx_map_fst]

end Shown

section SameUpToSlashes

private theorem sameUpToSlashes_escapeSlashes (source : Text) :
    SameUpToSlashes (escapeSlashes source) source := by
  induction source using slashInduction with
  | nil => exact .nil
  | backslash => exact .backslash
  | escaped character rest induction => exact .escaped character induction
  | slash rest induction => exact .escapedLeft induction
  | other character rest bare other induction =>
      rw [escapeSlashes_other bare other]
      exact .bare bare induction

/-- A source can take the place of its body. -/
theorem SameUpToSlashes.of_escapeSlashes {source other : Text}
    (same : SameUpToSlashes (escapeSlashes source) other) :
    SameUpToSlashes source other := by
  induction source using slashInduction generalizing other with
  | nil => exact same
  | backslash => exact same
  | escaped character rest induction =>
      rw [escapeSlashes_escaped] at same
      cases same with
      | escaped _ same => exact .escaped character (induction same)
      | bare bare _ => exact absurd rfl bare
      | escapedLeft same => exact .escapedLeft (induction same)
  | slash rest induction =>
      rw [escapeSlashes_slash] at same
      cases same with
      | escaped _ same => exact .escapedRight (induction same)
      | bare bare _ => exact absurd rfl bare
      | escapedLeft same => exact .bare (by decide) (induction same)
  | other character rest bare notSlash induction =>
      rw [escapeSlashes_other bare notSlash] at same
      generalize written : escapeSlashes rest = body at same
      cases same with
      | backslash => exact absurd rfl bare
      | escaped _ _ => exact absurd rfl bare
      | bare _ same => exact .bare bare (induction (written ▸ same))
      | escapedLeft _ => exact absurd rfl bare
      | escapedRight _ => exact absurd rfl notSlash

/-- Sources have the same body if they differ in no more than writing `/` as
`\/`. -/
theorem escapeSlashes_eq_iff {left right : Text} :
    escapeSlashes left = escapeSlashes right ↔ SameUpToSlashes left right := by
  constructor
  · intro same
    apply SameUpToSlashes.of_escapeSlashes
    rw [same]
    exact sameUpToSlashes_escapeSlashes right
  · intro same
    induction same with
    | nil => rfl
    | backslash => rfl
    | escaped character _ induction =>
        rw [escapeSlashes_escaped, escapeSlashes_escaped, induction]
    | @bare character left right bare _ induction =>
        by_cases slash : character = '/'
        · rw [slash, escapeSlashes_slash, escapeSlashes_slash, induction]
        · rw [escapeSlashes_other bare slash, escapeSlashes_other bare slash,
            induction]
    | escapedLeft _ induction =>
        rw [escapeSlashes_escaped, escapeSlashes_slash, induction]
    | escapedRight _ induction =>
        rw [escapeSlashes_escaped, escapeSlashes_slash, induction]

end SameUpToSlashes

/-- The first bare slash is behind a text that has none and ends outside of an
escape. -/
theorem Text.atSlash?_append {front : Text} (slashless : ¬ front.HasBare '/')
    (complete : front.isComplete = true) (back : Text) :
    atSlash? (front ++ '/' :: back) = some (front, back) := by
  induction front using escapeInduction with
  | nil => rfl
  | backslash => simp at complete
  | escaped character rest induction =>
      rw [hasBare_escaped (by simp)] at slashless
      have found := induction slashless (by simpa using complete)
      simp [atSlash?, found]
  | bare character rest bare induction =>
      rw [hasBare_bare bare, not_or] at slashless
      rw [isComplete_bare bare] at complete
      have found := induction slashless.2 complete
      rw [List.cons_append, atSlash?]
      · simp [found]
      · simp [bare]
      · simpa using slashless.1

theorem slash_notMem_text (flags : Flags) : '/' ∉ flags.text := by
  intro member
  have known := flags.text_sublist.subset member
  simp [Flags.letters] at known

/-- The last slash tells what stands in front of it from what stands behind
it. -/
theorem append_slash_inj {front back other rest : Text} (slashless : '/' ∉ back)
    (otherSlashless : '/' ∉ rest) :
    front ++ '/' :: back = other ++ '/' :: rest ↔
      front = other ∧ back = rest := by
  constructor
  · intro same
    rcases List.append_eq_append_iff.mp same
      with ⟨more, longer, behind⟩ | ⟨more, longer, behind⟩
    · cases more with
      | nil =>
          cases behind
          exact ⟨by simpa using longer.symm, rfl⟩
      | cons first more =>
          cases behind
          exact absurd (by simp) slashless
    · cases more with
      | nil =>
          cases behind
          exact ⟨by simpa using longer, rfl⟩
      | cons first more =>
          cases behind
          exact absurd (by simp) otherSlashless
  · rintro ⟨rfl, rfl⟩
    rfl

namespace NamedRegex

variable {engine : RegexEngine}

/-- The body and the letters are delimited exactly if the source leaves no
escape open, which would take the slash behind the body. -/
theorem isDelimited_display_iff (regex : NamedRegex engine) :
    IsDelimited regex.display (escapeSlashes regex.source) regex.flags.text ↔
      regex.source.isComplete = true := by
  have slash : Text.isComplete ['/'] = true := rfl
  constructor
  · intro delimited
    have bare := (delimited.bare_iff _).mpr (.inr rfl)
    have front : regex.display.take ((escapeSlashes regex.source).length + 1) =
        ['/'] ++ escapeSlashes regex.source := by
      simp [display]
    have complete := (Text.isBareAt_iff.mp bare).2
    rwa [front, isComplete_append slash, isComplete_escapeSlashes] at complete
  · intro complete
    refine ⟨rfl, ?_⟩
    intro position
    have body : (escapeSlashes regex.source).isComplete = true := by
      rw [isComplete_escapeSlashes, complete]
    have bodySlashless (offset : Nat) :
        ¬ (escapeSlashes regex.source).IsBareAt '/' offset :=
      fun bare => not_hasBare_escapeSlashes regex.source ⟨offset, bare⟩
    have lettersSlashless (offset : Nat) :
        ¬ regex.flags.text.IsBareAt '/' offset :=
      fun bare => slash_notMem_text regex.flags (List.mem_of_getElem? bare.1)
    have parts :
        regex.display =
          ['/'] ++
            (escapeSlashes regex.source ++ (['/'] ++ regex.flags.text)) := rfl
    rw [parts, Text.isBareAt_append slash]
    simp only [Text.isBareAt_append body, Text.isBareAt_append slash,
      bodySlashless, lettersSlashless, Text.isBareAt_singleton, and_true,
      and_false, exists_false, or_false, false_or, exists_eq_right,
      Nat.add_zero, List.length_singleton, Nat.add_comm 1]

private theorem readDisplay?_display (regex : NamedRegex engine)
    (complete : regex.source.isComplete = true) :
    readDisplay? regex.display =
      some (escapeSlashes regex.source, regex.flags) := by
  have found := Text.atSlash?_append (not_hasBare_escapeSlashes regex.source)
    ((isComplete_escapeSlashes regex.source).trans complete) regex.flags.text
  have flags := regex.flags.parse?_text
  simp [display, readDisplay?, found, flags]

private theorem display_eq_iff (left right : NamedRegex engine) :
    left.display = right.display ↔
      left.flags = right.flags ∧ SameUpToSlashes left.source right.source := by
  have texts :
      left.flags.text = right.flags.text ↔ left.flags = right.flags := by
    constructor
    · intro same
      exact Flags.text_perm_iff.mp (List.Perm.of_eq same)
    · intro same
      rw [same]
  simp only [display, List.cons_append, List.cons.injEq, true_and]
  rw [append_slash_inj (slash_notMem_text _) (slash_notMem_text _),
    escapeSlashes_eq_iff, texts, and_comm]

/-- A display text has its body and its flags between and behind its only bare
slashes, exactly if the source does not end in a backslash that is not escaped,
and then both are read back.  The body is the source with backslashes that have
been added in front of bare slashes, and adding them once more changes nothing.
Regular expressions that are displayed alike have the same flags, and sources
that differ in no more than writing `/` as `\/`. -/
theorem display_delimited (regex : NamedRegex engine) :
    (IsDelimited regex.display (escapeSlashes regex.source) regex.flags.text ↔
      regex.source.isComplete = true) ∧
      (regex.source.isComplete = true →
        readDisplay? regex.display =
          some (escapeSlashes regex.source, regex.flags)) ∧
      Flags.parse regex.flags.text = .ok regex.flags ∧
      (shownCharacters regex.source).map ShownCharacter.character =
        escapeSlashes regex.source ∧
      ((shownCharacters regex.source).filter fun shown => !shown.added).map
          ShownCharacter.character = regex.source ∧
      escapeSlashes (escapeSlashes regex.source) = escapeSlashes regex.source ∧
      ∀ other : NamedRegex engine, regex.display = other.display ↔
        regex.flags = other.flags ∧
          SameUpToSlashes regex.source other.source := by
  have parsed : Flags.parse regex.flags.text = .ok regex.flags := by
    rw [Flags.parse, Flags.parse?_text]
  exact ⟨regex.isDelimited_display_iff, regex.readDisplay?_display, parsed,
    character_shownCharacters _, filter_shownCharacters _,
    escapeSlashes_escapeSlashes _, regex.display_eq_iff⟩

/-- A slash behind one backslash is left alone, a slash behind two of them is
not, nor is one in a class. -/
theorem display_delimited_slashes :
    ∃ regex : NamedRegex Engine.builtIn,
      compile Engine.builtIn
            (.text ['a', '\\', '/', '\\', '\\', '/', '[', '/', ']'])
            (some ['m', 'g']) = .ok regex ∧
        regex.source.isComplete = true ∧
        regex.display =
          ['/', 'a', '\\', '/', '\\', '\\', '\\', '/', '[', '\\', '/', ']', '/',
            'g', 'm'] ∧
        readDisplay? regex.display =
          some (escapeSlashes regex.source, regex.flags) := by
  obtain ⟨regex, compiled, checked⟩ :=
    exists_of_checked Engine.builtIn
      (.text ['a', '\\', '/', '\\', '\\', '/', '[', '/', ']']) (some ['m', 'g'])
      (fun regex => regex.source.isComplete &&
        decide (regex.display =
          ['/', 'a', '\\', '/', '\\', '\\', '\\', '/', '[', '\\', '/', ']', '/',
            'g', 'm'])) (by decide +kernel)
  simp only [Bool.and_eq_true, decide_eq_true_eq] at checked
  obtain ⟨complete, displayed⟩ := checked
  obtain ⟨-, reads, -⟩ := display_delimited regex
  exact ⟨regex, compiled, complete, displayed, reads complete⟩

end NamedRegex

end NamedGroups
