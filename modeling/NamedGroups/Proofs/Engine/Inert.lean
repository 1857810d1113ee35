import NamedGroups.Engine.Parser

/-!
# Text without structure

Names, numbers and the codes of escapes hold no character that could open or
close anything.  What reads them leaves such a stretch of text behind.
-/

namespace NamedGroups.Engine

/-- The characters that decide how a pattern is nested. -/
def structural : List Char := ['\\', '(', ')', '[', ']', '#']

/-- Whether no character of a text is structural. -/
def IsInert (text : Text) : Prop := ∀ character ∈ text, character ∉ structural

instance (text : Text) : Decidable (IsInert text) :=
  List.decidableBAll (fun character => character ∉ structural) text

theorem isInert_nil : IsInert [] := by
  simp [IsInert]

theorem isInert_cons {character : Char} {text : Text} :
    IsInert (character :: text) ↔ character ∉ structural ∧ IsInert text :=
  List.forall_mem_cons

theorem isInert_of_accepts {accepts : Char → Bool} {text : Text}
    (rejects : structural.any accepts = false)
    (accepted : ∀ character ∈ text, accepts character = true) :
    IsInert text := by
  intro character isMember isSpecial
  rw [List.any_eq_false] at rejects
  exact rejects character isSpecial (accepted character isMember)

theorem takeWhile_isInert {accepts : Char → Bool}
    (rejects : structural.any accepts = false) (text : Text) :
    IsInert (text.takeWhile accepts) :=
  isInert_of_accepts rejects (List.all_eq_true.mp List.all_takeWhile)

theorem takeWhile_append_drop (accepts : Char → Bool) (text : Text) :
    text.takeWhile accepts ++ text.drop (text.takeWhile accepts).length =
      text :=
  List.prefix_iff_eq_append.mp (List.takeWhile_prefix accepts)

theorem except_bind_eq_ok {problem first second : Type}
    {value : Except problem first} {next : first → Except problem second}
    {result : second} :
    (value >>= next) = .ok result ↔
      ∃ between, value = .ok between ∧ next between = .ok result := by
  cases value <;> simp [bind, Except.bind]

namespace Escape

theorem hexDigit?_of_structural :
    structural.any (fun special => (hexDigit? special).isSome) = false := by
  decide

def addHexDigit (number : Option Nat) (digit : Char) : Option Nat := do
  return (← number) * 16 + (← hexDigit? digit)

private theorem foldl_addHexDigit_none (digits : Text) :
    digits.foldl addHexDigit none = none := by
  induction digits with
  | nil => rfl
  | cons digit digits induction => exact induction

private theorem isSome_hexDigit?_of_foldl {digits : Text} {start : Option Nat}
    (readable : (digits.foldl addHexDigit start).isSome) :
    ∀ digit ∈ digits, (hexDigit? digit).isSome := by
  induction digits generalizing start with
  | nil => simp
  | cons first digits induction =>
      rw [List.foldl_cons] at readable
      intro digit isMember
      cases isMember with
      | tail _ isMember => exact induction readable digit isMember
      | head =>
          cases value : hexDigit? first with
          | some number => rfl
          | none =>
              have unreadable : addHexDigit start first = none := by
                cases start <;> simp [addHexDigit, value]
              rw [unreadable, foldl_addHexDigit_none] at readable
              cases readable

private theorem isInert_of_hexNumber? {digits : Text} {number : Nat}
    (readable : hexNumber? digits = some number) : IsInert digits :=
  isInert_of_accepts hexDigit?_of_structural
    (isSome_hexDigit?_of_foldl (Option.isSome_of_mem readable))

private theorem readCodePoint_eq_ok {width : Nat} {text rest : Text}
    {decoded : Char}
    (success : readCodePoint width text = .ok (decoded, rest)) :
    ∃ passed, text = passed ++ rest ∧ IsInert passed := by
  simp only [readCodePoint] at success
  split at success
  · rename_i codePoint readable
    obtain ⟨_, _, returned⟩ := except_bind_eq_ok.mp success
    cases returned
    refine ⟨_, (List.take_append_drop width _).symm, ?_⟩
    split at readable
    · exact isInert_of_hexNumber? readable
    · cases readable
  · rename_i braced _
    split at success
    · rename_i after closes
      split at success
      · obtain ⟨_, _, returned⟩ := except_bind_eq_ok.mp success
        cases returned
        have whole :=
          takeWhile_append_drop (fun character => (hexDigit? character).isSome)
            braced
        rw [closes] at whole
        refine ⟨'\x7b' ::
          braced.takeWhile (fun character => (hexDigit? character).isSome) ++
          ['\x7d'], by simp [whole], ?_⟩
        have digits := takeWhile_isInert hexDigit?_of_structural braced
        intro character isMember
        simp only [List.cons_append, List.mem_cons, List.mem_append,
          List.not_mem_nil, or_false] at isMember
        obtain rfl | isDigit | rfl := isMember
        · decide
        · exact digits character isDigit
        · decide
      · cases success
    · cases success
  · cases success

theorem read_eq_ok {inClass : Bool} {text rest : Text} {escape : Escape}
    (success : read inClass text = .ok (escape, rest)) :
    ∃ letter passed, text = letter :: (passed ++ rest) ∧ IsInert passed := by
  unfold read at success
  split at success
  · cases success
  · obtain ⟨⟨decoded, after⟩, code, returned⟩ := except_bind_eq_ok.mp success
    cases returned
    obtain ⟨passed, whole, inert⟩ := readCodePoint_eq_ok code
    exact ⟨'x', passed, congrArg _ whole, inert⟩
  · obtain ⟨⟨decoded, after⟩, code, returned⟩ := except_bind_eq_ok.mp success
    cases returned
    obtain ⟨passed, whole, inert⟩ := readCodePoint_eq_ok code
    exact ⟨'u', passed, congrArg _ whole, inert⟩
  · rename_i letter tail _ _
    refine ⟨letter, [], ?_, isInert_nil⟩
    split at success
    · cases success
      rfl
    · cases success
      rfl
    · obtain ⟨_, _, returned⟩ := except_bind_eq_ok.mp success
      cases returned
      rfl

end Escape

namespace Parser

theorem isDigit_of_structural : structural.any Char.isDigit = false := by
  decide

private theorem isNameCharacter_of_structural :
    structural.any isNameCharacter = false := by
  decide

theorem number?_eq_some {text rest : Text} {number : Nat}
    (success : number? text = some (number, rest)) :
    text = text.takeWhile Char.isDigit ++ rest := by
  simp only [number?, Option.map_eq_some_iff] at success
  obtain ⟨_, _, equal⟩ := success
  cases equal
  exact (takeWhile_append_drop Char.isDigit text).symm

theorem name?_eq_some {closing : Char} {text name rest : Text}
    (success : name? closing text = some (name, rest)) :
    text = name ++ closing :: rest ∧ IsInert name := by
  simp only [name?] at success
  split at success
  · rename_i next after follows
    split at success
    · rename_i found
      cases success
      have whole := takeWhile_append_drop isNameCharacter text
      rw [follows, found.2] at whole
      exact ⟨whole.symm, takeWhile_isInert isNameCharacter_of_structural text⟩
    · cases success
  · cases success

theorem referenceName?_eq_some {closing : Char} {text name rest : Text}
    {backwards : Bool}
    (success : referenceName? closing text = some (backwards, name, rest)) :
    ∃ passed, text = passed ++ closing :: rest ∧ IsInert passed := by
  unfold referenceName? at success
  split at success
  · obtain ⟨⟨name, after⟩, named, equal⟩ := Option.map_eq_some_iff.mp success
    cases equal
    obtain ⟨whole, inert⟩ := name?_eq_some named
    exact ⟨'-' :: name, congrArg _ whole, isInert_cons.mpr ⟨by decide, inert⟩⟩
  · obtain ⟨⟨name, after⟩, named, equal⟩ := Option.map_eq_some_iff.mp success
    cases equal
    obtain ⟨whole, inert⟩ := name?_eq_some named
    exact ⟨name, whole, inert⟩

end Parser

end NamedGroups.Engine
