import NamedGroups.Proofs.Template.Reading

/-!
# The grammar of templates

A template is read from left to right.  Where a token is spelled, the longest
spelling counts, and the reading goes on behind it; any other character, also a
dollar sign, stands for itself.  Which parts a template has depends on the
number of slots of a match and on nothing else in it, so the texts that the
parts stand for are never read themselves.
-/

namespace NamedGroups.Template

/-- A part of a template, by what it stands for. -/
inductive Part where
  | character (character : Char)
  | whole
  | before
  | after
  | slot (number : Nat)
deriving DecidableEq

def Part.value (found : Match) : Part → Text
  | .character plain => [plain]
  | .whole => found.text
  | .before => found.before
  | .after => found.after
  | .slot number => slotValue found number

/-- The spellings of tokens where a match has the given number of slots.  One or
two digits without braces have to be the number of a capture group. -/
inductive Spells (slots : Nat) : Text → Part → Prop where
  | dollar : Spells slots ['$', '$'] (.character '$')
  | whole : Spells slots ['$', '&'] .whole
  | before : Spells slots ['$', '\x60'] .before
  | after : Spells slots ['$', '\x27'] .after
  | braced {digits : Text} :
      digits ≠ [] → digits.all Char.isDigit →
        Nat.ofDigitChars 10 digits 0 < Text.wordLimit →
        Spells slots ('$' :: '\x7b' :: (digits ++ ['\x7d']))
          (.slot (Nat.ofDigitChars 10 digits 0))
  | digit {first : Char} :
      first.isDigit → 1 ≤ digitValue first → digitValue first < slots →
        Spells slots ['$', first] (.slot (digitValue first))
  | twoDigits {first second : Char} :
      first.isDigit → second.isDigit →
        1 ≤ 10 * digitValue first + digitValue second →
        10 * digitValue first + digitValue second < slots →
        Spells slots ['$', first, second]
          (.slot (10 * digitValue first + digitValue second))

/-- The longest spelling at the start of a text, and what follows it. -/
structure Starts (slots : Nat) (text spelling rest : Text) (part : Part) :
    Prop where
  spells : Spells slots spelling part
  whole : spelling ++ rest = text
  longest : ∀ longer other, Spells slots longer other → longer <+: text →
    longer.length ≤ spelling.length

/-- The parts of a template, from left to right. -/
inductive Reads (slots : Nat) : Text → List Part → Prop where
  | nil : Reads slots [] []
  | token {text spelling rest : Text} {part : Part} {parts : List Part} :
      Starts slots text spelling rest part → Reads slots rest parts →
      Reads slots text (part :: parts)
  | character {plain : Char} {rest : Text} {parts : List Part} :
      (∀ spelling part,
        Spells slots spelling part → ¬ spelling <+: plain :: rest) →
        Reads slots rest parts →
        Reads slots (plain :: rest) (.character plain :: parts)

theorem takeWhile_isDigit {digits : Text} (numeric : digits.all Char.isDigit)
    (rest : Text) :
    (digits ++ '\x7d' :: rest).takeWhile Char.isDigit = digits := by
  rw [List.takeWhile_append_of_pos (List.all_eq_true.mp numeric)]
  simp

/-- Digits between braces are a number, if that is a machine word. -/
theorem bracedNumber?_eq_some_iff {text rest : Text} {number : Nat} :
    bracedNumber? text = some (number, rest) ↔
      ∃ digits, text = digits ++ '\x7d' :: rest ∧ digits ≠ [] ∧
        digits.all Char.isDigit ∧
        Nat.ofDigitChars 10 digits 0 < Text.wordLimit ∧
        Nat.ofDigitChars 10 digits 0 = number := by
  constructor
  · intro found
    simp only [bracedNumber?] at found
    split at found
    · rename_i behind dropped
      have whole :=
        List.takeWhile_append_dropWhile (p := Char.isDigit) (l := text)
      simp only [Text.readWord?, Text.readDecimal?, Option.map_eq_some_iff,
        Option.filter_eq_some_iff] at found
      obtain ⟨value, ⟨numeral, bound⟩, same⟩ := found
      obtain ⟨rfl, rfl⟩ := Prod.mk.inj same
      split at numeral
      · rename_i filled
        cases numeral
        refine ⟨text.takeWhile Char.isDigit, ?_, filled.1, filled.2,
          by simpa using bound, rfl⟩
        rw [← dropped, List.prefix_iff_eq_append.mp (List.takeWhile_prefix _)]
      · cases numeral
    · cases found
  · rintro ⟨digits, rfl, filled, numeric, bound, rfl⟩
    simp [bracedNumber?, takeWhile_isDigit numeric, Text.readWord?,
      Text.readDecimal?, filled, numeric, bound]

theorem not_isDigit_of_mark {character : Char}
    (mark : character ∈ ['$', '&', '\x60', '\x27']) : ¬ character.isDigit := by
  simp only [List.mem_cons, List.not_mem_nil, or_false] at mark
  rcases mark with rfl | rfl | rfl | rfl
  all_goals decide

theorem ne_dollar_of_isDigit {character : Char} (numeric : character.isDigit) :
    character ≠ '$' := by
  rintro rfl
  exact absurd numeric (by decide)

namespace Spells

variable {slots : Nat} {spelling longer rest : Text} {part other : Part}
    {second : Char}

theorem starts_dollar (spells : Spells slots spelling part) :
    ∃ second body, spelling = '$' :: second :: body := by
  cases spells <;> exact ⟨_, _, rfl⟩

/-- The ways to spell a token, by the character behind the dollar sign. -/
theorem cases_of_prefix (spells : Spells slots spelling part)
    (leads : spelling <+: '$' :: second :: rest) :
    (spelling = ['$', second] ∧
      (second ∈ ['$', '&', '\x60', '\x27'] ∨ second.isDigit)) ∨
      (second = '\x7b' ∧
        ∃ number behind, bracedNumber? rest = some (number, behind) ∧
          spelling ++ behind = '$' :: second :: rest ∧ part = .slot number) ∨
      (second.isDigit ∧
        ∃ third behind, rest = third :: behind ∧ third.isDigit ∧
          spelling = ['$', second, third] ∧
          1 ≤ 10 * digitValue second + digitValue third ∧
          10 * digitValue second + digitValue third < slots) := by
  cases spells with
  | dollar | whole | before | after =>
      obtain ⟨rfl, -⟩ :=
        List.cons_prefix_cons.mp (List.cons_prefix_cons.mp leads).2
      exact .inl ⟨rfl, .inl (by decide)⟩
  | @braced digits filled numeric bound =>
      obtain ⟨rfl, closed⟩ :=
        List.cons_prefix_cons.mp (List.cons_prefix_cons.mp leads).2
      obtain ⟨behind, rfl⟩ := closed
      refine .inr (.inl ⟨rfl, _, behind, ?_, by simp, rfl⟩)
      exact bracedNumber?_eq_some_iff.mpr
        ⟨digits, by simp, filled, numeric, bound, rfl⟩
  | digit numeric _ _ =>
      obtain ⟨rfl, -⟩ :=
        List.cons_prefix_cons.mp (List.cons_prefix_cons.mp leads).2
      exact .inl ⟨rfl, .inr numeric⟩
  | twoDigits numeric further positive bound =>
      obtain ⟨rfl, third⟩ :=
        List.cons_prefix_cons.mp (List.cons_prefix_cons.mp leads).2
      obtain ⟨behind, rfl⟩ := third
      exact .inr (.inr ⟨numeric, _, behind, rfl, further, rfl, positive, bound⟩)

/-- A spelling stands for one part only. -/
theorem part_unique (spells : Spells slots spelling part)
    (again : Spells slots spelling other) : part = other := by
  generalize same : spelling = copy at again
  cases spells with
  | dollar | whole | before | after =>
      cases again with
      | digit numeric _ _ =>
          obtain rfl : _ = _ := by simpa using same
          exact absurd numeric (by decide)
      | dollar | whole | before | after | braced | twoDigits => simp_all
  | braced _ _ _ =>
      cases again with
      | twoDigits numeric _ _ _ =>
          obtain ⟨rfl, -⟩ : _ ∧ _ := by simpa using same
          exact absurd numeric (by decide)
      | dollar | whole | before | after | braced | digit => simp_all
  | digit numeric _ _ =>
      cases again with
      | dollar | whole | before | after =>
          obtain rfl : _ = _ := by simpa using same
          exact absurd numeric (by decide)
      | braced | digit | twoDigits => simp_all
  | twoDigits numeric _ _ _ =>
      cases again with
      | braced _ _ _ =>
          obtain ⟨rfl, -⟩ : _ ∧ _ := by simpa using same
          exact absurd numeric (by decide)
      | dollar | whole | before | after | digit | twoDigits => simp_all

end Spells

namespace Starts

variable {slots : Nat} {text spelling rest : Text} {part : Part}

theorem unique {spelling' rest' : Text} {part' : Part}
    (starts : Starts slots text spelling rest part)
    (again : Starts slots text spelling' rest' part') :
    rest = rest' ∧ part = part' := by
  have leads : spelling <+: text := ⟨rest, starts.whole⟩
  have leads' : spelling' <+: text := ⟨rest', again.whole⟩
  have length : spelling.length = spelling'.length :=
    Nat.le_antisymm (again.longest _ _ starts.spells leads)
      (starts.longest _ _ again.spells leads')
  have whole := starts.whole.trans again.whole.symm
  obtain ⟨rfl, rfl⟩ := List.append_inj whole length
  exact ⟨rfl, starts.spells.part_unique again.spells⟩

end Starts

theorem Reads.unique {slots : Nat} {text : Text} {left right : List Part}
    (first : Reads slots text left) (second : Reads slots text right) :
    left = right := by
  induction first generalizing right with
  | nil =>
      cases second with
      | nil => rfl
      | token starts _ =>
          obtain ⟨_, _, rfl⟩ := starts.spells.starts_dollar
          cases starts.whole
  | @token text spelling rest part parts starts _ induction =>
      cases second with
      | nil =>
          obtain ⟨_, _, rfl⟩ := starts.spells.starts_dollar
          cases starts.whole
      | token again others =>
          obtain ⟨rfl, rfl⟩ := starts.unique again
          rw [induction others]
      | character unspelled _ =>
          exact absurd ⟨rest, starts.whole⟩
            (unspelled spelling part starts.spells)
  | character unspelled _ induction =>
      cases second with
      | token starts _ =>
          exact absurd ⟨_, starts.whole⟩ (unspelled _ _ starts.spells)
      | character _ others => rw [induction others]

/-- The parts that a token comes to. -/
def Token.parts (slots : Nat) : Token → List Part
  | .character plain => [.character plain]
  | .dollar => [.character '$']
  | .whole => [.whole]
  | .before => [.before]
  | .after => [.after]
  | .slot number => [.slot number]
  | .digits first none =>
      if 1 ≤ digitValue first ∧ digitValue first < slots then
        [.slot (digitValue first)]
      else [.character '$', .character first]
  | .digits first (some second) =>
      let both := 10 * digitValue first + digitValue second
      if 1 ≤ both ∧ both < slots then [.slot both]
      else if 1 ≤ digitValue first ∧ digitValue first < slots then
        [.slot (digitValue first), .character second]
      else [.character '$', .character first, .character second]

theorem Token.value_eq (token : Token) (found : Match) :
    token.value found =
      (token.parts found.size).flatMap (Part.value found) := by
  cases token with
  | digits first second =>
      cases second <;>
        simp only
          [value, parts, isGroup, Bool.and_eq_true, decide_eq_true_eq] <;>
        split_ifs <;> simp [Part.value]
  | _ => simp [value, parts, Part.value]

namespace Starts

variable {slots : Nat} {rest : Text} {part : Part} {first second : Char}

theorem of_mark (mark : first ∈ ['$', '&', '\x60', '\x27'])
    (spells : Spells slots ['$', first] part) (rest : Text) :
    Starts slots ('$' :: first :: rest) ['$', first] rest part := by
  refine ⟨spells, rfl, fun longer other also leads => ?_⟩
  obtain ⟨rfl, -⟩ | ⟨rfl, -⟩ | ⟨numeric, -⟩ := also.cases_of_prefix leads
  · exact Nat.le_refl _
  · exact absurd mark (by decide)
  · exact absurd numeric (not_isDigit_of_mark mark)

theorem of_bracedNumber {number : Nat} {behind : Text}
    (found : bracedNumber? rest = some (number, behind)) :
    ∃ spelling,
      Starts slots ('$' :: '\x7b' :: rest) spelling behind (.slot number) := by
  obtain ⟨digits, rfl, filled, numeric, bound, rfl⟩ :=
    bracedNumber?_eq_some_iff.mp found
  refine ⟨_, .braced filled numeric bound, by simp,
    fun longer other also leads => ?_⟩
  obtain ⟨rfl, -⟩ | ⟨-, _, _, again, whole, -⟩ | ⟨absent, -⟩ :=
    also.cases_of_prefix leads
  · simp
  · rw [found] at again
    cases again
    have length := congrArg List.length whole
    simp at length ⊢
    omega
  · exact absurd absent (by decide)

theorem of_twoDigits (numeric : first.isDigit) (further : second.isDigit)
    (positive : 1 ≤ 10 * digitValue first + digitValue second)
    (bound : 10 * digitValue first + digitValue second < slots) (rest : Text) :
    Starts slots ('$' :: first :: second :: rest) ['$', first, second] rest
      (.slot (10 * digitValue first + digitValue second)) := by
  refine ⟨.twoDigits numeric further positive bound, rfl,
    fun longer other also leads => ?_⟩
  obtain ⟨rfl, -⟩ | ⟨rfl, -⟩ | ⟨-, _, _, -, -, rfl, -⟩ :=
    also.cases_of_prefix leads
  · simp
  · exact absurd numeric (by decide)
  · simp

theorem of_digit (numeric : first.isDigit) (positive : 1 ≤ digitValue first)
    (bound : digitValue first < slots)
    (alone : ∀ second behind, rest = second :: behind → second.isDigit →
      ¬ (1 ≤ 10 * digitValue first + digitValue second ∧
        10 * digitValue first + digitValue second < slots)) :
    Starts slots ('$' :: first :: rest) ['$', first] rest
      (.slot (digitValue first)) := by
  refine ⟨.digit numeric positive bound, rfl, fun longer other also leads => ?_⟩
  obtain ⟨rfl, -⟩ | ⟨rfl, -⟩ | ⟨-, third, behind, same, further, -, group⟩ :=
    also.cases_of_prefix leads
  · exact Nat.le_refl _
  · exact absurd numeric (by decide)
  · exact absurd group (alone third behind same further)

end Starts

namespace Reads

variable {slots : Nat} {rest : Text} {parts : List Part} {first : Char}

theorem plain {character : Char} (plain : character ≠ '$')
    (reads : Reads slots rest parts) :
    Reads slots (character :: rest) (.character character :: parts) := by
  refine .character (fun spelling part spells leads => ?_) reads
  obtain ⟨second, body, rfl⟩ := spells.starts_dollar
  exact plain (List.cons_prefix_cons.mp leads).1.symm

/-- A dollar sign with something else than a token behind it. -/
theorem bare (mark : first ∉ ['$', '&', '\x60', '\x27'])
    (digit : ¬ first.isDigit)
    (unbraced : first = '\x7b' → bracedNumber? rest = none)
    (reads : Reads slots (first :: rest) parts) :
    Reads slots ('$' :: first :: rest) (.character '$' :: parts) := by
  refine .character (fun spelling part spells leads => ?_) reads
  obtain ⟨-, marked | numeric⟩ | ⟨isBrace, _, _, found, -⟩ | ⟨numeric, -⟩ :=
    spells.cases_of_prefix leads
  · exact mark marked
  · exact digit numeric
  · rw [unbraced isBrace] at found
    cases found
  · exact digit numeric

theorem digit (numeric : first.isDigit)
    (alone : ∀ second behind, rest = second :: behind → second.isDigit →
      ¬ (1 ≤ 10 * digitValue first + digitValue second ∧
        10 * digitValue first + digitValue second < slots))
    (reads : Reads slots rest parts) :
    Reads slots ('$' :: first :: rest)
      ((Token.digits first none).parts slots ++ parts) := by
  rw [Token.parts]
  split
  · rename_i group
    exact .token (.of_digit numeric group.1 group.2 alone) reads
  · rename_i noGroup
    refine .character (fun spelling part spells leads => ?_)
      (.plain (ne_dollar_of_isDigit numeric) reads)
    obtain ⟨rfl, -⟩ | ⟨rfl, -⟩ | ⟨-, second, behind, same, further, -, group⟩ :=
      spells.cases_of_prefix leads
    · generalize single : ['$', first] = spelling at spells
      cases spells with
      | digit _ positive bound =>
          obtain rfl : _ = _ := by simpa using single
          exact noGroup ⟨positive, bound⟩
      | dollar | whole | before | after =>
          obtain rfl : _ = _ := by simpa using single
          exact absurd numeric (by decide)
      | braced | twoDigits => simp at single
    · exact absurd numeric (by decide)
    · exact alone second behind same further group

theorem twoDigits {second : Char} (numeric : first.isDigit)
    (further : second.isDigit) (reads : Reads slots rest parts) :
    Reads slots ('$' :: first :: second :: rest)
      ((Token.digits first (some second)).parts slots ++ parts) := by
  by_cases both : 1 ≤ 10 * digitValue first + digitValue second ∧
      10 * digitValue first + digitValue second < slots
  · rw [Token.parts, if_pos both]
    exact .token (.of_twoDigits numeric further both.1 both.2 rest) reads
  · have alone : ∀ third behind, second :: rest = third :: behind →
        third.isDigit →
        ¬ (1 ≤ 10 * digitValue first + digitValue third ∧
          10 * digitValue first + digitValue third < slots) := by
      intro third behind same _
      obtain ⟨rfl, -⟩ := List.cons.inj same
      exact both
    have single :=
      Reads.digit numeric alone (.plain (ne_dollar_of_isDigit further) reads)
    have parts_eq : (Token.digits first (some second)).parts slots =
        (Token.digits first none).parts slots ++ [.character second] := by
      simp only [Token.parts, if_neg both]
      split <;> rfl
    rw [parts_eq, List.append_assoc]
    exact single

/-- The tokens of a template make up its parts. -/
theorem of_tokens (slots : Nat) (template : Text) :
    Reads slots template ((tokens template).flatMap (Token.parts slots)) := by
  induction template using tokens.induct with
  | case1 =>
      rw [tokens]
      exact .nil
  | case2 rest induction =>
      rw [tokens]
      exact .token (.of_mark (by decide) .dollar rest) induction
  | case3 rest induction =>
      rw [tokens]
      exact .token (.of_mark (by decide) .whole rest) induction
  | case4 rest induction =>
      rw [tokens]
      exact .token (.of_mark (by decide) .before rest) induction
  | case5 rest induction =>
      rw [tokens]
      exact .token (.of_mark (by decide) .after rest) induction
  | case6 rest number behind found induction =>
      obtain ⟨spelling, starts⟩ := Starts.of_bracedNumber found
      rw [tokens, found]
      exact .token starts induction
  | case7 rest absent induction =>
      rw [tokens, absent]
      exact .bare (by decide) (by decide) (fun _ => absent) induction
  | case8 first second rest _ _ _ _ _ numeric further induction =>
      rw [tokens, if_pos numeric, if_pos further]
      · exact .twoDigits numeric further induction
      all_goals assumption
  | case9 first second rest _ _ _ _ _ numeric single induction =>
      rw [tokens, if_pos numeric, if_neg single]
      · refine .digit numeric (fun third behind same further => ?_) induction
        obtain ⟨rfl, -⟩ := List.cons.inj same
        exact absurd further single
      all_goals assumption
  | case10 first second rest _ _ _ _ _ plain induction =>
      rw [tokens, if_neg plain]
      · exact .bare (by simp_all) plain (by simp_all) induction
      all_goals assumption
  | case11 first _ _ _ _ _ numeric =>
      rw [tokens, if_pos numeric]
      · exact .digit numeric (by simp) .nil
      all_goals assumption
  | case12 first _ _ _ _ _ plain =>
      rw [tokens, if_neg plain]
      · exact .bare (by simp_all) plain (by simp_all)
          (.plain (by simp_all) .nil)
      all_goals assumption
  | case13 character rest _ _ _ _ _ longer single induction =>
      rw [tokens]
      · by_cases dollar : character = '$'
        · have last : rest = [] := by
            rcases rest with _ | ⟨first, _ | ⟨second, rest⟩⟩
            · rfl
            · exact (single first dollar rfl).elim
            · exact (longer first second rest dollar rfl).elim
          subst last
          refine .character (fun spelling part spells leads => ?_) induction
          obtain ⟨second, body, rfl⟩ := spells.starts_dollar
          simpa using leads.length_le
        · exact .plain dollar induction
      all_goals assumption

end Reads

theorem expand_eq_of_reads {template : Text} {found : Match} {parts : List Part}
    (reads : Reads found.size template parts) :
    expand template found = parts.flatMap (Part.value found) := by
  have values : Token.value found =
      fun token => (token.parts found.size).flatMap (Part.value found) :=
    funext fun token => token.value_eq found
  rw [reads.unique (.of_tokens found.size template), expand, values,
    List.flatMap_assoc]

end NamedGroups.Template
