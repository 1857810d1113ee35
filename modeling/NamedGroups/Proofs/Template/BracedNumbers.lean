import NamedGroups.Engine.BuiltIn
import NamedGroups.NamedRegex.Compile
import NamedGroups.NamedRegex.Search
import NamedGroups.Proofs.Template.Seams

/-!
# Numbers between braces

A token `${12}` names its slot by a number of any length, with any zeros in
front.  A number that a machine word cannot hold is none at all: then nothing is
a token there, and the dollar sign, the braces and the digits are copied one by
one.  So a number beyond every slot mostly stands for nothing, as the number of
a missing slot should, but a number beyond the machine word stands for itself.
-/

namespace NamedGroups.Template

def bracedToken (digits : Text) : Text := '$' :: '\x7b' :: (digits ++ ['\x7d'])

variable {digits : Text}

private theorem not_dollar_of_mem_bracedToken
    (numeric : digits.all Char.isDigit) :
    ∀ character ∈ '\x7b' :: (digits ++ ['\x7d']), character ≠ '$' := by
  intro character member
  simp only [List.mem_cons, List.mem_append, List.not_mem_nil, or_false]
    at member
  obtain rfl | inside | rfl := member
  · decide
  · exact ne_dollar_of_isDigit (List.all_eq_true.mp numeric character inside)
  · decide

/-- A number that a machine word holds is the number of a slot. -/
theorem expand_bracedToken_of_lt (filled : digits ≠ [])
    (numeric : digits.all Char.isDigit)
    (bound : Nat.ofDigitChars 10 digits 0 < Text.wordLimit) (found : Match)
    (rest : Text) :
    expand (bracedToken digits ++ rest) found =
      slotValue found (Nat.ofDigitChars 10 digits 0) ++ expand rest found := by
  have braced : bracedNumber? (digits ++ '\x7d' :: rest) =
      some (Nat.ofDigitChars 10 digits 0, rest) :=
    bracedNumber?_eq_some_iff.mpr ⟨digits, rfl, filled, numeric, bound, rfl⟩
  obtain ⟨spelling, starts⟩ := Starts.of_bracedNumber braced
  have token :
      bracedToken digits ++ rest =
        '$' :: '\x7b' :: (digits ++ '\x7d' :: rest) := by
    simp [bracedToken]
  rw [token]
  exact expand_of_starts starts

private theorem not_spells_bracedToken (numeric : digits.all Char.isDigit)
    (overflow : Text.wordLimit ≤ Nat.ofDigitChars 10 digits 0) (rest : Text)
    {slots : Nat} {spelling : Text} {part : Part}
    (spells : Spells slots spelling part) :
    ¬ spelling <+: bracedToken digits ++ rest := by
  intro leads
  have token :
      bracedToken digits ++ rest =
        '$' :: '\x7b' :: (digits ++ '\x7d' :: rest) := by
    simp [bracedToken]
  rw [token] at leads
  obtain ⟨-, marked | digit⟩ | ⟨-, number, behind, found, -⟩ | ⟨digit, -⟩ :=
    spells.cases_of_prefix leads
  · exact absurd marked (by decide)
  · exact absurd digit (by decide)
  · obtain ⟨others, whole, -, otherNumeric, bound, -⟩ :=
      bracedNumber?_eq_some_iff.mp found
    obtain rfl : digits = others := by
      rw [← takeWhile_isDigit numeric rest, whole,
        takeWhile_isDigit otherNumeric behind]
    exact Nat.lt_irrefl _ (Nat.lt_of_lt_of_le bound overflow)
  · exact absurd digit (by decide)

private theorem expand_bracedToken_of_le (numeric : digits.all Char.isDigit)
    (overflow : Text.wordLimit ≤ Nat.ofDigitChars 10 digits 0) (found : Match)
    (rest : Text) :
    expand (bracedToken digits ++ rest) found =
      bracedToken digits ++ expand rest found := by
  have bare :
      expand ('$' :: ('\x7b' :: (digits ++ ['\x7d']) ++ rest)) found =
        '$' :: expand ('\x7b' :: (digits ++ ['\x7d']) ++ rest) found :=
    expand_of_unspelled fun _ _ spells =>
      not_spells_bracedToken numeric overflow rest spells
  rw [expand_append_of_plain (not_dollar_of_mem_bracedToken numeric)] at bare
  exact bare

/-- A number between braces stands for the text of its slot, or for nothing if
there is no such slot or it took no part, exactly if a machine word holds it:
otherwise the token is copied.  The bound on the slots holds of every match,
since their number is a machine word itself. -/
theorem expand_bracedToken (digits : Text) (filled : digits ≠ [])
    (numeric : digits.all Char.isDigit) (found : Match) (rest : Text) :
    expand (bracedToken digits ++ rest) found =
        (if Nat.ofDigitChars 10 digits 0 < Text.wordLimit then
           slotValue found (Nat.ofDigitChars 10 digits 0)
         else bracedToken digits) ++ expand rest found ∧
      (found.size ≤ Text.wordLimit →
        (expand (bracedToken digits ++ rest) found =
            slotValue found (Nat.ofDigitChars 10 digits 0) ++
              expand rest found ↔
          Nat.ofDigitChars 10 digits 0 < Text.wordLimit)) := by
  rcases Nat.lt_or_ge (Nat.ofDigitChars 10 digits 0) Text.wordLimit
    with bound | overflow
  · have expanded := expand_bracedToken_of_lt filled numeric bound found rest
    rw [if_pos bound]
    exact ⟨expanded, fun _ => iff_of_true expanded bound⟩
  · have copied := expand_bracedToken_of_le numeric overflow found rest
    rw [if_neg (Nat.not_lt_of_ge overflow)]
    refine ⟨copied, fun slots => iff_of_false ?_ (Nat.not_lt_of_ge overflow)⟩
    have missing : found.slots[Nat.ofDigitChars 10 digits 0]? = none :=
      List.getElem?_eq_none (Nat.le_trans slots overflow)
    have nothing : slotValue found (Nat.ofDigitChars 10 digits 0) = [] := by
      simp [slotValue, Match.get?, Match.slotText, missing]
    rw [copied, nothing, List.nil_append]
    intro same
    have length := congrArg List.length same
    simp only [bracedToken, List.length_append, List.length_cons] at length
    omega

/-- Zeros in front do not matter, not even where there are more digits than any
machine word has. -/
theorem expand_bracedToken_zeros :
    ∃ found,
      found = Match.ofSlots ['b', 'é'] [some ⟨0, 3⟩, none, some ⟨1, 3⟩] ∅ ∧
        expand (bracedToken (List.replicate 30 '0' ++ ['2']) ++ ['x']) found =
          ['é', 'x'] ∧
        expand (bracedToken (Text.decimal 18446744073709551615) ++ ['x'])
            found = ['x'] := by
  refine ⟨_, rfl, ?_, ?_⟩
  · have expanded :=
      (expand_bracedToken (List.replicate 30 '0' ++ ['2']) (by decide)
        (by decide)
        (Match.ofSlots ['b', 'é'] [some ⟨0, 3⟩, none, some ⟨1, 3⟩] ∅) ['x']).1
    rw [expanded]
    decide +kernel
  · have expanded := (expand_bracedToken (Text.decimal 18446744073709551615)
      (by decide +kernel) (by decide +kernel)
      (Match.ofSlots ['b', 'é'] [some ⟨0, 3⟩, none, some ⟨1, 3⟩] ∅) ['x']).1
    rw [expanded]
    decide +kernel

/-- The least number that is copied, for a match that has one slot. -/
theorem expand_bracedToken_overflow :
    (NamedRegex.compile Engine.builtIn (.text ['a']) none).toOption.bind
        (fun regex =>
          (regex.searchFrom ['a'] 0).toOption.join.map fun found =>
            (found.size,
              expand (bracedToken (Text.decimal 18446744073709551616) ++ [])
                found,
              slotValue found 18446744073709551616 ++ expand [] found)) =
      some (1, bracedToken (Text.decimal 18446744073709551616), []) := by
  decide +kernel

end NamedGroups.Template
