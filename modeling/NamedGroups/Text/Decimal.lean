import NamedGroups.Text

/-!
# Decimal numerals

Numbers are written in decimal without leading zeros.  Reading accepts leading
zeros, and refuses a text that is empty or holds anything but digits.
-/

namespace NamedGroups.Text

def decimal (number : Nat) : Text := Nat.toDigits 10 number

/-- The number that a non-empty text of digits stands for. -/
def readDecimal? (digits : Text) : Option Nat :=
  if digits ≠ [] ∧ digits.all Char.isDigit then
    some (Nat.ofDigitChars 10 digits 0)
  else none

/-- The number of values of a machine word.  Numbers from here on are too large
to count with. -/
def wordLimit : Nat := 18446744073709551616

def readWord? (digits : Text) : Option Nat :=
  (readDecimal? digits).filter (· < wordLimit)

theorem decimal_ne_nil (number : Nat) : decimal number ≠ [] :=
  Nat.toDigits_ne_nil

theorem all_isDigit_decimal (number : Nat) :
    (decimal number).all Char.isDigit :=
  List.all_eq_true.mpr fun _ member =>
    Nat.isDigit_of_mem_toDigits (by decide) (by decide) member

theorem ofDigitChars_decimal (number : Nat) :
    Nat.ofDigitChars 10 (decimal number) 0 = number :=
  Nat.ofDigitChars_ten_toDigits

theorem decimal_injective {left right : Nat}
    (same : decimal left = decimal right) : left = right := by
  rw [← ofDigitChars_decimal left, same, ofDigitChars_decimal]

end NamedGroups.Text
