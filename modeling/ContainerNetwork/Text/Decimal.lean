/-!
# Decimal numerals

A natural number is written with the fewest decimal digits, and read back from any nonempty run
of decimal digits.
-/

namespace ContainerNetwork.Decimal

/-- The number a run of digits stands for. -/
def value (digits : List Char) : Nat := Nat.ofDigitChars 10 digits 0

def read? (text : List Char) : Option Nat :=
  if text ≠ [] ∧ text.all Char.isDigit then some (value text) else none

def text (number : Nat) : String := Nat.repr number

theorem toList_text (number : Nat) : (text number).toList = Nat.toDigits 10 number :=
  Nat.toList_repr

theorem read?_text (number : Nat) : read? (text number).toList = some number := by
  have digits : (Nat.toDigits 10 number).all Char.isDigit = true :=
    List.all_eq_true.mpr fun _ => Nat.isDigit_of_mem_toDigits (by decide) (by decide)
  simp [read?, value, toList_text, digits, Nat.toDigits_ne_nil, Nat.ofDigitChars_ten_toDigits]

end ContainerNetwork.Decimal
