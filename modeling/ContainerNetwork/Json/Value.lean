/-!
# JSON values

A value is kept as it was written: the members of an object in their order and with their
repetitions, a number as its digits.  What a reader makes of them is decided where they are read.
-/

namespace ContainerNetwork

/-- The power of ten at the end of a number. -/
structure Exponent where
  negative : Bool := false
  digits : List Char
  deriving DecidableEq

/-- A number as its digits; one without a fraction has no fraction digits. -/
structure Numeral where
  negative : Bool := false
  whole : List Char
  fraction : List Char := []
  exponent : Option Exponent := none
  deriving DecidableEq

namespace Numeral

def ofNat (number : Nat) : Numeral := { whole := Nat.toDigits 10 number }

/-- The natural number that is written without sign, fraction and exponent. -/
def natural? (numeral : Numeral) : Option Nat :=
  if numeral.negative ∨ numeral.fraction ≠ [] ∨ numeral.exponent ≠ none then none
  else some (Nat.ofDigitChars 10 numeral.whole 0)

theorem natural?_ofNat (number : Nat) : (ofNat number).natural? = some number := by
  simp [ofNat, natural?, Nat.ofDigitChars_ten_toDigits]

end Numeral

/-- A JSON value.  A string is `none` when an escape in it names half of a surrogate pair, so that
no text is its content. -/
inductive Json where
  | null
  | bool (value : Bool)
  | number (numeral : Numeral)
  | string (text : Option String)
  | array (items : List Json)
  | object (members : List (Option String × Json))
  deriving Inhabited

namespace Json

def ofText (text : String) : Json := .string (some text)

def ofNat (number : Nat) : Json := .number (.ofNat number)

def ofMembers (members : List (String × Json)) : Json :=
  .object (members.map fun member => (some member.1, member.2))

end Json

end ContainerNetwork
