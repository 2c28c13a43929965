import ContainerNetwork.Json.Value

/-!
# Values that are kept before they are read

Where a record's type stands among its own members, all of it is held until that member is known.
What is held has to be representable: its strings are texts, its numbers lie in the range of a
binary64 number, and its containers nest no deeper than a given limit.

A number is held as a significand of at most 64 bits and a power of ten.  Digits that no longer fit
the significand are dropped; before the point they raise the power of ten.
-/

namespace ContainerNetwork

namespace Significand

/-- Appends digits to a significand until one no longer fits 64 bits; the digits left over are
returned. -/
def absorb (significand : Nat) : List Char → Nat × List Char
  | [] => (significand, [])
  | digit :: rest =>
      let longer := significand * 10 + (digit.toNat - '0'.toNat)
      if longer < UInt64.size then absorb longer rest else (significand, digit :: rest)

/-- The nearest number with at most 53 significant bits; of two the even one. -/
def round53 (number : Nat) : Nat :=
  let dropped := number.log2 - 52
  let unit := Nat.pow 2 dropped
  let kept := number / unit
  let rest := number % unit * 2
  let up := unit < rest ∨ (unit = rest ∧ kept % 2 = 1)
  (if up then kept + 1 else kept) * unit

/-- The least product of two binary64 numbers that rounds past the largest of them. -/
def overflow : Nat := Nat.pow 2 1024 - Nat.pow 2 970

end Significand

namespace Numeral

/-- The power of ten written at the end of a number. -/
def writtenPower (numeral : Numeral) : Int :=
  match numeral.exponent with
  | none => 0
  | some exponent =>
      let size : Int := Nat.ofDigitChars 10 exponent.digits 0
      if exponent.negative then -size else size

/-- Whether the number has a finite binary64 value. -/
def isFinite (numeral : Numeral) : Bool :=
  let (whole, wholeLeft) := Significand.absorb 0 numeral.whole
  let (significand, fractionLeft) := Significand.absorb whole numeral.fraction
  let absorbed : Int := numeral.fraction.length - fractionLeft.length
  let power := numeral.writtenPower + wholeLeft.length - absorbed
  significand = 0 ∨ power ≤ 0 ∨ (power ≤ 308 ∧
    Significand.round53 significand * Significand.round53 (Nat.pow 10 power.toNat)
      < Significand.overflow)

end Numeral

namespace Json

mutual

/-- Whether a value can be held, with containers nested at most `depth` deep. -/
def canKeep (depth : Nat) : Json → Bool
  | .null => true
  | .bool _ => true
  | .number numeral => numeral.isFinite
  | .string text => text.isSome
  | .array items => depth ≠ 0 && canKeepItems (depth - 1) items
  | .object members => depth ≠ 0 && canKeepMembers (depth - 1) members

def canKeepItems (depth : Nat) : List Json → Bool
  | [] => true
  | item :: items => item.canKeep depth && canKeepItems depth items

def canKeepMembers (depth : Nat) : List (Option String × Json) → Bool
  | [] => true
  | (name, value) :: members => name.isSome && value.canKeep depth && canKeepMembers depth members

end

end Json

end ContainerNetwork
