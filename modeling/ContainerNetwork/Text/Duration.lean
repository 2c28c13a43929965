import ContainerNetwork.Text.Decimal

/-!
# Durations

A duration of whole milliseconds is shown in seconds from one second on and in milliseconds below,
without trailing zeros behind the point.
-/

namespace ContainerNetwork.Duration

/-- The digits behind the point for a number of thousandths. -/
def thousandths (count : Nat) : List Char :=
  let digits := [count / 100, count / 10 % 10, count % 10].map Nat.digitChar
  (digits.reverse.dropWhile (· = '0')).reverse

def text (milliseconds : Nat) : String :=
  if milliseconds = 0 then "0ns"
  else if milliseconds < 1000 then Decimal.text milliseconds ++ "ms"
  else
    let seconds := Decimal.text (milliseconds / 1000)
    if milliseconds % 1000 = 0 then seconds ++ "s"
    else seconds ++ "." ++ String.ofList (thousandths (milliseconds % 1000)) ++ "s"

end ContainerNetwork.Duration
