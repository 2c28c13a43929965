import ContainerNetwork.Json.Value

/-!
# The tokens of a JSON text

A text is read one character at a time.  The scan keeps the tokens that are complete and what is
known of the one it stands in; a character that ends a number is read again outside it.
-/

namespace ContainerNetwork

/-- A mark of punctuation, or a value that holds no other value. -/
inductive Token where
  | openArray
  | closeArray
  | openObject
  | closeObject
  | colon
  | comma
  | scalar (value : Json)

namespace Surrogate

def isHigh (unit : Nat) : Bool := 0xd800 ≤ unit && unit ≤ 0xdbff

def isLow (unit : Nat) : Bool := 0xdc00 ≤ unit && unit ≤ 0xdfff

/-- The code point that a surrogate pair stands for. -/
def pair (high low : Nat) : Nat := 0x10000 + (high - 0xd800) * 0x400 + (low - 0xdc00)

/-- The characters that a list of code points and surrogates spells.  A surrogate counts only as
half of a pair whose halves stand side by side. -/
def characters? : List Nat → Option (List Char)
  | [] => some []
  | [unit] => if isHigh unit || isLow unit then none else some [Char.ofNat unit]
  | unit :: next :: rest =>
      if isHigh unit then
        if isLow next then (characters? rest).map (Char.ofNat (pair unit next) :: ·) else none
      else if isLow unit then none
      else (characters? (next :: rest)).map (Char.ofNat unit :: ·)

end Surrogate

/-- The part of a number that was read last. -/
inductive NumberPart where
  | sign
  | zero
  | whole
  | point
  | fraction
  | exponentMark
  | exponentSign
  | exponent
  deriving DecidableEq

namespace NumberPart

/-- Whether a number may end after this part. -/
def mayEnd : NumberPart → Bool
  | .zero | .whole | .fraction | .exponent => true
  | _ => false

/-- Reads one more character of a number whose digits are kept last first; `none` when the
character does not belong to the number. -/
def extend? (part : NumberPart) (numeral : Numeral) (c : Char) : Option (NumberPart × Numeral) :=
  let exponent := numeral.exponent.getD { digits := [] }
  let mark := c = 'e' ∨ c = 'E'
  match part with
  | .sign =>
      if c = '0' then some (.zero, { numeral with whole := [c] })
      else if c.isDigit then some (.whole, { numeral with whole := [c] })
      else none
  | .zero =>
      if c = '.' then some (.point, numeral)
      else if mark then some (.exponentMark, numeral)
      else none
  | .whole =>
      if c.isDigit then some (.whole, { numeral with whole := c :: numeral.whole })
      else if c = '.' then some (.point, numeral)
      else if mark then some (.exponentMark, numeral)
      else none
  | .point =>
      if c.isDigit then some (.fraction, { numeral with fraction := [c] }) else none
  | .fraction =>
      if c.isDigit then some (.fraction, { numeral with fraction := c :: numeral.fraction })
      else if mark then some (.exponentMark, numeral)
      else none
  | .exponentMark =>
      if c.isDigit then some (.exponent, { numeral with exponent := some { digits := [c] } })
      else if c = '+' ∨ c = '-' then
        some (.exponentSign,
          { numeral with exponent := some { negative := c = '-', digits := [] } })
      else none
  | .exponentSign | .exponent =>
      if c.isDigit then
        some (.exponent,
          { numeral with exponent := some { exponent with digits := c :: exponent.digits } })
      else none

end NumberPart

/-- The numeral with each run of digits turned round. -/
def Numeral.reverse (numeral : Numeral) : Numeral :=
  { numeral with
    whole := numeral.whole.reverse
    fraction := numeral.fraction.reverse
    exponent := numeral.exponent.map fun exponent =>
      { exponent with digits := exponent.digits.reverse } }

/-- What a scan has read of the token it stands in; digits and units are kept last first. -/
inductive Scan where
  | between
  | word (rest : List Char) (value : Json)
  | number (part : NumberPart) (numeral : Numeral)
  | text (units : List Nat)
  | escape (units : List Nat)
  | hex (units : List Nat) (missing : Nat) (unit : Nat)

/-- A scan part way through a text, with the complete tokens last first. -/
structure Scanner where
  tokens : List Token := []
  scan : Scan := .between

namespace Scanner

def hexDigit? (c : Char) : Option Nat :=
  if '0' ≤ c ∧ c ≤ '9' then some (c.toNat - '0'.toNat)
  else if 'a' ≤ c ∧ c ≤ 'f' then some (c.toNat - 'a'.toNat + 10)
  else if 'A' ≤ c ∧ c ≤ 'F' then some (c.toNat - 'A'.toNat + 10)
  else none

/-- The character that a backslash and a letter stand for. -/
def escaped? (c : Char) : Option Char :=
  match c with
  | '"' => some '"'
  | '\\' => some '\\'
  | '/' => some '/'
  | 'b' => some '\x08'
  | 'f' => some '\x0c'
  | 'n' => some '\n'
  | 'r' => some '\r'
  | 't' => some '\t'
  | _ => none

/-- Reads a character that stands outside every token. -/
def start (tokens : List Token) (c : Char) : Option Scanner :=
  match c with
  | ' ' | '\t' | '\n' | '\r' => some ⟨tokens, .between⟩
  | '[' => some ⟨.openArray :: tokens, .between⟩
  | ']' => some ⟨.closeArray :: tokens, .between⟩
  | '\x7b' => some ⟨.openObject :: tokens, .between⟩
  | '\x7d' => some ⟨.closeObject :: tokens, .between⟩
  | ':' => some ⟨.colon :: tokens, .between⟩
  | ',' => some ⟨.comma :: tokens, .between⟩
  | '"' => some ⟨tokens, .text []⟩
  | 'n' => some ⟨tokens, .word ['u', 'l', 'l'] .null⟩
  | 't' => some ⟨tokens, .word ['r', 'u', 'e'] (.bool true)⟩
  | 'f' => some ⟨tokens, .word ['a', 'l', 's', 'e'] (.bool false)⟩
  | '-' => some ⟨tokens, .number .sign { negative := true, whole := [] }⟩
  | c =>
      (NumberPart.sign.extend? { whole := [] } c).map fun (part, numeral) =>
        ⟨tokens, .number part numeral⟩

def numberToken (numeral : Numeral) : Token := .scalar (.number numeral.reverse)

def textToken (units : List Nat) : Token :=
  .scalar (.string ((Surrogate.characters? units.reverse).map String.ofList))

def step (scanner : Scanner) (c : Char) : Option Scanner :=
  let tokens := scanner.tokens
  match scanner.scan with
  | .between => start tokens c
  | .word [] _ => none
  | .word (expected :: rest) value =>
      if c ≠ expected then none
      else if rest = [] then some ⟨.scalar value :: tokens, .between⟩
      else some ⟨tokens, .word rest value⟩
  | .number part numeral =>
      match part.extend? numeral c with
      | some (part, numeral) => some ⟨tokens, .number part numeral⟩
      | none => if part.mayEnd then start (numberToken numeral :: tokens) c else none
  | .text units =>
      if c = '"' then some ⟨textToken units :: tokens, .between⟩
      else if c = '\\' then some ⟨tokens, .escape units⟩
      else if c.toNat < 0x20 then none
      else some ⟨tokens, .text (c.toNat :: units)⟩
  | .escape units =>
      if c = 'u' then some ⟨tokens, .hex units 4 0⟩
      else (escaped? c).map fun c => ⟨tokens, .text (c.toNat :: units)⟩
  | .hex units missing unit =>
      (hexDigit? c).map fun digit =>
        let unit := unit * 16 + digit
        if missing ≤ 1 then ⟨tokens, .text (unit :: units)⟩
        else ⟨tokens, .hex units (missing - 1) unit⟩

/-- The tokens of a text that ends here. -/
def finish (scanner : Scanner) : Option (List Token) :=
  match scanner.scan with
  | .between => some scanner.tokens.reverse
  | .number part numeral =>
      if part.mayEnd then some (numberToken numeral :: scanner.tokens).reverse else none
  | _ => none

end Scanner

/-- The tokens of a text, or `none` when a part of it is no token. -/
def Token.scan? (text : List Char) : Option (List Token) :=
  text.foldlM Scanner.step {} >>= Scanner.finish

end ContainerNetwork
