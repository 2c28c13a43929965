import ContainerNetwork.Json.Token

/-!
# Writing JSON values

A value is written as the texts of its tokens with nothing between them.  Within a string only
the quotation mark, the backslash and the characters below U+0020 are escaped.
-/

namespace ContainerNetwork

namespace Numeral

def exponentText (exponent : Exponent) : List Char :=
  'e' :: (if exponent.negative then ['-'] else []) ++ exponent.digits

def text (numeral : Numeral) : List Char :=
  (if numeral.negative then ['-'] else []) ++ numeral.whole
    ++ (if numeral.fraction = [] then [] else '.' :: numeral.fraction)
    ++ (numeral.exponent.map exponentText).getD []

end Numeral

namespace Token

def hexDigit (digit : Nat) : Char := Nat.digitChar digit

/-- How a character is written inside a string. -/
def escape (c : Char) : List Char :=
  match c with
  | '"' => ['\\', '"']
  | '\\' => ['\\', '\\']
  | '\x08' => ['\\', 'b']
  | '\x0c' => ['\\', 'f']
  | '\n' => ['\\', 'n']
  | '\r' => ['\\', 'r']
  | '\t' => ['\\', 't']
  | c =>
      if c.toNat < 0x20 then ['\\', 'u', '0', '0', hexDigit (c.toNat / 16), hexDigit (c.toNat % 16)]
      else [c]

/-- A string literal; a string that is no text is written as one unpaired surrogate. -/
def quote : Option String → List Char
  | some text => '"' :: text.toList.flatMap escape ++ ['"']
  | none => ['"', '\\', 'u', 'd', '8', '0', '0', '"']

def text : Token → List Char
  | .openArray => ['[']
  | .closeArray => [']']
  | .openObject => ['\x7b']
  | .closeObject => ['\x7d']
  | .colon => [':']
  | .comma => [',']
  | .scalar .null => ['n', 'u', 'l', 'l']
  | .scalar (.bool true) => ['t', 'r', 'u', 'e']
  | .scalar (.bool false) => ['f', 'a', 'l', 's', 'e']
  | .scalar (.number numeral) => numeral.text
  | .scalar (.string text) => quote text
  | .scalar (.array _) => []
  | .scalar (.object _) => []

end Token

namespace Json

mutual

def tokens : Json → List Token
  | .array [] => [.openArray, .closeArray]
  | .array (item :: items) => .openArray :: (item.tokens ++ itemTokens items)
  | .object [] => [.openObject, .closeObject]
  | .object ((name, value) :: members) =>
      .openObject :: .scalar (.string name) :: .colon :: (value.tokens ++ memberTokens members)
  | .null => [.scalar .null]
  | .bool value => [.scalar (.bool value)]
  | .number numeral => [.scalar (.number numeral)]
  | .string text => [.scalar (.string text)]

/-- What follows the first item of an array. -/
def itemTokens : List Json → List Token
  | [] => [.closeArray]
  | item :: items => .comma :: (item.tokens ++ itemTokens items)

/-- What follows the first member of an object. -/
def memberTokens : List (Option String × Json) → List Token
  | [] => [.closeObject]
  | (name, value) :: members =>
      .comma :: .scalar (.string name) :: .colon :: (value.tokens ++ memberTokens members)

end

/-- The compact text of a value. -/
def render (value : Json) : String := String.ofList (value.tokens.flatMap Token.text)

end Json

end ContainerNetwork
