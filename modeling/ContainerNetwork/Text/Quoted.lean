import ContainerNetwork.Text.Printable

/-!
# Quoted texts

A text shown in a message stands between quotation marks; what would not show is escaped.
-/

namespace ContainerNetwork.Text

/-- A code point in hexadecimal between braces. -/
def codePoint (c : Char) : List Char :=
  ['\\', 'u', '\x7b'] ++ Nat.toDigits 16 c.toNat ++ ['\x7d']

def escapeQuoted (c : Char) : List Char :=
  match c with
  | '"' => ['\\', '"']
  | '\\' => ['\\', '\\']
  | '\n' => ['\\', 'n']
  | '\r' => ['\\', 'r']
  | '\t' => ['\\', 't']
  | '\x00' => ['\\', '0']
  | c => if isPrintable c then [c] else codePoint c

def quoted (text : String) : String :=
  String.ofList ('"' :: text.toList.flatMap escapeQuoted ++ ['"'])

end ContainerNetwork.Text
