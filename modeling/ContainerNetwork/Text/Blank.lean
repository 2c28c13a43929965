/-!
# Blank texts

A text is blank when it holds nothing but the characters with the Unicode property `White_Space`.
-/

namespace ContainerNetwork.Text

/-- The code points with the property `White_Space`, as inclusive ranges. -/
def whiteSpace : List (Nat × Nat) :=
  [(0x9, 0xd), (0x20, 0x20), (0x85, 0x85), (0xa0, 0xa0), (0x1680, 0x1680), (0x2000, 0x200a),
    (0x2028, 0x2029), (0x202f, 0x202f), (0x205f, 0x205f), (0x3000, 0x3000)]

def isWhiteSpace (c : Char) : Bool :=
  whiteSpace.any fun range => range.1 ≤ c.toNat && c.toNat ≤ range.2

def isBlank (text : String) : Bool := text.toList.all isWhiteSpace

end ContainerNetwork.Text
