import Mathlib.Data.List.Lex
import Mathlib.Data.String.Basic

/-!
# The order of texts and of their bytes

Texts are ordered as their characters are, one after the other.  UTF-8 keeps that order: of two
characters the one with the lower code has the encoding that comes first, and the two encodings
differ before either of them ends, whatever follows.  The bytes of two texts are therefore ordered
as the texts are.
-/

namespace ContainerNetwork.Text

/-- The bytes of a text in UTF-8. -/
def bytes (text : String) : List UInt8 := text.toUTF8.data.toList

theorem bytes_eq (text : String) : bytes text = text.toList.flatMap String.utf8EncodeChar := by
  have hencode : text.toList.utf8Encode = text.toUTF8 := String.utf8Encode_toList
  rw [bytes, ← hencode, List.utf8Encode, List.data_toByteArray]

theorem utf8EncodeChar_append_lt {first second : Char} (hlt : first < second)
    (rest more : List UInt8) :
    String.utf8EncodeChar first ++ rest < String.utf8EncodeChar second ++ more := by
  have hcodes : first.val.toNat < second.val.toNat := UInt32.lt_iff_toNat_lt.mp hlt
  have hbound : second.val.toNat < 0x110000 := by
    have hvalid := second.valid
    simp only [UInt32.isValidChar, Nat.isValidChar] at hvalid
    omega
  -- each byte after the first one carries the next six bits
  have hdigits (code : Nat) :
      code / 4096 = code / 64 / 64 ∧ code / 262144 = code / 64 / 64 / 64 := by omega
  simp only [String.utf8EncodeChar]
  generalize first.val.toNat = low at hcodes ⊢
  generalize second.val.toNat = high at hcodes hbound ⊢
  -- the two lengths are those of four ranges of codes, so they ascend with the codes
  by_cases htail : rest < more <;> split_ifs <;>
    simp only [List.cons_append, List.nil_append, List.cons_lt_cons_iff, UInt8.lt_iff_toNat_lt,
      ← UInt8.toNat_inj, UInt8.toNat_ofNat', hdigits, htail, and_true, and_false, or_false] <;>
    omega

theorem flatMap_utf8EncodeChar_lt {left right : List Char} (hlt : left < right) :
    left.flatMap String.utf8EncodeChar < right.flatMap String.utf8EncodeChar := by
  induction left generalizing right with
  | nil =>
      cases right with
      | nil => exact absurd hlt (lt_irrefl _)
      | cons second more =>
          rw [List.flatMap_cons]
          cases hbytes : String.utf8EncodeChar second ++ more.flatMap String.utf8EncodeChar with
          | nil => simp [String.utf8EncodeChar_ne_nil] at hbytes
          | cons byte others => exact List.nil_lt_cons byte others
  | cons first rest ih =>
      cases right with
      | nil => exact absurd hlt (List.not_lt_nil _)
      | cons second more =>
          rw [List.flatMap_cons, List.flatMap_cons]
          rcases List.cons_lt_cons_iff.mp hlt with hfirst | ⟨rfl, hrest⟩
          · exact utf8EncodeChar_append_lt hfirst _ _
          · exact List.append_left_lt (ih hrest)

theorem bytes_lt_of_lt {left right : String} (hlt : left < right) : bytes left < bytes right := by
  rw [bytes_eq, bytes_eq]
  exact flatMap_utf8EncodeChar_lt (String.lt_iff_toList_lt.mp hlt)

/-- The bytes of texts are ordered as the texts are. -/
theorem bytes_lt_bytes_iff {left right : String} : bytes left < bytes right ↔ left < right := by
  refine ⟨fun hlt => ?_, bytes_lt_of_lt⟩
  rcases lt_trichotomy left right with hless | rfl | hgreater
  · exact hless
  · exact absurd hlt (List.lt_irrefl _)
  · exact absurd (bytes_lt_of_lt hgreater) (List.lt_asymm hlt)

theorem bytes_le_bytes_iff {left right : String} : bytes left ≤ bytes right ↔ left ≤ right := by
  rw [← List.not_lt, bytes_lt_bytes_iff, not_lt]

end ContainerNetwork.Text
