import ContainerNetwork.Json.Wire
import ContainerNetwork.Text.Blank

/-!
# Texts that spell a value

A text that spells a value is not blank: a scan passes over the blanks that JSON allows and stops at
all others, so that no token comes out of a blank text.
-/

namespace ContainerNetwork

namespace Scanner

/-- A blank is passed over where it may stand at all. -/
theorem start_of_isWhiteSpace {c : Char} (hblank : Text.isWhiteSpace c) :
    start [] c = some {} ∨ start [] c = none := by
  have hdigit : c.isDigit = false := by
    simp only [Text.isWhiteSpace, Text.whiteSpace, List.any_cons, List.any_nil, Bool.or_eq_true,
      Bool.and_eq_true, decide_eq_true_eq, Bool.false_eq_true, or_false, Char.toNat] at hblank
    simp only [Char.isDigit, Bool.and_eq_false_iff, decide_eq_false_iff_not, UInt32.le_iff_toNat_le,
      Char.reduceVal, UInt32.reduceToNat]
    omega
  have hzero : c ≠ '0' := fun heq => by simp [heq] at hdigit
  unfold start
  split
  all_goals first
    | exact .inl rfl
    | cases hblank
    | simp [NumberPart.extend?, hdigit, hzero]

theorem foldlM_blanks {text : List Char} (hblank : ∀ c ∈ text, Text.isWhiteSpace c) :
    text.foldlM step {} = some {} ∨ text.foldlM step {} = none := by
  induction text with
  | nil => exact .inl rfl
  | cons c rest ih =>
      rw [List.forall_mem_cons] at hblank
      rw [List.foldlM_cons]
      rcases start_of_isWhiteSpace hblank.1 with hstart | hstart
      · change (start [] c >>= _) = _ ∨ (start [] c >>= _) = _
        rw [hstart]
        exact ih hblank.2
      · right
        change (start [] c >>= _) = _
        rw [hstart]
        rfl

end Scanner

/-- A blank text spells no value. -/
theorem Json.isBlank_eq_false {text : String} {json : Json}
    (hparse : parse? text = some json) : Text.isBlank text = false := by
  rw [Bool.eq_false_iff]
  intro hblank
  have hblanks : ∀ c ∈ text.toList, Text.isWhiteSpace c := by
    simpa [Text.isBlank] using hblank
  rw [parse?, Token.scan?] at hparse
  rcases Scanner.foldlM_blanks hblanks with hscan | hscan
  · rw [hscan] at hparse
    cases hparse
  · rw [hscan] at hparse
    cases hparse

theorem Wire.read?_of_parse? {α : Type} [Wire α] {text : String} {json : Json}
    (hparse : Json.parse? text = some json) : (Wire.read? text : Option α) = ofJson? json := by
  rw [Wire.read?, hparse]
  rfl

end ContainerNetwork
