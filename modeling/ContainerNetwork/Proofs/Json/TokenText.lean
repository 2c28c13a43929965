import ContainerNetwork.Json.Reader
import ContainerNetwork.Json.Writer

/-!
# Scanning written tokens

A number is complete only once the character after it is read, so that a scan may stand behind a
token in two ways.  In a written value every number is followed by a mark of punctuation, which
completes it.  Values with texts for strings and natural numbers for numbers are therefore scanned
back token by token.
-/

namespace ContainerNetwork

/-- The values that records are written as: their strings are texts, their numbers natural. -/
inductive Json.IsPlain : Json → Prop where
  | null : IsPlain .null
  | bool (value : Bool) : IsPlain (.bool value)
  | natural (number : Nat) : IsPlain (.ofNat number)
  | text (text : String) : IsPlain (.ofText text)
  | array {items : List Json} (hitems : ∀ item ∈ items, item.IsPlain) : IsPlain (.array items)
  | object {members : List (String × Json)} (hmembers : ∀ member ∈ members, member.2.IsPlain) :
      IsPlain (.ofMembers members)

namespace Surrogate

theorem isHigh_toNat (c : Char) : isHigh c.toNat = false := by
  rcases c.valid with h | h <;> simp only [isHigh, Char.toNat, UInt32.toNat] at * <;> grind

theorem isLow_toNat (c : Char) : isLow c.toNat = false := by
  rcases c.valid with h | h <;> simp only [isLow, Char.toNat, UInt32.toNat] at * <;> grind

/-- The code points of characters spell these characters. -/
theorem characters?_map_toNat (text : List Char) :
    characters? (text.map Char.toNat) = some text := by
  induction text with
  | nil => rfl
  | cons c rest ih =>
      cases rest with
      | nil => simp [characters?, isHigh_toNat, isLow_toNat]
      | cons next rest =>
          rw [List.map_cons] at ih ⊢
          rw [List.map_cons, characters?, ih]
          simp [isHigh_toNat, isLow_toNat]

end Surrogate

namespace Scanner

/-- The scan stands behind these tokens, the last of them first. -/
inductive StandsBehind : Scanner → List Token → Prop where
  | between (tokens : List Token) : StandsBehind ⟨tokens, .between⟩ tokens
  | number (tokens : List Token) {part : NumberPart} (numeral : Numeral)
      (hpart : part = .zero ∨ part = .whole) :
      StandsBehind ⟨tokens, .number part numeral⟩ (numberToken numeral :: tokens)

theorem finish_of_standsBehind {scanner : Scanner} {tokens : List Token}
    (hbehind : scanner.StandsBehind tokens) : scanner.finish = some tokens.reverse := by
  cases hbehind with
  | between => rfl
  | number tokens numeral hpart => rcases hpart with rfl | rfl <;> rfl

/-- A mark of punctuation completes what stands before it. -/
theorem step_mark {scanner : Scanner} {tokens : List Token}
    (hbehind : scanner.StandsBehind tokens) {c : Char} {mark : Token}
    (hstart : ∀ tokens, start tokens c = some ⟨mark :: tokens, .between⟩)
    (hzero : ∀ numeral, NumberPart.zero.extend? numeral c = none)
    (hwhole : ∀ numeral, NumberPart.whole.extend? numeral c = none) :
    scanner.step c = some ⟨mark :: tokens, .between⟩ := by
  cases hbehind with
  | between => exact hstart tokens
  | number tokens numeral hpart =>
      rcases hpart with rfl | rfl
      · simp only [step, hzero]
        exact hstart _
      · simp only [step, hwhole]
        exact hstart _

theorem hexDigit?_hexDigit : ∀ digit < 16, hexDigit? (Token.hexDigit digit) = some digit := by
  decide

/-- What is written for a character adds its code point to a string. -/
theorem foldlM_escape (c : Char) (tokens : List Token) (units : List Nat) :
    (Token.escape c).foldlM step ⟨tokens, .text units⟩ =
      some ⟨tokens, .text (c.toNat :: units)⟩ := by
  unfold Token.escape
  split
  case h_8 hquote hbackslash _ _ _ _ _ =>
    split
    · rename_i hcontrol
      have hhigh := hexDigit?_hexDigit (c.toNat / 16) (by omega)
      have hlow := hexDigit?_hexDigit (c.toNat % 16) (by omega)
      have hzero : hexDigit? '0' = some 0 := rfl
      have hunit : c.toNat / 16 * 16 + c.toNat % 16 = c.toNat := Nat.div_add_mod' _ _
      simp [step, hhigh, hlow, hzero, hunit]
    · rename_i hshown
      have hother : c ≠ '"' ∧ c ≠ '\\' := ⟨hquote, hbackslash⟩
      simp [step, hother, hshown]
  all_goals rfl

theorem foldlM_escapes (text : List Char) (tokens : List Token) (units : List Nat) :
    (text.flatMap Token.escape).foldlM step ⟨tokens, .text units⟩ =
      some ⟨tokens, .text ((text.map Char.toNat).reverse ++ units)⟩ := by
  induction text generalizing units with
  | nil => rfl
  | cons c rest ih =>
      rw [List.flatMap_cons, List.foldlM_append, foldlM_escape]
      simp [ih]

theorem textToken_map_toNat (text : String) :
    textToken (text.toList.map Char.toNat).reverse = .scalar (.ofText text) := by
  rw [textToken, List.reverse_reverse, Surrogate.characters?_map_toNat]
  simp [Json.ofText]

theorem foldlM_quote (text : String) (tokens : List Token) :
    (Token.quote (some text)).foldlM step ⟨tokens, .between⟩ =
      some ⟨.scalar (.ofText text) :: tokens, .between⟩ := by
  have hescapes := foldlM_escapes text.toList tokens []
  rw [List.append_nil] at hescapes
  change ((text.toList.flatMap Token.escape ++ ['"'])).foldlM step ⟨tokens, .text []⟩ = _
  rw [List.foldlM_append, hescapes, ← textToken_map_toNat]
  rfl

/-- The digits of a number go on a number that did not start with zero. -/
theorem foldlM_digits {digits : List Char} (hdigits : ∀ c ∈ digits, c.isDigit)
    (tokens : List Token) (numeral : Numeral) :
    digits.foldlM step ⟨tokens, .number .whole numeral⟩ =
      some ⟨tokens, .number .whole
        { numeral with whole := digits.reverse ++ numeral.whole }⟩ := by
  induction digits generalizing numeral with
  | nil => rfl
  | cons c rest ih =>
      rw [List.forall_mem_cons] at hdigits
      have hstep : step ⟨tokens, .number .whole numeral⟩ c =
          some ⟨tokens, .number .whole { numeral with whole := c :: numeral.whole }⟩ := by
        simp [step, NumberPart.extend?, hdigits.1]
      rw [List.foldlM_cons, hstep]
      simp [ih hdigits.2]

/-- The digits of a positive number start with a digit other than zero. -/
theorem toDigits_eq_cons {number : Nat} (hnumber : 0 < number) :
    ∃ first rest, Nat.toDigits 10 number = first :: rest ∧ first ≠ '0' := by
  induction number using Nat.strongRecOn with
  | ind number ih =>
      by_cases hsmall : number < 10
      · have hchar : ∀ digit < 10, 0 < digit → Nat.digitChar digit ≠ '0' := by decide
        exact ⟨number.digitChar, [], Nat.toDigits_of_lt_base hsmall, hchar number hsmall hnumber⟩
      · obtain ⟨first, rest, hdigits, hfirst⟩ := ih (number / 10) (by omega) (by omega)
        refine ⟨first, rest ++ [(number % 10).digitChar], ?_, hfirst⟩
        rw [Nat.toDigits_of_base_le (by omega) (by omega), hdigits]
        rfl

theorem start_digit {c : Char} (hdigit : c.isDigit) (hzero : c ≠ '0') (tokens : List Token) :
    start tokens c = some ⟨tokens, .number .whole { whole := [c] }⟩ := by
  unfold start
  split
  case h_16 => simp [NumberPart.extend?, hdigit, hzero]
  all_goals exact absurd hdigit (by decide)

/-- What is written for a natural number is scanned as far as its last digit. -/
theorem foldlM_toDigits (number : Nat) (tokens : List Token) :
    ∃ scanner, (Nat.toDigits 10 number).foldlM step ⟨tokens, .between⟩ = some scanner ∧
      scanner.StandsBehind (.scalar (.ofNat number) :: tokens) := by
  rcases Nat.eq_zero_or_pos number with rfl | hnumber
  · refine ⟨⟨tokens, .number .zero { whole := ['0'] }⟩, ?_, .number tokens _ (.inl rfl)⟩
    rw [Nat.toDigits_zero]
    rfl
  · obtain ⟨first, rest, hdigits, hfirst⟩ := toDigits_eq_cons hnumber
    have hall : ∀ c ∈ first :: rest, c.isDigit := fun c hc =>
      Nat.isDigit_of_mem_toDigits (by decide) (by decide) (hdigits ▸ hc)
    rw [List.forall_mem_cons] at hall
    have hnumeral : Json.ofNat number =
        .number (Numeral.reverse { whole := rest.reverse ++ [first] }) := by
      simp [Json.ofNat, Numeral.ofNat, Numeral.reverse, hdigits]
    refine ⟨⟨tokens, .number .whole { whole := rest.reverse ++ [first] }⟩, ?_, ?_⟩
    · rw [hdigits, List.foldlM_cons]
      change (start tokens first).bind _ = _
      rw [start_digit hall.1 hfirst, Option.bind_some, foldlM_digits hall.2]
    · rw [hnumeral]
      exact .number tokens _ (.inr rfl)

/-- From a scanner that stands behind `tokens`, the texts of the `written` tokens lead to one that
stands behind these as well. -/
def Scans (scanner : Scanner) (tokens written : List Token) : Prop :=
  ∃ final, (written.flatMap Token.text).foldlM step scanner = some final ∧
    final.StandsBehind (written.reverse ++ tokens)

theorem Scans.append {scanner : Scanner} {tokens first second : List Token}
    (hfirst : scanner.Scans tokens first)
    (hsecond : ∀ middle : Scanner, middle.StandsBehind (first.reverse ++ tokens) →
      middle.Scans (first.reverse ++ tokens) second) :
    scanner.Scans tokens (first ++ second) := by
  obtain ⟨middle, hrun, hmiddle⟩ := hfirst
  obtain ⟨final, hrest, hfinal⟩ := hsecond middle hmiddle
  refine ⟨final, ?_, by simpa using hfinal⟩
  rw [List.flatMap_append, List.foldlM_append, hrun]
  exact hrest

/-- A mark is scanned wherever a token is complete, and leaves the scan between tokens. -/
theorem scans_mark {mark : Token} {c : Char} (htext : mark.text = [c])
    (hstart : ∀ tokens, start tokens c = some ⟨mark :: tokens, .between⟩)
    (hzero : ∀ numeral, NumberPart.zero.extend? numeral c = none)
    (hwhole : ∀ numeral, NumberPart.whole.extend? numeral c = none)
    {scanner : Scanner} {tokens written : List Token} (hbehind : scanner.StandsBehind tokens)
    (hwritten : Scans ⟨mark :: tokens, .between⟩ (mark :: tokens) written) :
    scanner.Scans tokens (mark :: written) := by
  obtain ⟨final, hrun, hfinal⟩ := hwritten
  refine ⟨final, ?_, by simpa using hfinal⟩
  rw [List.flatMap_cons, htext, List.foldlM_append, List.foldlM_cons,
    step_mark hbehind hstart hzero hwhole]
  exact hrun

theorem scans_nil (tokens : List Token) : Scans ⟨tokens, .between⟩ tokens [] :=
  ⟨_, rfl, .between tokens⟩

theorem scans_string (name : String) {tokens written : List Token}
    (hwritten : Scans ⟨.scalar (.ofText name) :: tokens, .between⟩
      (.scalar (.ofText name) :: tokens) written) :
    Scans ⟨tokens, .between⟩ tokens (.scalar (.ofText name) :: written) := by
  obtain ⟨final, hrun, hfinal⟩ := hwritten
  refine ⟨final, ?_, by simpa using hfinal⟩
  have hquote := foldlM_quote name tokens
  rw [List.flatMap_cons, List.foldlM_append]
  change ((Token.quote (some name)).foldlM step _ >>= _) = _
  rw [hquote]
  exact hrun

theorem scans_itemTokens {items : List Json}
    (hitems : ∀ item ∈ items, ∀ tokens, Scans ⟨tokens, .between⟩ tokens item.tokens)
    {scanner : Scanner} {tokens : List Token} (hbehind : scanner.StandsBehind tokens) :
    scanner.Scans tokens (Json.itemTokens items) := by
  induction items generalizing scanner tokens with
  | nil =>
      rw [Json.itemTokens]
      exact scans_mark rfl (fun _ => rfl) (fun _ => rfl) (fun _ => rfl) hbehind (scans_nil _)
  | cons item items ih =>
      rw [List.forall_mem_cons] at hitems
      rw [Json.itemTokens]
      apply scans_mark rfl (fun _ => rfl) (fun _ => rfl) (fun _ => rfl) hbehind
      exact (hitems.1 _).append fun middle hmiddle => ih hitems.2 hmiddle

/-- The tokens of a member up to its value. -/
theorem scans_name (name : String) {tokens written : List Token}
    (hwritten : Scans ⟨.colon :: .scalar (.ofText name) :: tokens, .between⟩
      (.colon :: .scalar (.ofText name) :: tokens) written) :
    Scans ⟨tokens, .between⟩ tokens (.scalar (.string (some name)) :: .colon :: written) :=
  scans_string name <|
    scans_mark rfl (fun _ => rfl) (fun _ => rfl) (fun _ => rfl) (.between _) hwritten

theorem scans_memberTokens {members : List (String × Json)}
    (hmembers : ∀ member ∈ members, ∀ tokens,
      Scans ⟨tokens, .between⟩ tokens member.2.tokens)
    {scanner : Scanner} {tokens : List Token} (hbehind : scanner.StandsBehind tokens) :
    scanner.Scans tokens
      (Json.memberTokens (members.map fun member => (some member.1, member.2))) := by
  induction members generalizing scanner tokens with
  | nil =>
      rw [List.map_nil, Json.memberTokens]
      exact scans_mark rfl (fun _ => rfl) (fun _ => rfl) (fun _ => rfl) hbehind (scans_nil _)
  | cons member members ih =>
      rw [List.forall_mem_cons] at hmembers
      rw [List.map_cons, Json.memberTokens]
      apply scans_mark rfl (fun _ => rfl) (fun _ => rfl) (fun _ => rfl) hbehind
      apply scans_name member.1
      exact (hmembers.1 _).append fun middle hmiddle => ih hmembers.2 hmiddle

theorem scans_tokens {json : Json} (hplain : json.IsPlain) (tokens : List Token) :
    Scans ⟨tokens, .between⟩ tokens json.tokens := by
  induction hplain generalizing tokens with
  | null =>
      rw [Json.tokens]
      exact ⟨_, rfl, .between _⟩
  | bool value =>
      rw [Json.tokens]
      cases value <;> exact ⟨_, rfl, .between _⟩
  | natural number =>
      obtain ⟨final, hrun, hfinal⟩ := foldlM_toDigits number tokens
      refine ⟨final, ?_, hfinal⟩
      rw [← hrun, Json.ofNat, Json.tokens]
      simp [Token.text, Numeral.text, Numeral.ofNat]
  | text text =>
      rw [Json.ofText, Json.tokens]
      exact scans_string text (scans_nil _)
  | @array items hitems ih =>
      cases items with
      | nil =>
          rw [Json.tokens]
          exact ⟨_, rfl, .between _⟩
      | cons item items =>
          rw [List.forall_mem_cons] at ih
          rw [Json.tokens]
          apply scans_mark rfl (fun _ => rfl) (fun _ => rfl) (fun _ => rfl) (.between _)
          exact (ih.1 _).append fun middle hmiddle => scans_itemTokens ih.2 hmiddle
  | @object members hmembers ih =>
      cases members with
      | nil =>
          rw [Json.ofMembers, List.map_nil, Json.tokens]
          exact ⟨_, rfl, .between _⟩
      | cons member members =>
          rw [List.forall_mem_cons] at ih
          rw [Json.ofMembers, List.map_cons, Json.tokens]
          apply scans_mark rfl (fun _ => rfl) (fun _ => rfl) (fun _ => rfl) (.between _)
          apply scans_name member.1
          exact (ih.1 _).append fun middle hmiddle => scans_memberTokens ih.2 hmiddle

end Scanner

theorem Json.scan?_render {json : Json} (hplain : json.IsPlain) :
    Token.scan? json.render.toList = some json.tokens := by
  obtain ⟨final, hrun, hfinal⟩ := Scanner.scans_tokens hplain []
  have hfinish := Scanner.finish_of_standsBehind hfinal
  rw [List.append_nil, List.reverse_reverse] at hfinish
  rw [Token.scan?, Json.render, String.toList_ofList, hrun]
  exact hfinish

end ContainerNetwork
