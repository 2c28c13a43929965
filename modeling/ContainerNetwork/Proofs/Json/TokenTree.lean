import ContainerNetwork.Json.Reader
import ContainerNetwork.Json.Writer

/-!
# Reading back written tokens

The reader keeps its open containers in frames, so what it does with the tokens of one value does
not depend on the tokens around them.  Every value is read back from its own tokens, whatever its
strings and numbers are.
-/

namespace ContainerNetwork

namespace Json

/-- The tokens of a value start with one that opens a value. -/
theorem tokens_eq_cons (json : Json) :
    ∃ token rest, json.tokens = token :: rest ∧ token ≠ .closeArray := by
  match json with
  | .null => exact ⟨_, _, rfl, nofun⟩
  | .bool _ => exact ⟨_, _, rfl, nofun⟩
  | .number _ => exact ⟨_, _, rfl, nofun⟩
  | .string _ => exact ⟨_, _, rfl, nofun⟩
  | .array [] => exact ⟨_, _, rfl, nofun⟩
  | .array (_ :: _) => exact ⟨_, _, rfl, nofun⟩
  | .object [] => exact ⟨_, _, rfl, nofun⟩
  | .object ((_, _) :: _) => exact ⟨_, _, rfl, nofun⟩

end Json

namespace Reader

/-- Where an array was just opened, a token other than its end starts an item as it would start
any value inside the array. -/
theorem step_firstItem {frames : List Frame} {token : Token} (htoken : token ≠ .closeArray) :
    step (.firstItem frames) token = step (.value (.array [] :: frames)) token := by
  cases token with
  | closeArray => exact absurd rfl htoken
  | _ => rfl

theorem foldlM_firstItem (json : Json) (frames : List Frame) (rest : List Token) :
    (json.tokens ++ rest).foldlM step (.firstItem frames) =
      (json.tokens ++ rest).foldlM step (.value (.array [] :: frames)) := by
  obtain ⟨token, tokens, htokens, htoken⟩ := json.tokens_eq_cons
  rw [htokens, List.cons_append, List.foldlM_cons, List.foldlM_cons, step_firstItem htoken]

mutual

theorem foldlM_tokens (json : Json) (frames : List Frame) (rest : List Token) :
    (json.tokens ++ rest).foldlM step (.value frames) = rest.foldlM step (.done json frames) := by
  match json with
  | .null => rw [Json.tokens]; rfl
  | .bool _ => rw [Json.tokens]; rfl
  | .number _ => rw [Json.tokens]; rfl
  | .string _ => rw [Json.tokens]; rfl
  | .array [] => rw [Json.tokens]; rfl
  | .object [] => rw [Json.tokens]; rfl
  | .array (item :: items) =>
      rw [Json.tokens, List.cons_append, List.append_assoc, List.foldlM_cons]
      change (item.tokens ++ (Json.itemTokens items ++ rest)).foldlM step (.firstItem frames) = _
      rw [foldlM_firstItem, foldlM_tokens item, foldlM_itemTokens items]
      rfl
  | .object ((key, item) :: members) =>
      rw [Json.tokens]
      change ((item.tokens ++ Json.memberTokens members) ++ rest).foldlM step
        (.value (.object [] key :: frames)) = _
      rw [List.append_assoc, foldlM_tokens item, foldlM_memberTokens members]
      rfl

/-- After an item of an array, the further items and the end of the array complete the array. -/
theorem foldlM_itemTokens (items : List Json) (read : List Json) (last : Json)
    (frames : List Frame) (rest : List Token) :
    (Json.itemTokens items ++ rest).foldlM step (.done last (.array read :: frames)) =
      rest.foldlM step (.done (.array ((last :: read).reverse ++ items)) frames) := by
  match items with
  | [] =>
      rw [Json.itemTokens, List.append_nil]
      rfl
  | item :: items =>
      rw [Json.itemTokens, List.cons_append, List.append_assoc, List.foldlM_cons]
      change (item.tokens ++ (Json.itemTokens items ++ rest)).foldlM step
        (.value (.array (last :: read) :: frames)) = _
      rw [foldlM_tokens item, foldlM_itemTokens items, List.reverse_cons, List.append_assoc]
      rfl

/-- After a member of an object, the further members and the end of the object complete it. -/
theorem foldlM_memberTokens (members read : List (Option String × Json)) (key : Option String)
    (last : Json) (frames : List Frame) (rest : List Token) :
    (Json.memberTokens members ++ rest).foldlM step (.done last (.object read key :: frames)) =
      rest.foldlM step (.done (.object (((key, last) :: read).reverse ++ members)) frames) := by
  match members with
  | [] =>
      rw [Json.memberTokens, List.append_nil]
      rfl
  | (next, item) :: members =>
      rw [Json.memberTokens]
      change ((item.tokens ++ Json.memberTokens members) ++ rest).foldlM step
        (.value (.object ((key, last) :: read) next :: frames)) = _
      rw [List.append_assoc, foldlM_tokens item, foldlM_memberTokens members, List.reverse_cons,
        List.append_assoc]
      rfl

end

end Reader

namespace Json

theorem ofTokens?_tokens (json : Json) : ofTokens? json.tokens = some json := by
  have hread := Reader.foldlM_tokens json [] []
  rw [List.append_nil] at hread
  rw [ofTokens?, hread]
  rfl

end Json

end ContainerNetwork
