import ContainerNetwork.Json.Kept
import ContainerNetwork.Proofs.Json.Members

/-!
# Written values can be kept

A natural number of at most 64 bits loses nothing when it is held as a significand, and every text
can be held.  A record of such values can therefore be kept until its type is known.
-/

namespace ContainerNetwork

namespace Significand

theorem le_ofDigitChars (digits : List Char) (significand : Nat) :
    significand ≤ Nat.ofDigitChars 10 digits significand := by
  induction digits generalizing significand with
  | nil => exact Nat.le_refl significand
  | cons digit rest ih =>
      rw [Nat.ofDigitChars_cons]
      have hrest := ih (10 * significand + (digit.toNat - '0'.toNat))
      omega

/-- Digits of a number below the bound are all absorbed. -/
theorem absorb_eq {digits : List Char} {significand : Nat}
    (hsize : Nat.ofDigitChars 10 digits significand < UInt64.size) :
    absorb significand digits = (Nat.ofDigitChars 10 digits significand, []) := by
  induction digits generalizing significand with
  | nil => rfl
  | cons digit rest ih =>
      have hlonger : significand * 10 + (digit.toNat - '0'.toNat) =
          10 * significand + (digit.toNat - '0'.toNat) := by
        rw [Nat.mul_comm]
      rw [Nat.ofDigitChars_cons] at hsize ⊢
      rw [absorb, hlonger, if_pos, ih hsize]
      exact Nat.lt_of_le_of_lt (le_ofDigitChars rest _) hsize

end Significand

theorem Numeral.isFinite_ofNat {number : Nat} (hnumber : number < UInt64.size) :
    (ofNat number).isFinite = true := by
  have hdigits : Nat.ofDigitChars 10 (Nat.toDigits 10 number) 0 = number :=
    Nat.ofDigitChars_ten_toDigits
  have habsorb := Significand.absorb_eq (hdigits.symm ▸ hnumber)
  simp [isFinite, ofNat, habsorb, Significand.absorb, writtenPower]

namespace Json

/-- A value that can be kept however little depth is left. -/
def Flat (json : Json) : Prop := ∀ depth, json.canKeep depth = true

theorem flat_toJson_text (text : String) : (toJson text).Flat := fun _ => rfl

theorem flat_toJson_uint16 (number : UInt16) : (toJson number).Flat := by
  have hnumber := number.toNat_lt
  have hsize : UInt64.size = 18446744073709551616 := rfl
  intro depth
  exact Numeral.isFinite_ofNat (by omega)

theorem flat_toJson_uint64 (number : UInt64) : (toJson number).Flat := by
  intro depth
  exact Numeral.isFinite_ofNat number.toNat_lt

theorem canKeepMembers_of_flat {members : List (String × Json)}
    (hflat : ∀ member ∈ members, member.2.Flat) (depth : Nat) :
    canKeepMembers depth (members.map fun member => (some member.1, member.2)) = true := by
  induction members with
  | nil => rfl
  | cons member rest ih =>
      rw [List.forall_mem_cons] at hflat
      rw [List.map_cons, canKeepMembers, hflat.1 depth, ih hflat.2]
      rfl

theorem canKeep_ofMembers {members : List (String × Json)}
    (hflat : ∀ member ∈ members, member.2.Flat) {depth : Nat} (hdepth : 0 < depth) :
    (ofMembers members).canKeep depth = true := by
  rw [ofMembers, canKeep, canKeepMembers_of_flat hflat, Bool.and_true]
  exact decide_eq_true (Nat.ne_of_gt hdepth)

end Json

end ContainerNetwork
