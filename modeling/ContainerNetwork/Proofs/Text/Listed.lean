import ContainerNetwork.Text.Decimal
import ContainerNetwork.Text.Pieces

/-!
# Reading lists of pieces

A list is written with a mark between its pieces: a separator, or a separator and what follows it.
As long as no piece has the first character of the mark, cutting the list at every occurrence of the
mark gives the pieces again.
-/

namespace ContainerNetwork

namespace Decimal

theorem isDigit_of_mem_text {number : Nat} {c : Char} (hc : c ∈ (text number).toList) :
    c.isDigit := by
  rw [toList_text] at hc
  exact Nat.isDigit_of_mem_toDigits (by decide) (by decide) hc

theorem not_mem_text {number : Nat} {c : Char} (hdigit : c.isDigit = false) :
    c ∉ (text number).toList := by
  intro hc
  rw [isDigit_of_mem_text hc] at hdigit
  cases hdigit

end Decimal

namespace Pieces

/-- What reads the last piece alone, and each other piece up to the mark behind it, reads all pieces
of a list. -/
theorem read_intercalate {read : List Char → List (List Char)} {plain : List Char → Prop}
    {mark : List Char} (hlast : ∀ piece, plain piece → read piece = [piece])
    (hnext : ∀ piece, plain piece → ∀ rest, read (piece ++ (mark ++ rest)) = piece :: read rest)
    {pieces : List (List Char)} (hne : pieces ≠ []) (hpieces : ∀ piece ∈ pieces, plain piece) :
    read (mark.intercalate pieces) = pieces := by
  induction pieces with
  | nil => exact absurd rfl hne
  | cons piece rest ih =>
      have hpiece := hpieces piece List.mem_cons_self
      cases rest with
      | nil =>
          rw [List.intercalate_singleton]
          exact hlast piece hpiece
      | cons next rest =>
          rw [List.intercalate_cons_cons, List.append_assoc, hnext piece hpiece,
            ih (List.cons_ne_nil _ _)]
          exact fun other hother => hpieces other (List.mem_cons_of_mem _ hother)

/-- The pieces between the occurrences of a mark; `skipped` more characters belong to the last. -/
def cutAfter (mark : List Char) : (skipped : Nat) → List Char → List (List Char)
  | _, [] => [[]]
  | skipped + 1, _ :: rest => cutAfter mark skipped rest
  | 0, c :: rest =>
      if mark.isPrefixOf (c :: rest) then [] :: cutAfter mark (mark.length - 1) rest
      else (cutAfter mark 0 rest).modifyHead (c :: ·)

/-- The pieces of a text between the occurrences of a mark, which occurs as a whole. -/
def cut (mark text : String) : List (List Char) := cutAfter mark.toList 0 text.toList

section Cut

variable {first : Char} {suffix piece : List Char}

theorem cutAfter_length_append (mark skipped rest : List Char) :
    cutAfter mark skipped.length (skipped ++ rest) = cutAfter mark 0 rest := by
  induction skipped with
  | nil => rfl
  | cons c skipped ih => exact ih

theorem isPrefixOf_cons_of_ne {c : Char} (hne : c ≠ first) (rest : List Char) :
    (first :: suffix).isPrefixOf (c :: rest) = false := by
  rw [List.isPrefixOf_cons_cons, beq_false_of_ne hne.symm, Bool.false_and]

theorem cutAfter_of_not_mem (hpiece : first ∉ piece) :
    cutAfter (first :: suffix) 0 piece = [piece] := by
  induction piece with
  | nil => rfl
  | cons c piece ih =>
      rw [List.mem_cons, not_or] at hpiece
      rw [cutAfter, isPrefixOf_cons_of_ne (Ne.symm hpiece.1), ih hpiece.2]
      rfl

theorem cutAfter_append (hpiece : first ∉ piece) (rest : List Char) :
    cutAfter (first :: suffix) 0 (piece ++ (first :: suffix ++ rest)) =
      piece :: cutAfter (first :: suffix) 0 rest := by
  induction piece with
  | nil =>
      have hmark : (first :: suffix).isPrefixOf (first :: (suffix ++ rest)) = true :=
        List.isPrefixOf_iff_prefix.mpr (List.prefix_append (first :: suffix) rest)
      rw [List.nil_append, List.cons_append, cutAfter, if_pos hmark, List.length_cons,
        Nat.add_sub_cancel, cutAfter_length_append]
  | cons c piece ih =>
      rw [List.mem_cons, not_or] at hpiece
      rw [List.cons_append, cutAfter, isPrefixOf_cons_of_ne (Ne.symm hpiece.1), ih hpiece.2]
      rfl

/-- Texts that are joined by a mark, of which none has its first character, are cut into the texts
again. -/
theorem cut_join {mark : String} (hmark : mark.toList = first :: suffix) {pieces : List String}
    (hne : pieces ≠ []) (hpieces : ∀ piece ∈ pieces, first ∉ piece.toList) :
    cut mark (join mark pieces) = pieces.map String.toList := by
  rw [cut, join, String.toList_intercalate, hmark]
  exact read_intercalate (fun _ hpiece => cutAfter_of_not_mem hpiece)
    (fun _ hpiece => cutAfter_append hpiece) (mt List.map_eq_nil_iff.mp hne)
    (List.forall_mem_map.mpr hpieces)

end Cut

theorem mem_of_mem_intercalate {separator : List Char} {pieces : List (List Char)} {c : Char}
    (hc : c ∈ separator.intercalate pieces) : c ∈ separator ∨ ∃ piece ∈ pieces, c ∈ piece := by
  induction pieces with
  | nil => exact absurd hc List.not_mem_nil
  | cons piece rest ih =>
      cases rest with
      | nil =>
          rw [List.intercalate_singleton] at hc
          exact .inr ⟨piece, List.mem_cons_self, hc⟩
      | cons next rest =>
          rw [List.intercalate_cons_cons, List.mem_append, List.mem_append] at hc
          rcases hc with (hc | hc) | hc
          · exact .inr ⟨piece, List.mem_cons_self, hc⟩
          · exact .inl hc
          · exact (ih hc).imp id fun ⟨other, hother, hc⟩ =>
              ⟨other, List.mem_cons_of_mem _ hother, hc⟩

variable {pieces : List String}

/-- Texts that are joined by a separator which none of them has are split into the texts. -/
theorem split_join {separator : Char} {mark : String} (hmark : mark.toList = [separator])
    (hne : pieces ≠ []) (hpieces : ∀ piece ∈ pieces, separator ∉ piece.toList) :
    split separator (join mark pieces).toList = pieces.map String.toList := by
  have hnext (piece : List Char) (hpiece : separator ∉ piece) (rest : List Char) :
      split separator (piece ++ ([separator] ++ rest)) = piece :: split separator rest :=
    split_append hpiece rest
  rw [join, String.toList_intercalate, hmark]
  exact read_intercalate (fun _ hpiece => split_of_not_mem hpiece) hnext
    (mt List.map_eq_nil_iff.mp hne) (List.forall_mem_map.mpr hpieces)

/-- A text of two parts around a separator is split into the parts. -/
theorem split_pair {separator : Char} {mark first last : String} (hmark : mark.toList = [separator])
    (hfirst : separator ∉ first.toList) (hlast : separator ∉ last.toList) :
    split separator (first ++ mark ++ last).toList = [first.toList, last.toList] := by
  rw [String.toList_append, String.toList_append, hmark, List.append_assoc]
  exact (split_append hfirst _).trans (congrArg _ (split_of_not_mem hlast))

theorem not_mem_pair {c : Char} {mark first last : String} (hfirst : c ∉ first.toList)
    (hmark : c ∉ mark.toList) (hlast : c ∉ last.toList) : c ∉ (first ++ mark ++ last).toList := by
  rw [String.toList_append, String.toList_append, List.mem_append, List.mem_append]
  exact not_or_intro (not_or_intro hfirst hmark) hlast

/-- Texts of which none is empty are joined to an empty text only where there are none. -/
theorem join_map_eq_empty_iff {α : Type} {mark : String} {write : α → String}
    (hne : ∀ item, (write item).toList ≠ []) {items : List α} :
    join mark (items.map write) = "" ↔ items = [] := by
  constructor
  · intro hempty
    have hnil := congrArg String.toList hempty
    rw [join, String.toList_intercalate] at hnil
    cases items with
    | nil => rfl
    | cons first rest =>
        cases rest with
        | nil => exact absurd (by simpa using hnil) (hne first)
        | cons next rest => simp [hne first] at hnil
  · rintro rfl
    rfl

end Pieces

end ContainerNetwork
