/-!
# Texts made of separated pieces

`split` cuts a text at every occurrence of a separator and `join` puts the pieces together again.
-/

namespace ContainerNetwork.Pieces

/-- The pieces between the occurrences of `separator`; a text without one is a single piece. -/
def split (separator : Char) : List Char → List (List Char)
  | [] => [[]]
  | c :: rest =>
      if c = separator then [] :: split separator rest
      else
        match split separator rest with
        | [] => [[c]]
        | piece :: pieces => (c :: piece) :: pieces

def join (separator : String) (pieces : List String) : String := separator.intercalate pieces

theorem split_append {separator : Char} {piece : List Char} (hpiece : separator ∉ piece)
    (rest : List Char) :
    split separator (piece ++ separator :: rest) = piece :: split separator rest := by
  induction piece with
  | nil => simp [split]
  | cons c piece ih =>
      rw [List.mem_cons, not_or] at hpiece
      simp [split, Ne.symm hpiece.1, ih hpiece.2]

theorem split_of_not_mem {separator : Char} {piece : List Char} (hpiece : separator ∉ piece) :
    split separator piece = [piece] := by
  induction piece with
  | nil => simp [split]
  | cons c piece ih =>
      rw [List.mem_cons, not_or] at hpiece
      simp [split, Ne.symm hpiece.1, ih hpiece.2]

end ContainerNetwork.Pieces
