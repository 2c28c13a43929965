import ContainerNetwork.Proofs.FileTree.Location

/-!
# Files beside a file

The lock and the temporary file of the pool are siblings of the pool file.  A sibling never has the
location of the file itself, and where the sibling is found the file is looked for in the same
directory.
-/

namespace ContainerNetwork

namespace FilePlace

variable {place : FilePlace} {extension : String} {path beside : Path}

theorem sibling_name_length (place : FilePlace) (extension : String) :
    (place.sibling extension).name.length = place.name.length + 1 + extension.length := by
  simp [sibling]
  rfl

/-- A name with a long enough extension leads to an entry of its own. -/
theorem follow_sibling {directory : Path} (hextension : 2 ≤ extension.length)
    (hfollow : FileTree.follow directory (place.sibling extension).name = .ok beside) :
    beside = directory ++ [(place.sibling extension).name] ∧
      (place.sibling extension).name.utf8ByteSize ≤ Path.maxNameSize := by
  have hlength := sibling_name_length place extension
  rw [FileTree.follow] at hfollow
  split at hfollow
  · rename_i hstays
    have hempty : ("" : String).length = 0 := rfl
    have hdot : ("." : String).length = 1 := rfl
    rw [Path.stays, Bool.or_eq_true, decide_eq_true_eq, decide_eq_true_eq] at hstays
    rcases hstays with hname | hname <;> rw [hname] at hlength <;> omega
  · split at hfollow
    · rename_i hname
      rw [hname] at hlength
      have hdots : (".." : String).length = 2 := rfl
      omega
    · split at hfollow
      · cases hfollow
      · rename_i hsize
        cases hfollow
        exact ⟨rfl, Nat.le_of_not_lt hsize⟩

/-- A sibling of a file is never the file itself. -/
theorem sibling_location_ne (hextension : 2 ≤ extension.length)
    (hplace : place.location = .ok path)
    (hsibling : (place.sibling extension).location = .ok beside) : beside ≠ path := by
  obtain ⟨directory, hdirectory, hfollow⟩ := bind_eq_ok_iff.mp hplace
  obtain ⟨other, hother, hbeside⟩ := bind_eq_ok_iff.mp hsibling
  obtain rfl : directory = other := by
    have hsame : FileTree.resolve [] place.directory = .ok other := hother
    rw [hdirectory] at hsame
    cases hsame
    rfl
  rw [(follow_sibling hextension hbeside).1]
  have hlength := sibling_name_length place extension
  rw [FileTree.follow] at hfollow
  split at hfollow
  · cases hfollow
    simp
  · split at hfollow
    · cases hfollow
      intro heq
      have hcount := congrArg List.length heq
      simp at hcount
      omega
    · split at hfollow
      · cases hfollow
      · cases hfollow
        intro heq
        have hname : (place.sibling extension).name = place.name := by simpa using heq
        rw [hname] at hlength
        omega

/-- Siblings with extensions of different lengths are different files. -/
theorem siblings_location_ne {other : String} {further : Path} (hextension : 2 ≤ extension.length)
    (hother : 2 ≤ other.length) (hlength : extension.length ≠ other.length)
    (hbeside : (place.sibling extension).location = .ok beside)
    (hfurther : (place.sibling other).location = .ok further) : beside ≠ further := by
  obtain ⟨directory, _, hfollow⟩ := bind_eq_ok_iff.mp hbeside
  obtain ⟨second, _, hsecond⟩ := bind_eq_ok_iff.mp hfurther
  rw [(follow_sibling hextension hfollow).1, (follow_sibling hother hsecond).1]
  intro heq
  have hname := congrArg String.length (List.append_inj_right' heq rfl |> List.singleton_inj.mp)
  rw [sibling_name_length, sibling_name_length] at hname
  omega

/-- The text of a sibling's path is that of the file's with the extension behind it. -/
theorem text_path_sibling (place : FilePlace) (extension : String) :
    (place.sibling extension).path.text = place.path.text ++ ("." ++ extension) := by
  obtain ⟨directory, name⟩ := place
  simp only [path, sibling, Path.text, Pieces.join]
  by_cases hroot : directory = []
  · simp [hroot, String.append_assoc]
  · simp [String.intercalate_append_of_ne_nil hroot, String.append_assoc]

theorem isValid_of_sibling (hvalid : (place.sibling extension).path.IsValid) :
    place.path.IsValid := by
  rw [Path.IsValid, text_path_sibling] at hvalid
  rw [String.utf8ByteSize_append, String.toList_append, List.mem_append, not_or] at hvalid
  exact ⟨by omega, hvalid.2.1⟩

/-- Where a sibling is found, the file is looked for in the same directory. -/
theorem locate_of_sibling {tree : FileTree} (hextension : 2 ≤ extension.length)
    (hsibling : tree.locate (place.sibling extension) = .ok beside) :
    ∃ path, tree.locate place = .ok path := by
  rw [FileTree.locate] at hsibling
  split at hsibling
  · rename_i hvalid
    obtain ⟨directory, hwalk, hbeside⟩ := bind_eq_ok_iff.mp hsibling
    have hsize := (follow_sibling hextension hbeside).2
    have hplace : tree.walk [] place.directory = .ok directory := hwalk
    rw [FileTree.locate, if_pos (isValid_of_sibling hvalid), hplace, ok_bind, FileTree.follow]
    split
    · exact ⟨_, rfl⟩
    · split
      · exact ⟨_, rfl⟩
      · rw [if_neg]
        · exact ⟨_, rfl⟩
        · simp only [sibling, String.utf8ByteSize_append] at hsize
          omega
  · cases hsibling

end FilePlace

end ContainerNetwork
