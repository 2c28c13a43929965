import ContainerNetwork.Text.Pieces

/-!
# Paths

A path is the list of the names between the slashes of its text, as they stand there.  An empty
name and `.` stay in the directory reached so far, `..` leads to the one above it, and any other
name leads to an entry of it.
-/

namespace ContainerNetwork

abbrev Path := List String

namespace Path

def ofText (text : String) : Path := (Pieces.split '/' text.toList).map String.ofList

def text (path : Path) : String := Pieces.join "/" path

/-- Whether a name stays in the directory. -/
def stays (name : String) : Bool := name = "" || name = "."

/-- The path without the names that stay where they are. -/
def steps (path : Path) : Path := path.filter fun name => !stays name

/-- The path to where the last step starts. -/
def parent (path : Path) : Path := path.steps.dropLast

/-- The path without the slashes at the end of its text. -/
def withoutSlashes (path : Path) : Path := (path.reverse.dropWhile (· = "")).reverse

/-- The greatest size of a name in bytes. -/
def maxNameSize : Nat := 255

/-- The greatest size of the text of a path in bytes. -/
def maxSize : Nat := 4095

/-- A path that is taken at all, wherever it leads. -/
def IsValid (path : Path) : Prop :=
  path.text.utf8ByteSize ≤ maxSize ∧ '\x00' ∉ path.text.toList

instance (path : Path) : Decidable path.IsValid := inferInstanceAs (Decidable (_ ∧ _))

end Path

/-- The place of a file: the path to a directory and the last name. -/
structure FilePlace where
  directory : Path
  name : String
  deriving DecidableEq

namespace FilePlace

def path (place : FilePlace) : Path := place.directory ++ [place.name]

/-- The place that a path leads to; a path without names stays where it starts. -/
def ofPath (path : Path) : FilePlace := ⟨path.dropLast, path.getLastD ""⟩

/-- The place whose path text is that of this one with an extension added. -/
def sibling (place : FilePlace) (extension : String) : FilePlace :=
  { place with name := place.name ++ "." ++ extension }

end FilePlace

end ContainerNetwork
