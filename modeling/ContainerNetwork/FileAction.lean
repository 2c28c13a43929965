import ContainerNetwork.FileTree
import ContainerNetwork.Program

/-!
# Actions on a file tree

An action reads files and makes changes, one request after the other, and may fail.  What it did
before it failed stays done.
-/

namespace ContainerNetwork

/-- A change of a file tree. -/
inductive FileChange where
  | ensureDirectory (place : FilePlace)
  | openOrCreate (place : FilePlace)
  | create (place : FilePlace)
  | write (place : FilePlace) (content : ByteArray)
  | rename (source target : FilePlace)
  | remove (place : FilePlace)

namespace FileChange

def applyTo : FileChange → FileTree → Except FileError FileTree
  | ensureDirectory place, tree => tree.ensureDirectory place
  | openOrCreate place, tree => tree.openOrCreate place
  | create place, tree => tree.create place
  | write place content, tree => tree.write place content
  | rename source target, tree => tree.rename source target
  | remove place, tree => tree.remove place

end FileChange

inductive FileRequest where
  | read (place : FilePlace)
  | change (operation : FileChange)

namespace FileRequest

@[reducible]
def Answer : FileRequest → Type
  | read _ => Except FileError ByteArray
  | change _ => Except FileError Unit

/-- What a tree answers, and the tree after it. -/
def respond : (request : FileRequest) → FileTree → request.Answer × FileTree
  | read place, tree => (tree.read place, tree)
  | change operation, tree =>
      match operation.applyTo tree with
      | .ok after => (.ok (), after)
      | .error failure => (.error failure, tree)

end FileRequest

abbrev FileAction (ε α : Type) := ExceptT ε (Program FileRequest.Answer) α

namespace FileAction

variable {ε α : Type}

/-- Runs an action: its result and the tree it leaves. -/
def runOn (action : FileAction ε α) (tree : FileTree) : Except ε α × FileTree :=
  (ExceptT.run action).run FileRequest.respond tree

/-- What a file holds, or why it cannot be read. -/
def read (place : FilePlace) : FileAction ε (Except FileError ByteArray) :=
  ExceptT.lift (.ask (.read place) .done)

/-- One change of the tree. -/
def change (operation : FileChange) : FileAction FileError Unit :=
  ExceptT.mk (.ask (.change operation) .done)

/-- The same action with one failure for all of its errors. -/
def failingWith (failure : ε) (action : FileAction FileError α) : FileAction ε α :=
  ExceptT.mk ((·.mapError fun _ => failure) <$> ExceptT.run action)

/-- Tries an action and goes on whether it failed or not. -/
def attempt (action : FileAction FileError Unit) : FileAction ε Unit :=
  ExceptT.mk ((fun _ => .ok ()) <$> ExceptT.run action)

/-- Makes a directory; where one before it is missing, `prepare` is run and it is tried again. -/
def ensureAfter (prepare : FileAction FileError Unit) (place : FilePlace) :
    FileAction FileError Unit :=
  tryCatch (change (.ensureDirectory place)) fun failure => do
    if failure ≠ .notFound then throw failure
    prepare
    change (.ensureDirectory place)

/-- Makes the missing directories on the way along some steps, which are given last first. -/
def makeWay : List String → FileAction FileError Unit
  | [] => pure ()
  | name :: before => ensureAfter (makeWay before) ⟨before.reverse, name⟩

/-- Makes the directory that a path leads to and all that are missing before it.  The last of them
is made by the path as it stands, so that a path may still fail when the way to it is made. -/
def makeDirectories (path : Path) : FileAction FileError Unit :=
  ensureAfter (makeWay path.parent.reverse) (.ofPath path.withoutSlashes)

end FileAction

end ContainerNetwork
