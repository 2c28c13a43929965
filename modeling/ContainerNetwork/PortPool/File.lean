import ContainerNetwork.FileAction
import ContainerNetwork.PortPool.ManagedRange
import ContainerNetwork.Text.Blank

/-!
# The pool file

The pool outlives a run in a file.  Every use of it runs under a lock held on a file beside it,
reads the pool and, where it changes the pool, replaces the file as a whole: the new pool is
written to a temporary file that is then renamed.
-/

namespace ContainerNetwork.PortPool

/-- The file whose lock every use of the pool holds. -/
def lockFile (place : FilePlace) : FilePlace := place.sibling "lock"

/-- Makes the directory of the pool file and opens its lock, which stays there for good. -/
def lock (place : FilePlace) : FileAction Failure Unit := do
  (FileAction.makeDirectories place.path.parent).failingWith .openLock
  (FileAction.change (.openOrCreate (lockFile place))).failingWith .openLock

/-- The pool that a file holds; a blank file holds the empty pool. -/
def ofContent? (content : ByteArray) : Option PortPool := do
  let text ← String.fromUTF8? content
  if Text.isBlank text then some .empty else Wire.read? text

def content (pool : PortPool) : ByteArray := (Wire.text pool).toUTF8

/-- Reads the pool; where there is no file the pool is empty. -/
def load (place : FilePlace) : FileAction Failure PortPool := do
  match ← FileAction.read place with
  | .error .notFound => return .empty
  | .error _ => throw .decodeState
  | .ok content =>
      match ofContent? content with
      | none => throw .decodeState
      | some pool => return pool

/-- The file that a new pool is written to before it takes the place of the old one. -/
def temporary (place : FilePlace) : FilePlace := place.sibling "tmp"

/-- The changes, one after the other, that give the pool file a content. -/
def replacement (place : FilePlace) (content : ByteArray) : List FileChange :=
  [.create (temporary place), .write (temporary place) content, .rename (temporary place) place]

/-- Replaces the pool file; the temporary file is gone afterwards. -/
def store (place : FilePlace) (pool : PortPool) : FileAction Failure Unit := do
  let replace := (replacement place pool.content).forM FileAction.change
  tryCatch (replace.failingWith .encodeState) fun failure => do
    FileAction.attempt (FileAction.change (.remove (temporary place)))
    throw failure

/-- The pool as it stands. -/
def current (place : FilePlace) : FileAction Failure PortPool := do
  lock place
  load place

/-- Reads the pool, decides on a change and stores the changed pool. -/
def update {α : Type} (place : FilePlace) (choose : PortPool → Except Failure (α × PortPool)) :
    FileAction Failure α := do
  lock place
  let (answer, pool) ← ExceptT.mk (pure (choose (← load place)))
  store place pool
  return answer

/-- Gives `handle` a port.  Any port outside the managed range is granted as asked for and recorded
nowhere; port zero asks for the lowest free managed port. -/
def allocate (place : FilePlace) (range : ManagedRange) (handle : String) (port : UInt16) :
    FileAction Failure UInt16 :=
  if port = 0 then update place fun pool => range.acquire pool handle
  else if range.Contains port then throw (.explicitPortInRange port)
  else pure port

/-- Frees all ports of `handle`. -/
def releaseAll (place : FilePlace) (handle : String) : FileAction Failure Unit :=
  update place fun pool => .ok ((), pool.release handle)

end ContainerNetwork.PortPool
