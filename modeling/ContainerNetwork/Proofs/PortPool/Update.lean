import ContainerNetwork.Proofs.FileTree.Actions
import ContainerNetwork.Proofs.FileTree.Sibling
import ContainerNetwork.Proofs.PortPool.Content

/-!
# One use of the pool file

A use of the pool file takes the lock, reads the pool, decides on a new one and stores it, and ends
where the first of these fails.  `Outcome` lists the ways it may end, each with the tree it leaves;
either the pool stays as it stands, or the whole of it is replaced by the one that was decided on.
-/

namespace ContainerNetwork.PortPool

open FileAction

/-- The pool that an entry of a tree is: nothing is the empty pool, a directory is none. -/
def ofFile? : Option FileEntry → Option PortPool
  | none => some .empty
  | some (.file content) => ofContent? content
  | some .directory => none

/-- The pool that stands at a place, whether or not it can be reached at the moment. -/
def standing? (place : FilePlace) (tree : FileTree) : Option PortPool :=
  match place.location with
  | .ok path => ofFile? (tree.find? path)
  | .error _ => none

/-- A failed use leaves the pool as it stands, except that an empty pool without a file may have
become a directory. -/
def Unmoved (place : FilePlace) (before after : FileTree) : Prop :=
  standing? place after = standing? place before ∨
    (standing? place before = some .empty ∧ standing? place after = none)

variable {α : Type} {place : FilePlace} {tree after : FileTree} {path : Path}

theorem standing?_eq (hplace : place.location = .ok path) (tree : FileTree) :
    standing? place tree = ofFile? (tree.find? path) := by
  rw [standing?, hplace]

/-- Where a pool stands, there is no directory. -/
theorem free_of_standing {pool : PortPool} (hstands : standing? place tree = some pool)
    (hplace : place.location = .ok path) : tree.find? path ≠ some .directory := by
  intro hdirectory
  rw [standing?_eq hplace, hdirectory] at hstands
  cases hstands

/-! ## The lock -/

/-- What taking the lock may do to a tree: nothing was where it made a directory on the way to the
pool file or the empty lock file, and all else is as it was. -/
def Prepared (place : FilePlace) (before after : FileTree) : Prop :=
  ∀ path, after.find? path = before.find? path ∨
    before.find? path = none ∧
      (after.find? path = some .directory ∧ place.path.parent.Crosses path ∨
        after.find? path = some (.file .empty) ∧ (lockFile place).location = .ok path)

theorem Prepared.refl (place : FilePlace) (tree : FileTree) : Prepared place tree tree :=
  fun _ => .inl rfl

/-- A tree in which nothing is missing that taking the lock would make. -/
structure Locked (place : FilePlace) (tree : FileTree) : Prop where
  parent : tree.HasDirectory (.ofPath place.path.parent.withoutSlashes)
  lock : ∃ path content, tree.locate (lockFile place) = .ok path ∧
    tree.find? path = some (.file content)

/-- At the place of the pool file, taking the lock may at most make a directory. -/
theorem Prepared.find? (hprepared : Prepared place tree after)
    (hplace : place.location = .ok path) :
    after.find? path = tree.find? path ∨
      (tree.find? path = none ∧ after.find? path = some .directory ∧
        place.path.parent.Crosses path) := by
  rcases hprepared path with hsame | ⟨hnone, ⟨hmade, hcrosses⟩ | ⟨_, hlock⟩⟩
  · exact .inl hsame
  · exact .inr ⟨hnone, hmade, hcrosses⟩
  · exact absurd rfl (FilePlace.sibling_location_ne (by decide) hplace hlock)

namespace Locked

/-- Where the lock is taken, the pool file can be looked for. -/
theorem locate (hlocked : Locked place tree) : ∃ path, tree.locate place = .ok path := by
  obtain ⟨_, _, hlocate, _⟩ := hlocked.lock
  exact FilePlace.locate_of_sibling (by decide) hlocate

/-- The lock is taken without any change where nothing is missing. -/
theorem lock_runOn (hlocked : Locked place tree) :
    (PortPool.lock place).runOn tree = (.ok (), tree) := by
  obtain ⟨path, content, hlocate, hfile⟩ := hlocked.lock
  have hopen := FileTree.openOrCreate_of_file hlocate hfile
  simp only [PortPool.lock, runOn_bind, runOn_failingWith, runOn_change, FileChange.applyTo,
    makeDirectories, ensureAfter_of_hasDirectory hlocked.parent, hopen, mapError_ok]

end Locked

theorem prepared_of_gains (hgains : FileTree.GainsDirectories place.path.parent tree after) :
    Prepared place tree after := by
  intro path
  exact (hgains path).imp_right fun ⟨hnone, hmade⟩ => ⟨hnone, .inl hmade⟩

theorem prepared_openOrCreate {made : FileTree}
    (hgains : FileTree.GainsDirectories place.path.parent tree made)
    (hopen : made.openOrCreate (lockFile place) = .ok after) : Prepared place tree after := by
  obtain ⟨beside, hlocate, ⟨rfl, _⟩ | ⟨hnone, rfl⟩⟩ := FileTree.openOrCreate_eq_ok hopen
  · exact prepared_of_gains hgains
  · intro path
    by_cases hpath : path = beside
    · subst hpath
      rcases hgains path with hsame | ⟨_, hmade, _⟩
      · exact .inr ⟨hsame ▸ hnone, .inr ⟨FileTree.find?_set_self (by simp [hnone]),
          FileTree.location_of_locate hlocate⟩⟩
      · rw [hnone] at hmade
        cases hmade
    · rw [FileTree.find?_set_of_ne hpath]
      exact prepared_of_gains hgains path

theorem locked_openOrCreate (hparent : tree.HasDirectory (.ofPath place.path.parent.withoutSlashes))
    (hopen : tree.openOrCreate (lockFile place) = .ok after) : Locked place after := by
  obtain ⟨beside, hlocate, ⟨rfl, content, hfile⟩ | ⟨hnone, rfl⟩⟩ :=
    FileTree.openOrCreate_eq_ok hopen
  · exact ⟨hparent, beside, content, hlocate, hfile⟩
  · have hfree : tree.find? beside ≠ some .directory := by simp [hnone]
    exact ⟨hparent.mono fun _ => FileTree.find?_set_directory hfree, beside, .empty,
      FileTree.locate_set hfree hlocate, FileTree.find?_set_self hfree⟩

/-- Taking the lock fails or leaves nothing missing, and changes no more than it has to. -/
theorem lock_runOn (place : FilePlace) (tree : FileTree) :
    ∃ locked, Prepared place tree locked ∧
      ((lock place).runOn tree = (.error .openLock, locked) ∨
        (lock place).runOn tree = (.ok (), locked) ∧ Locked place locked) := by
  have hgains := gainsDirectories_makeDirectories place.path.steps_parent tree
  rw [lock, runOn_bind, runOn_failingWith]
  rcases hmake : (makeDirectories place.path.parent).runOn tree with ⟨failure | _, made⟩
  · rw [hmake] at hgains
    exact ⟨made, prepared_of_gains hgains, .inl rfl⟩
  · rw [hmake] at hgains
    simp only [mapError_ok, runOn_failingWith, runOn_change, FileChange.applyTo]
    cases hopen : made.openOrCreate (lockFile place) with
    | error failure => exact ⟨made, prepared_of_gains hgains, .inl rfl⟩
    | ok opened =>
        exact ⟨opened, prepared_openOrCreate hgains hopen,
          .inr ⟨rfl, locked_openOrCreate (hasDirectory_ensureAfter hmake) hopen⟩⟩

/-- Where the lock was taken, nothing is missing. -/
theorem locked_of_lock {locked : FileTree} (hlock : (lock place).runOn tree = (.ok (), locked)) :
    Locked place locked := by
  obtain ⟨found, _, hfailed | ⟨htaken, hlocked⟩⟩ := lock_runOn place tree
  · rw [hlock] at hfailed
    cases hfailed
  · rw [hlock] at htaken
    cases htaken
    exact hlocked

/-! ## The pool file -/

/-- Reading the pool gives the pool that stands at its place and changes nothing. -/
theorem load_runOn (hlocate : tree.locate place = .ok path) :
    (load place).runOn tree =
      ((ofFile? (tree.find? path)).elim (.error .decodeState) .ok, tree) := by
  rw [load, runOn_bind, runOn_read]
  cases hentry : tree.find? path with
  | none =>
      have hread : tree.read place = .error .notFound := by
        simp [FileTree.read, hlocate, hentry]
      simp only [hread]
      rfl
  | some entry =>
      cases entry with
      | directory =>
          have hread : tree.read place = .error .isADirectory := by
            simp [FileTree.read, hlocate, hentry]
          simp only [hread]
          rfl
      | file content =>
          have hread : tree.read place = .ok content := by
            simp [FileTree.read, hlocate, hentry]
          simp only [hread, ofFile?]
          cases ofContent? content <;> rfl

/-- A pool file replaced as a whole: it has the new content, there is no temporary file, and all
else is as it was. -/
def Replaced (place : FilePlace) (content : ByteArray) (before after : FileTree) : Prop :=
  ∃ path beside, place.location = .ok path ∧ (temporary place).location = .ok beside ∧
    ∀ other, after.find? other =
      if other = path then some (.file content)
      else if other = beside then none else before.find? other

/-- The changes that replace the pool file all succeed where the first of them does. -/
theorem replacement_runOn {content : ByteArray} {created : FileTree}
    (hlocate : tree.locate place = .ok path) (hfree : tree.find? path ≠ some .directory)
    (hcreate : tree.create (temporary place) = .ok created) :
    ∃ after, runOn ((replacement place content).forM change) tree = (.ok (), after) ∧
      Replaced place content tree after := by
  have hplace := FileTree.location_of_locate hlocate
  obtain ⟨beside, htemporary, hbeside, rfl⟩ := FileTree.create_eq_ok hcreate
  have hlocation := FileTree.location_of_locate htemporary
  have hne : path ≠ beside := (FilePlace.sibling_location_ne (by decide) hplace hlocation).symm
  -- The temporary file is made, written and moved; every place is found in all three trees.
  let created := tree.set beside (.file .empty)
  let written := created.set beside (.file content)
  have hempty : created.find? beside = some (.file .empty) := FileTree.find?_set_self hbeside
  have hfile : created.find? beside ≠ some .directory := by simp [hempty]
  have hcontent : written.find? beside = some (.file content) := FileTree.find?_set_self hfile
  have hkept : written.find? path = tree.find? path :=
    (FileTree.find?_set_of_ne hne).trans (FileTree.find?_set_of_ne hne)
  have hreach {reached : FilePlace} {found : Path} (hfound : tree.locate reached = .ok found) :
      created.locate reached = .ok found ∧ written.locate reached = .ok found :=
    ⟨FileTree.locate_set hbeside hfound,
      FileTree.locate_set hfile (FileTree.locate_set hbeside hfound)⟩
  have hwrite : created.write (temporary place) content = .ok written :=
    FileTree.write_of_file (hreach htemporary).1 hempty
  have hrename : written.rename (temporary place) place =
      .ok ((written.erase beside).set path (.file content)) :=
    FileTree.rename_of_file (hreach htemporary).2 hcontent (hreach hlocate).2 (hkept ▸ hfree)
  refine ⟨(written.erase beside).set path (.file content), ?_, path, beside, hplace, hlocation,
    fun other => ?_⟩
  · have hcreated : tree.create (temporary place) = .ok created := hcreate
    simp only [replacement, runOn_forM_change_cons, FileChange.applyTo, hcreated, hwrite, hrename]
    rfl
  · have hroot : path ≠ [] := by
      rintro rfl
      exact hfree rfl
    have hrootBeside : beside ≠ [] := by
      rintro rfl
      exact hbeside rfl
    have hstands : tree.find? [] = some .directory := rfl
    simp only [FileTree.find?_set, FileTree.find?_erase, written, created]
    grind

/-- A new pool that cannot be written changes nothing. -/
theorem store_runOn_error {pool : PortPool} {failure : FileError}
    (hcreate : tree.create (temporary place) = .error failure) :
    (store place pool).runOn tree = (.error .encodeState, tree) := by
  have hremove := FileTree.remove_of_create_error hcreate
  simp only [store, runOn_tryCatch, runOn_failingWith, replacement, runOn_forM_change_cons,
    FileChange.applyTo, hcreate, mapError_error, runOn_bind, runOn_attempt, runOn_throw,
    runOn_change, hremove]

/-- A new pool that can be written takes the place of the old one. -/
theorem store_runOn_ok (pool : PortPool) {created : FileTree}
    (hlocate : tree.locate place = .ok path) (hfree : tree.find? path ≠ some .directory)
    (hcreate : tree.create (temporary place) = .ok created) :
    ∃ after, (store place pool).runOn tree = (.ok (), after) ∧
      Replaced place pool.content tree after := by
  obtain ⟨after, hreplace, hreplaced⟩ := replacement_runOn hlocate hfree hcreate
  refine ⟨after, ?_, hreplaced⟩
  rw [store, runOn_tryCatch, runOn_failingWith, hreplace, mapError_ok]

/-- No temporary file is left. -/
theorem Replaced.temporary {content : ByteArray} (hreplaced : Replaced place content tree after)
    {beside : Path} (htemporary : (temporary place).location = .ok beside) :
    after.find? beside = none := by
  obtain ⟨path, other, hplace, hother, hafter⟩ := hreplaced
  obtain rfl : beside = other := Except.ok.inj (htemporary.symm.trans hother)
  rw [hafter, if_neg (FilePlace.sibling_location_ne (by decide) hplace htemporary), if_pos rfl]

/-- Two files are written where no directories were, so that every way still stands. -/
theorem Replaced.keeps_directories {content : ByteArray} {created : FileTree}
    (hreplaced : Replaced place content tree after)
    (hfree : ∀ path, place.location = .ok path → tree.find? path ≠ some .directory)
    (hcreate : tree.create (PortPool.temporary place) = .ok created) :
    ∀ found, tree.find? found = some .directory → after.find? found = some .directory := by
  obtain ⟨beside, htemporary, hbeside, -⟩ := FileTree.create_eq_ok hcreate
  obtain ⟨path, other, hplace, hother, hafter⟩ := hreplaced
  obtain rfl : beside = other :=
    Except.ok.inj ((FileTree.location_of_locate htemporary).symm.trans hother)
  intro found hdirectory
  rw [hafter, if_neg, if_neg, hdirectory]
  · rintro rfl
    exact hbeside hdirectory
  · rintro rfl
    exact hfree found hplace hdirectory

theorem Locked.replaced {content : ByteArray} (hlocked : Locked place tree)
    (hkept : ∀ found, tree.find? found = some .directory → after.find? found = some .directory)
    (hreplaced : Replaced place content tree after) : Locked place after := by
  obtain ⟨path, beside, hplace, htemporary, hafter⟩ := hreplaced
  obtain ⟨lockPath, held, hlock, hfile⟩ := hlocked.lock
  have hlocation := FileTree.location_of_locate hlock
  have hpath := FilePlace.sibling_location_ne (by decide) hplace hlocation
  have hsibling := FilePlace.siblings_location_ne (by decide) (by decide) (by decide)
    hlocation htemporary
  refine ⟨hlocked.parent.mono hkept, lockPath, held, FileTree.locate_mono hkept hlock, ?_⟩
  rw [hafter, if_neg hpath, if_neg hsibling, hfile]

/-! ## One use -/

/-- How one use of the pool file ends: the lock is taken, the pool is read, a change is decided on
and stored, and the first of these that fails ends the use. -/
inductive Outcome (place : FilePlace) (choose : PortPool → Except Failure (α × PortPool))
    (tree : FileTree) : Except Failure α × FileTree → Prop
  | unlocked {locked : FileTree} (hprepared : Prepared place tree locked)
      (hlock : (lock place).runOn tree = (.error .openLock, locked)) :
      Outcome place choose tree (.error .openLock, locked)
  | unread {locked : FileTree} (hprepared : Prepared place tree locked)
      (hlock : (lock place).runOn tree = (.ok (), locked))
      (hnone : standing? place locked = none) :
      Outcome place choose tree (.error .decodeState, locked)
  | refused {locked : FileTree} {pool : PortPool} {failure : Failure}
      (hprepared : Prepared place tree locked) (hlock : (lock place).runOn tree = (.ok (), locked))
      (hheld : standing? place locked = some pool) (hchoose : choose pool = .error failure) :
      Outcome place choose tree (.error failure, locked)
  | unwritten {locked : FileTree} {pool chosen : PortPool} {answer : α} {failure : FileError}
      (hprepared : Prepared place tree locked) (hlock : (lock place).runOn tree = (.ok (), locked))
      (hheld : standing? place locked = some pool) (hchoose : choose pool = .ok (answer, chosen))
      (hcreate : locked.create (temporary place) = .error failure) :
      Outcome place choose tree (.error .encodeState, locked)
  | stored {locked after : FileTree} {pool chosen : PortPool} {answer : α}
      (hprepared : Prepared place tree locked) (hlock : (lock place).runOn tree = (.ok (), locked))
      (hheld : standing? place locked = some pool) (hchoose : choose pool = .ok (answer, chosen))
      (hreplaced : Replaced place chosen.content locked after) :
      Outcome place choose tree (.ok answer, after)

theorem update_outcome (place : FilePlace) (choose : PortPool → Except Failure (α × PortPool))
    (tree : FileTree) : Outcome place choose tree ((update place choose).runOn tree) := by
  obtain ⟨locked, hprepared, hlock | ⟨hlock, hlocked⟩⟩ := lock_runOn place tree
  · have hrun : (update place choose).runOn tree = (.error .openLock, locked) := by
      rw [update, runOn_bind, hlock]
    rw [hrun]
    exact .unlocked hprepared hlock
  · obtain ⟨path, hlocate⟩ := hlocked.locate
    have hplace := FileTree.location_of_locate hlocate
    have hload := load_runOn hlocate
    rw [← standing?_eq hplace] at hload
    rw [update, runOn_bind, hlock]
    simp only [runOn_bind, hload]
    cases hheld : standing? place locked with
    | none => exact .unread hprepared hlock hheld
    | some pool =>
        have hchosen : runOn (ExceptT.mk (pure (choose pool)) : FileAction Failure _) locked =
            (choose pool, locked) := rfl
        simp only [Option.elim_some, hchosen]
        cases hchoose : choose pool with
        | error failure => exact .refused hprepared hlock hheld hchoose
        | ok decided =>
            obtain ⟨answer, chosen⟩ := decided
            have hfree := free_of_standing hheld hplace
            cases hcreate : locked.create (temporary place) with
            | error failure =>
                simp only [store_runOn_error hcreate]
                exact .unwritten hprepared hlock hheld hchoose hcreate
            | ok created =>
                obtain ⟨after, hstore, hreplaced⟩ := store_runOn_ok chosen hlocate hfree hcreate
                simp only [hstore]
                exact .stored hprepared hlock hheld hchoose hreplaced

/-- Taking the lock does not change the pool that stands, unless a directory takes the place of a
pool file that is missing. -/
theorem Prepared.unmoved (hprepared : Prepared place tree after) : Unmoved place tree after := by
  rw [Unmoved]
  cases hplace : place.location with
  | error failure => simp [standing?, hplace]
  | ok path =>
      rw [standing?_eq hplace, standing?_eq hplace]
      rcases hprepared.find? hplace with hsame | ⟨hnone, hdirectory, _⟩
      · exact .inl (by rw [hsame])
      · exact .inr ⟨by rw [hnone]; rfl, by rw [hdirectory]; rfl⟩

/-- A pool that can be read under the lock stood there before. -/
theorem Prepared.standing? {pool : PortPool} (hprepared : Prepared place tree after)
    (hheld : PortPool.standing? place after = some pool) :
    PortPool.standing? place tree = some pool := by
  rcases hprepared.unmoved with hsame | ⟨_, hnone⟩
  · rw [← hsame, hheld]
  · rw [hheld] at hnone
    cases hnone

theorem Replaced.standing? {pool : PortPool} (hreplaced : Replaced place pool.content tree after) :
    PortPool.standing? place after = some pool := by
  obtain ⟨path, beside, hplace, _, hafter⟩ := hreplaced
  rw [standing?_eq hplace, hafter, if_pos rfl]
  exact ofContent?_content pool

/-- One use of the pool: it answers and the chosen pool stands, or it fails and leaves the pool. -/
theorem update_runOn {choose : PortPool → Except Failure (α × PortPool)}
    {result : Except Failure α} (hrun : (update place choose).runOn tree = (result, after)) :
    (∃ answer pool chosen, result = .ok answer ∧ standing? place tree = some pool ∧
        choose pool = .ok (answer, chosen) ∧ standing? place after = some chosen) ∨
      (∃ failure, result = .error failure) ∧ Unmoved place tree after := by
  have houtcome := update_outcome place choose tree
  rw [hrun] at houtcome
  cases houtcome with
  | unlocked hprepared hlock => exact .inr ⟨⟨_, rfl⟩, hprepared.unmoved⟩
  | unread hprepared hlock hnone => exact .inr ⟨⟨_, rfl⟩, hprepared.unmoved⟩
  | refused hprepared hlock hheld hchoose => exact .inr ⟨⟨_, rfl⟩, hprepared.unmoved⟩
  | unwritten hprepared hlock hheld hchoose hcreate => exact .inr ⟨⟨_, rfl⟩, hprepared.unmoved⟩
  | stored hprepared hlock hheld hchoose hreplaced =>
      exact .inl ⟨_, _, _, rfl, hprepared.standing? hheld, hchoose, hreplaced.standing?⟩

end ContainerNetwork.PortPool
