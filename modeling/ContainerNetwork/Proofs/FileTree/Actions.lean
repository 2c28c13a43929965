import ContainerNetwork.FileAction
import ContainerNetwork.Proofs.FileTree.Location
import Mathlib.Data.List.DropRight

/-!
# Running actions on a file tree

What an action does is described by its result and the tree it leaves.  Making directories only
adds directories where nothing was before, and only on the way that is made.
-/

namespace ContainerNetwork

namespace FileAction

variable {ε α β : Type}

@[simp]
theorem runOn_pure (value : α) (tree : FileTree) :
    (pure value : FileAction ε α).runOn tree = (.ok value, tree) := rfl

@[simp]
theorem runOn_throw (failure : ε) (tree : FileTree) :
    (throw failure : FileAction ε α).runOn tree = (.error failure, tree) := rfl

theorem runOn_bind (action : FileAction ε α) (next : α → FileAction ε β) (tree : FileTree) :
    (action >>= next).runOn tree =
      match action.runOn tree with
      | (.ok value, after) => (next value).runOn after
      | (.error failure, after) => (.error failure, after) := by
  simp only [runOn, ExceptT.run_bind, Program.run_bind]
  rcases (ExceptT.run action).run FileRequest.respond tree with ⟨failure | value, after⟩
  · rfl
  · rfl

theorem runOn_map (f : α → β) (action : FileAction ε α) (tree : FileTree) :
    (f <$> action).runOn tree = ((action.runOn tree).1.map f, (action.runOn tree).2) := by
  rw [← bind_pure_comp, runOn_bind]
  rcases action.runOn tree with ⟨failure | value, after⟩
  · rfl
  · rfl

theorem runOn_tryCatch (action : FileAction ε α) (handle : ε → FileAction ε α)
    (tree : FileTree) :
    (tryCatch action handle).runOn tree =
      match action.runOn tree with
      | (.ok value, after) => (.ok value, after)
      | (.error failure, after) => (handle failure).runOn after := by
  change Program.run FileRequest.respond
    (ExceptT.run action >>= fun result => match result with
      | .ok value => pure (.ok value)
      | .error failure => ExceptT.run (handle failure)) tree = _
  simp only [runOn, Program.run_bind]
  rcases (ExceptT.run action).run FileRequest.respond tree with ⟨failure | value, after⟩
  · rfl
  · rfl

@[simp]
theorem runOn_read (place : FilePlace) (tree : FileTree) :
    (read place : FileAction ε _).runOn tree = (.ok (tree.read place), tree) := rfl

theorem runOn_change (operation : FileChange) (tree : FileTree) :
    (change operation).runOn tree =
      match operation.applyTo tree with
      | .ok after => (.ok (), after)
      | .error failure => (.error failure, tree) := by
  change FileRequest.respond (.change operation) tree = _
  cases happly : operation.applyTo tree with
  | ok after => simp only [FileRequest.respond, happly]
  | error failure => simp only [FileRequest.respond, happly]

/-- A series of changes stops at the first that fails. -/
theorem runOn_forM_change_cons (operation : FileChange) (rest : List FileChange)
    (tree : FileTree) :
    runOn ((operation :: rest).forM change) tree =
      match operation.applyTo tree with
      | .ok after => runOn (rest.forM change) after
      | .error failure => (.error failure, tree) := by
  simp only [List.forM_eq_forM, List.forM_cons, runOn_bind, runOn_change]
  cases operation.applyTo tree <;> rfl

theorem runOn_failingWith (failure : ε) (action : FileAction FileError α) (tree : FileTree) :
    (action.failingWith failure).runOn tree =
      ((action.runOn tree).1.mapError fun _ => failure, (action.runOn tree).2) :=
  Program.run_map _ _ _

theorem runOn_attempt (action : FileAction FileError Unit) (tree : FileTree) :
    (attempt (ε := ε) action).runOn tree = (.ok (), (action.runOn tree).2) :=
  Program.run_map _ _ _

end FileAction

namespace FileTree

/-- A tree that differs from another at most by directories where nothing was and a path comes
by. -/
def GainsDirectories (way : Path) (before after : FileTree) : Prop :=
  ∀ path, after.find? path = before.find? path ∨
    (before.find? path = none ∧ after.find? path = some .directory ∧ way.Crosses path)

namespace GainsDirectories

variable {way longer : Path} {first second third : FileTree}

theorem refl (way : Path) (tree : FileTree) : GainsDirectories way tree tree := fun _ => .inl rfl

theorem trans (hfirst : GainsDirectories way first second)
    (hsecond : GainsDirectories way second third) : GainsDirectories way first third := by
  intro path
  rcases hsecond path with hsame | ⟨hnone, hdirectory⟩
  · rw [hsame]
    exact hfirst path
  · rcases hfirst path with hsame | ⟨_, hmade, _⟩
    · exact .inr ⟨hsame ▸ hnone, hdirectory⟩
    · rw [hnone] at hmade
      cases hmade

theorem mono (hlonger : way <+: longer) (hgains : GainsDirectories way first second) :
    GainsDirectories longer first second := by
  intro path
  exact (hgains path).imp_right fun ⟨hnone, hmade, hcrosses⟩ =>
    ⟨hnone, hmade, hcrosses.mono hlonger⟩

end GainsDirectories

/-- A directory stands where a place is found. -/
def HasDirectory (tree : FileTree) (place : FilePlace) : Prop :=
  ∃ path, tree.locate place = .ok path ∧ tree.find? path = some .directory

variable {tree after : FileTree} {place : FilePlace} {way : Path}

theorem HasDirectory.mono
    (hkept : ∀ path, tree.find? path = some .directory → after.find? path = some .directory)
    (hstands : tree.HasDirectory place) : after.HasDirectory place := by
  obtain ⟨path, hlocate, hdirectory⟩ := hstands
  exact ⟨path, locate_mono hkept hlocate, hkept path hdirectory⟩

theorem HasDirectory.ensureDirectory (hstands : tree.HasDirectory place) :
    tree.ensureDirectory place = .ok tree := by
  obtain ⟨path, hlocate, hdirectory⟩ := hstands
  simp [FileTree.ensureDirectory, hlocate, hdirectory]

theorem gainsDirectories_ensureDirectory (hcrosses : ∀ path, place.location = .ok path →
      way.Crosses path) (hensure : tree.ensureDirectory place = .ok after) :
    GainsDirectories way tree after := by
  rcases ensureDirectory_eq_ok hensure with ⟨rfl, _⟩ | ⟨path, hlocate, hnone, rfl⟩
  · exact .refl way after
  · intro other
    by_cases hother : other = path
    · subst hother
      exact .inr ⟨hnone, find?_set_self (by simp [hnone]),
        hcrosses other (location_of_locate hlocate)⟩
    · exact .inl (find?_set_of_ne hother)

theorem hasDirectory_ensureDirectory (hensure : tree.ensureDirectory place = .ok after) :
    after.HasDirectory place := by
  rcases ensureDirectory_eq_ok hensure with ⟨rfl, hstands⟩ | ⟨path, hlocate, hnone, rfl⟩
  · exact hstands
  · have hfree : tree.find? path ≠ some .directory := by simp [hnone]
    exact ⟨path, locate_set hfree hlocate, find?_set_self hfree⟩

end FileTree

namespace FileAction

open FileTree (GainsDirectories)

variable {prepare : FileAction FileError Unit} {way : Path} {place : FilePlace}

theorem gainsDirectories_ensure (hcrosses : ∀ path, place.location = .ok path → way.Crosses path)
    (tree : FileTree) :
    GainsDirectories way tree ((change (.ensureDirectory place)).runOn tree).2 := by
  rw [runOn_change, FileChange.applyTo]
  cases hensure : tree.ensureDirectory place with
  | error failure => exact .refl way tree
  | ok after => exact FileTree.gainsDirectories_ensureDirectory hcrosses hensure

theorem gainsDirectories_ensureAfter
    (hprepare : ∀ tree : FileTree, GainsDirectories way tree (prepare.runOn tree).2)
    (hcrosses : ∀ path, place.location = .ok path → way.Crosses path) (tree : FileTree) :
    GainsDirectories way tree ((ensureAfter prepare place).runOn tree).2 := by
  have hfirst := gainsDirectories_ensure hcrosses tree
  rw [ensureAfter, runOn_tryCatch]
  rcases hrun : (change (.ensureDirectory place)).runOn tree with ⟨failure | value, middle⟩
  · rw [hrun] at hfirst
    by_cases hmissing : failure = .notFound
    · subst hmissing
      change GainsDirectories way tree
        ((prepare >>= fun _ => change (.ensureDirectory place)).runOn middle).2
      have hsecond := hprepare middle
      rw [runOn_bind]
      rcases hway : prepare.runOn middle with ⟨failure | value, made⟩
      · rw [hway] at hsecond
        exact hfirst.trans hsecond
      · rw [hway] at hsecond
        exact (hfirst.trans hsecond).trans (gainsDirectories_ensure hcrosses made)
    · simp only [ne_eq, hmissing, not_false_eq_true, if_true]
      exact hfirst
  · rw [hrun] at hfirst
    exact hfirst

/-- Every directory that is made stands on the way. -/
theorem gainsDirectories_makeWay (names : List String) (tree : FileTree) :
    GainsDirectories names.reverse tree ((makeWay names).runOn tree).2 := by
  induction names generalizing tree with
  | nil => exact .refl _ tree
  | cons name before ih =>
      rw [List.reverse_cons]
      apply gainsDirectories_ensureAfter
      · intro middle
        exact (ih middle).mono (List.prefix_append _ _)
      · intro path hlocation
        rw [FilePlace.location_eq] at hlocation
        exact ⟨before.reverse ++ [name], List.prefix_refl _, hlocation⟩

theorem gainsDirectories_makeDirectories {path : Path} (hsteps : path.steps = path)
    (tree : FileTree) : GainsDirectories path tree ((makeDirectories path).runOn tree).2 := by
  apply gainsDirectories_ensureAfter
  · intro middle
    have hway := gainsDirectories_makeWay path.parent.reverse middle
    rw [List.reverse_reverse] at hway
    apply hway.mono
    rw [Path.parent, hsteps]
    exact List.dropLast_prefix path
  · intro reached hlocation
    rw [FilePlace.location_ofPath] at hlocation
    exact ⟨path.withoutSlashes, List.rdropWhile_prefix _ path, hlocation⟩

/-- Where making a directory succeeds, it stands. -/
theorem hasDirectory_ensureAfter {tree after : FileTree}
    (hrun : (ensureAfter prepare place).runOn tree = (.ok (), after)) :
    after.HasDirectory place := by
  have hensured {before : FileTree}
      (hchange : (change (.ensureDirectory place)).runOn before = (.ok (), after)) :
      after.HasDirectory place := by
    rw [runOn_change] at hchange
    split at hchange
    · rename_i made hensure
      cases hchange
      exact FileTree.hasDirectory_ensureDirectory hensure
    · cases hchange
  rw [ensureAfter, runOn_tryCatch] at hrun
  split at hrun
  · rename_i value middle hchange
    cases hrun
    exact hensured hchange
  · rename_i failure middle hchange
    by_cases hmissing : failure = .notFound
    · subst hmissing
      change (prepare >>= fun _ => change (.ensureDirectory place)).runOn middle = _ at hrun
      rw [runOn_bind] at hrun
      split at hrun
      · exact hensured hrun
      · cases hrun
    · simp only [ne_eq, hmissing, not_false_eq_true, if_true] at hrun
      cases hrun

/-- A directory that stands is not made again. -/
theorem ensureAfter_of_hasDirectory {tree : FileTree} (hstands : tree.HasDirectory place) :
    (ensureAfter prepare place).runOn tree = (.ok (), tree) := by
  rw [ensureAfter, runOn_tryCatch, runOn_change, FileChange.applyTo, hstands.ensureDirectory]

end FileAction

end ContainerNetwork
