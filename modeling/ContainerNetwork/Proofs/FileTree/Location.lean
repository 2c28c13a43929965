import ContainerNetwork.FileTree
import ContainerNetwork.Proofs.Except

/-!
# Where places are

Nothing in a tree decides where a path leads, only whether the way to it stands.  The location of a
place is therefore a path of its own, and each operation on a tree changes the entries at the
locations of its places and no others.
-/

namespace ContainerNetwork

namespace FileTree

/-- Where a path leads from a directory, whether or not the directories on the way stand. -/
def resolve (directory : Path) : Path → Except FileError Path
  | [] => .ok directory
  | name :: rest => do resolve (← follow directory name) rest

end FileTree

/-- Where a place is in any tree. -/
def FilePlace.location (place : FilePlace) : Except FileError Path := do
  FileTree.follow (← FileTree.resolve [] place.directory) place.name

namespace Path

/-- A location that a path comes by on its way from the root. -/
def Crosses (way path : Path) : Prop :=
  ∃ names : Path, names <+: way ∧ FileTree.resolve [] names = .ok path

theorem Crosses.mono {way longer path : Path} (hlonger : way <+: longer)
    (hcrosses : way.Crosses path) : longer.Crosses path := by
  obtain ⟨names, hnames, hresolve⟩ := hcrosses
  exact ⟨names, hnames.trans hlonger, hresolve⟩

/-- A parent has no names that stay where they are. -/
theorem steps_parent (path : Path) : path.parent.steps = path.parent := by
  apply List.filter_eq_self.mpr
  intro name hname
  exact (List.mem_filter.mp (List.dropLast_subset _ hname)).2

end Path

namespace FileTree

theorem resolve_append (directory names further : Path) :
    resolve directory (names ++ further) =
      resolve directory names >>= fun reached => resolve reached further := by
  induction names generalizing directory with
  | nil => rfl
  | cons name rest ih =>
      rw [List.cons_append, resolve, resolve]
      cases follow directory name with
      | error failure => rfl
      | ok next => exact ih next

theorem resolve_singleton (directory : Path) (name : String) :
    resolve directory [name] = follow directory name := by
  rw [resolve]
  cases follow directory name <;> rfl

end FileTree

/-- A place is where its path leads. -/
theorem FilePlace.location_eq (place : FilePlace) :
    place.location = FileTree.resolve [] place.path := by
  rw [path, FileTree.resolve_append]
  simp only [FileTree.resolve_singleton]
  rfl

theorem FilePlace.location_ofPath (path : Path) :
    (ofPath path).location = FileTree.resolve [] path := by
  by_cases hpath : path = []
  · subst hpath
    rfl
  · have hlast : path.dropLast ++ [path.getLastD ""] = path := by
      rw [List.getLastD_eq_getLast?, List.getLast?_eq_some_getLast hpath]
      exact List.dropLast_concat_getLast hpath
    rw [location_eq, FilePlace.path, ofPath, hlast]

namespace FileTree

variable {tree after : FileTree} {place : FilePlace} {path : Path}

theorem find?_erase (tree : FileTree) (path other : Path) :
    (tree.erase path).find? other =
      if other = [] then some .directory
      else if other = path then none else tree.find? other := by
  by_cases hroot : other = []
  · simp [find?, hroot]
  · simp only [find?, erase, if_neg hroot]
    induction tree.entries with
    | nil => simp
    | cons head rest ih => by_cases hhead : head.1 = path <;> grind

@[simp]
theorem find?_set (tree : FileTree) (path other : Path) (entry : FileEntry) :
    (tree.set path entry).find? other =
      if other = [] then some .directory
      else if other = path then some entry else tree.find? other := by
  have herase := tree.find?_erase path other
  by_cases hroot : other = []
  · simp [find?, hroot]
  · simp only [find?, if_neg hroot] at herase ⊢
    rw [set, List.lookup_cons]
    by_cases hpath : other = path
    · simp [hpath]
    · have hkey : (other == path) = false := by simpa using hpath
      rw [hkey, herase, if_neg hpath, if_neg hpath]

theorem find?_set_of_ne {other : Path} {entry : FileEntry} (hother : other ≠ path) :
    (tree.set path entry).find? other = tree.find? other := by
  rw [find?_set, if_neg hother]
  split
  · rename_i hroot
    simp [find?, hroot]
  · rfl

/-- Where no directory is, an entry that is set is found. -/
theorem find?_set_self {entry : FileEntry} (hpath : tree.find? path ≠ some .directory) :
    (tree.set path entry).find? path = some entry := by
  have hroot : path ≠ [] := by
    rintro rfl
    exact hpath rfl
  rw [find?_set, if_neg hroot, if_pos rfl]

/-- Of two entries that are set at one path, the later stays. -/
theorem set_set (tree : FileTree) (path : Path) (first second : FileEntry) :
    (tree.set path first).set path second = tree.set path second := by
  simp [set, erase, List.filter_filter]

theorem resolve_of_walk {directory reached : Path} {names : Path}
    (hwalk : tree.walk directory names = .ok reached) :
    resolve directory names = .ok reached := by
  induction names generalizing directory with
  | nil => exact hwalk
  | cons name rest ih =>
      rw [walk] at hwalk
      obtain ⟨next, hfollow, hrest⟩ := bind_eq_ok_iff.mp hwalk
      rw [resolve, hfollow, ok_bind]
      split at hrest
      · exact ih hrest
      · cases hrest
      · cases hrest

/-- Where a place is found in a tree is its location. -/
theorem location_of_locate (hlocate : tree.locate place = .ok path) :
    place.location = .ok path := by
  rw [locate] at hlocate
  split at hlocate
  · obtain ⟨directory, hwalk, hfollow⟩ := bind_eq_ok_iff.mp hlocate
    rw [FilePlace.location, resolve_of_walk hwalk, ok_bind]
    exact hfollow
  · cases hlocate

/-- A walk succeeds as long as the directories on its way stand. -/
theorem walk_mono {directory reached : Path} {names : Path}
    (hkept : ∀ path, tree.find? path = some .directory → after.find? path = some .directory)
    (hwalk : tree.walk directory names = .ok reached) :
    after.walk directory names = .ok reached := by
  induction names generalizing directory with
  | nil => exact hwalk
  | cons name rest ih =>
      rw [walk] at hwalk ⊢
      obtain ⟨next, hfollow, hrest⟩ := bind_eq_ok_iff.mp hwalk
      apply bind_eq_ok_iff.mpr
      refine ⟨next, hfollow, ?_⟩
      split at hrest
      · rename_i hdirectory
        simp only [hkept next hdirectory]
        exact ih hrest
      · cases hrest
      · cases hrest

theorem locate_mono
    (hkept : ∀ path, tree.find? path = some .directory → after.find? path = some .directory)
    (hlocate : tree.locate place = .ok path) : after.locate place = .ok path := by
  rw [locate] at hlocate ⊢
  split at hlocate
  · rename_i hvalid
    obtain ⟨directory, hwalk, hfollow⟩ := bind_eq_ok_iff.mp hlocate
    rw [if_pos hvalid, walk_mono hkept hwalk, ok_bind]
    exact hfollow
  · cases hlocate

/-- An entry that is set where no directory is takes no directory away. -/
theorem find?_set_directory {other : Path} {entry : FileEntry}
    (hother : tree.find? other ≠ some .directory) (hpath : tree.find? path = some .directory) :
    (tree.set other entry).find? path = some .directory := by
  rw [find?_set_of_ne, hpath]
  rintro rfl
  exact hother hpath

theorem locate_set {other : Path} {entry : FileEntry} (hother : tree.find? other ≠ some .directory)
    (hlocate : tree.locate place = .ok path) : (tree.set other entry).locate place = .ok path :=
  locate_mono (fun _ => find?_set_directory hother) hlocate

/-! ## What each operation changes -/

theorem ensureDirectory_eq_ok (hensure : tree.ensureDirectory place = .ok after) :
    (after = tree ∧ ∃ path, tree.locate place = .ok path ∧ tree.find? path = some .directory) ∨
      ∃ path, tree.locate place = .ok path ∧ tree.find? path = none ∧
        after = tree.set path .directory := by
  rw [ensureDirectory] at hensure
  obtain ⟨path, hlocate, hentry⟩ := bind_eq_ok_iff.mp hensure
  split at hentry
  · rename_i hdirectory
    cases hentry
    exact .inl ⟨rfl, path, hlocate, hdirectory⟩
  · cases hentry
  · rename_i hnone
    cases hentry
    exact .inr ⟨path, hlocate, hnone, rfl⟩

theorem openOrCreate_eq_ok (hopen : tree.openOrCreate place = .ok after) :
    ∃ path, tree.locate place = .ok path ∧
      ((after = tree ∧ ∃ content, tree.find? path = some (.file content)) ∨
        (tree.find? path = none ∧ after = tree.set path (.file .empty))) := by
  rw [openOrCreate] at hopen
  obtain ⟨path, hlocate, hentry⟩ := bind_eq_ok_iff.mp hopen
  refine ⟨path, hlocate, ?_⟩
  split at hentry
  · rename_i content hfile
    cases hentry
    exact .inl ⟨rfl, content, hfile⟩
  · cases hentry
  · rename_i hnone
    cases hentry
    exact .inr ⟨hnone, rfl⟩

theorem openOrCreate_of_file {content : ByteArray} (hlocate : tree.locate place = .ok path)
    (hfile : tree.find? path = some (.file content)) : tree.openOrCreate place = .ok tree := by
  simp [openOrCreate, hlocate, hfile]

theorem create_eq_ok (hcreate : tree.create place = .ok after) :
    ∃ path, tree.locate place = .ok path ∧ tree.find? path ≠ some .directory ∧
      after = tree.set path (.file .empty) := by
  rw [create] at hcreate
  obtain ⟨path, hlocate, hentry⟩ := bind_eq_ok_iff.mp hcreate
  refine ⟨path, hlocate, ?_⟩
  split at hentry
  · cases hentry
  · rename_i hfile
    cases hentry
    exact ⟨hfile, rfl⟩

theorem create_of_free (hlocate : tree.locate place = .ok path)
    (hfree : tree.find? path ≠ some .directory) :
    tree.create place = .ok (tree.set path (.file .empty)) := by
  rw [create, hlocate, ok_bind]
  split
  · rename_i hdirectory
    exact absurd hdirectory hfree
  · rfl

/-- What cannot be opened for writing cannot be removed either. -/
theorem remove_of_create_error {failure : FileError}
    (hcreate : tree.create place = .error failure) : tree.remove place = .error failure := by
  rw [create] at hcreate
  rw [remove]
  cases hlocate : tree.locate place with
  | error failure =>
      rw [hlocate] at hcreate
      cases hcreate
      rfl
  | ok path =>
      rw [hlocate, ok_bind] at hcreate
      rw [ok_bind]
      split at hcreate
      · rename_i hdirectory
        cases hcreate
        rw [hdirectory]
      · cases hcreate

theorem write_of_file {content held : ByteArray} (hlocate : tree.locate place = .ok path)
    (hfile : tree.find? path = some (.file held)) :
    tree.write place content = .ok (tree.set path (.file content)) := by
  simp [write, hlocate, hfile]

theorem rename_eq_ok {source : FilePlace} (hrename : tree.rename source place = .ok after) :
    ∃ path, tree.locate place = .ok path ∧ tree.find? path ≠ some .directory := by
  rw [rename] at hrename
  obtain ⟨content, _, hmoved⟩ := bind_eq_ok_iff.mp hrename
  obtain ⟨path, hlocate, hentry⟩ := bind_eq_ok_iff.mp hmoved
  refine ⟨path, hlocate, ?_⟩
  split at hentry
  · cases hentry
  · rename_i hfile
    exact hfile

theorem remove_eq_ok (hremove : tree.remove place = .ok after) :
    ∃ path content, tree.locate place = .ok path ∧ tree.find? path = some (.file content) ∧
      after = tree.erase path := by
  rw [remove] at hremove
  obtain ⟨path, hlocate, hentry⟩ := bind_eq_ok_iff.mp hremove
  split at hentry
  · rename_i content hfile
    cases hentry
    exact ⟨path, content, hlocate, hfile, rfl⟩
  · cases hentry
  · cases hentry

theorem rename_of_file {source : FilePlace} {origin : Path} {content : ByteArray}
    (hsource : tree.locate source = .ok origin)
    (hcontent : tree.find? origin = some (.file content))
    (hplace : tree.locate place = .ok path) (hfree : tree.find? path ≠ some .directory) :
    tree.rename source place = .ok ((tree.erase origin).set path (.file content)) := by
  have hread : tree.read source = .ok content := by simp [read, hsource, hcontent]
  rw [rename, hread, ok_bind, hplace, ok_bind]
  split
  · rename_i hdirectory
    exact absurd hdirectory hfree
  · rw [hsource, ok_bind]

end FileTree

/-! ## Paths that come by their own place -/

namespace FileTree

/-- Where no step climbs, every step goes one name further. -/
theorem resolve_of_not_climbing {directory reached names : Path} (hclimbs : ".." ∉ names)
    (hresolve : resolve directory names = .ok reached) : reached = directory ++ names.steps := by
  induction names generalizing directory with
  | nil =>
      cases hresolve
      simp [Path.steps]
  | cons name rest ih =>
      rw [List.mem_cons, not_or] at hclimbs
      rw [resolve] at hresolve
      obtain ⟨next, hfollow, hrest⟩ := bind_eq_ok_iff.mp hresolve
      rw [ih hclimbs.2 hrest]
      rw [follow] at hfollow
      split at hfollow
      · rename_i hstays
        cases hfollow
        simp [Path.steps, hstays]
      · rename_i hstays
        rw [if_neg (Ne.symm hclimbs.1)] at hfollow
        split at hfollow
        · cases hfollow
        · cases hfollow
          simp [Path.steps, hstays]

end FileTree

/-- Only a path that climbs comes by its own place on the way to its parent, unless it leads to the
root. -/
theorem FilePlace.climbs_of_crosses {place : FilePlace} {path : Path} (hroot : path ≠ [])
    (hplace : place.location = .ok path) (hcrosses : place.path.parent.Crosses path) :
    ".." ∈ place.path := by
  refine Decidable.byContradiction fun hclimbs => ?_
  obtain ⟨names, hnames, hresolve⟩ := hcrosses
  rw [FilePlace.location_eq] at hplace
  have hsteps := FileTree.resolve_of_not_climbing hclimbs hplace
  have hlevel : ".." ∉ names := by
    intro hmem
    have hparent := List.dropLast_subset _ (hnames.subset hmem)
    exact hclimbs (List.mem_filter.mp hparent).1
  have hpassed := FileTree.resolve_of_not_climbing hlevel hresolve
  rw [List.nil_append] at hsteps hpassed
  -- Without climbing, every step leads one deeper, and the way to the parent has one step less.
  have hlength : names.steps.length ≤ names.length := List.length_filter_le _ _
  have hshorter : names.length ≤ place.path.steps.length - 1 := by
    have hle := hnames.length_le
    rwa [Path.parent, List.length_dropLast] at hle
  have hpositive : 0 < place.path.steps.length := by
    rw [← hsteps]
    exact List.length_pos_iff.mpr hroot
  rw [← hpassed, hsteps] at hlength
  omega

end ContainerNetwork
