import ContainerNetwork.Proofs.FileTree.Interruption
import ContainerNetwork.Proofs.PortPool.Refinement

/-!
# Interrupted writes of the pool

A new pool is written to the temporary file, which then takes the place of the pool file.  Wherever
that is interrupted, the pool file holds the old pool or the new one as a whole, and what is left of
the temporary file makes no difference to any later use.
-/

namespace ContainerNetwork.PortPool

open FileAction

variable {place : FilePlace} {before after left right : FileTree} {path beside : Path}
variable {content : ByteArray} {pool : PortPool}

/-! ## Trees that differ by the temporary file -/

/-- Trees that differ at most by a file at the place of the temporary file. -/
def SameButTemporary (place : FilePlace) (left right : FileTree) : Prop :=
  ∀ path, left.find? path = right.find? path ∨
    (temporary place).location = .ok path ∧ left.find? path ≠ some .directory ∧
      right.find? path ≠ some .directory

namespace SameButTemporary

theorem refl (place : FilePlace) (tree : FileTree) : SameButTemporary place tree tree :=
  fun _ => .inl rfl

theorem symm (hsame : SameButTemporary place left right) : SameButTemporary place right left :=
  fun path => (hsame path).imp Eq.symm fun ⟨htemporary, hleft, hright⟩ =>
    ⟨htemporary, hright, hleft⟩

theorem trans {middle : FileTree} (hfirst : SameButTemporary place left middle)
    (hsecond : SameButTemporary place middle right) : SameButTemporary place left right := by
  intro path
  rcases hfirst path with hsame | ⟨htemporary, hleft, hmiddle⟩
  · rw [hsame]
    exact hsecond path
  · rcases hsecond path with hsame | ⟨_, _, hright⟩
    · exact .inr ⟨htemporary, hleft, hsame ▸ hmiddle⟩
    · exact .inr ⟨htemporary, hleft, hright⟩

theorem directory (hsame : SameButTemporary place left right)
    (hdirectory : left.find? path = some .directory) : right.find? path = some .directory := by
  rcases hsame path with hfound | ⟨_, hleft, _⟩
  · rw [← hfound, hdirectory]
  · exact absurd hdirectory hleft

theorem locate (hsame : SameButTemporary place left right) {other : FilePlace}
    (hlocate : left.locate other = .ok path) : right.locate other = .ok path :=
  FileTree.locate_mono (fun _ => hsame.directory) hlocate

/-- The temporary file is none of the others. -/
theorem find?_eq (hsame : SameButTemporary place left right)
    (hother : (temporary place).location ≠ .ok path) : left.find? path = right.find? path := by
  rcases hsame path with hfound | ⟨htemporary, _⟩
  · exact hfound
  · exact absurd htemporary hother

theorem find?_place (hsame : SameButTemporary place left right)
    (hplace : place.location = .ok path) : left.find? path = right.find? path :=
  hsame.find?_eq fun htemporary =>
    FilePlace.sibling_location_ne (by decide) hplace htemporary rfl

theorem standing_eq (hsame : SameButTemporary place left right) :
    standing? place left = standing? place right :=
  SameFile.standing? fun _ => hsame.find?_place

theorem locked (hsame : SameButTemporary place left right) (hlocked : Locked place left) :
    Locked place right := by
  obtain ⟨path, content, hlocate, hfile⟩ := hlocked.lock
  have hlocation := FileTree.location_of_locate hlocate
  refine ⟨hlocked.parent.mono fun _ => hsame.directory, path, content, hsame.locate hlocate, ?_⟩
  rw [← hsame.find?_eq, hfile]
  intro htemporary
  exact FilePlace.siblings_location_ne (by decide) (by decide) (by decide) htemporary hlocation rfl

theorem set {tree : FileTree} (hlocate : tree.locate (temporary place) = .ok beside)
    (hfree : tree.find? beside ≠ some .directory) (content : ByteArray) :
    SameButTemporary place tree (tree.set beside (.file content)) := by
  intro path
  by_cases hpath : path = beside
  · subst hpath
    refine .inr ⟨FileTree.location_of_locate hlocate, hfree, ?_⟩
    rw [FileTree.find?_set_self hfree]
    exact nofun
  · exact .inl (FileTree.find?_set_of_ne hpath).symm

theorem remove (hremove : left.remove (temporary place) = .ok right) :
    SameButTemporary place left right := by
  obtain ⟨beside, content, hlocate, hfile, rfl⟩ := FileTree.remove_eq_ok hremove
  intro path
  rw [FileTree.find?_erase]
  split
  · rename_i hroot
    subst hroot
    exact .inl rfl
  · split
    · rename_i hpath
      subst hpath
      refine .inr ⟨FileTree.location_of_locate hlocate, ?_, nofun⟩
      rw [hfile]
      exact nofun
    · exact .inl rfl

theorem create (hsame : SameButTemporary place left right) {created : FileTree}
    (hcreate : left.create (temporary place) = .ok created) :
    ∃ created, right.create (temporary place) = .ok created := by
  obtain ⟨beside, hlocate, hfree, -⟩ := FileTree.create_eq_ok hcreate
  refine ⟨_, FileTree.create_of_free (hsame.locate hlocate) ?_⟩
  intro hdirectory
  exact hfree (hsame.symm.directory hdirectory)

end SameButTemporary

/-! ## Old or new -/

/-- The pool file has the new content, there is no temporary file, and every way still stands. -/
structure Renewed (place : FilePlace) (content : ByteArray) (before after : FileTree) : Prop where
  replaced : Replaced place content before after
  directories : ∀ found, before.find? found = some .directory →
    after.find? found = some .directory

/-- Once the temporary file is made, it takes any content. -/
theorem write_created (htemporary : before.locate (temporary place) = .ok beside)
    (hbeside : before.find? beside ≠ some .directory) (held : ByteArray) :
    (before.set beside (.file .empty)).write (temporary place) held =
      .ok (before.set beside (.file held)) := by
  rw [FileTree.write_of_file (FileTree.locate_set hbeside htemporary)
    (FileTree.find?_set_self hbeside), FileTree.set_set]

/-- Renaming the temporary file is the last of the changes that replace the pool file. -/
theorem renewed_of_rename (htemporary : before.locate (temporary place) = .ok beside)
    (hbeside : before.find? beside ≠ some .directory)
    (hrename : (before.set beside (.file content)).rename (temporary place) place = .ok after) :
    Renewed place content before after := by
  have hcreate := FileTree.create_of_free htemporary hbeside
  have hrun : runOn ((replacement place content).forM change) before = (.ok (), after) := by
    simp only [replacement, runOn_forM_change_cons, FileChange.applyTo, hcreate,
      write_created htemporary hbeside, hrename]
    rfl
  have hsame := SameButTemporary.set htemporary hbeside content
  obtain ⟨path, hlocate, hfree⟩ := FileTree.rename_eq_ok hrename
  have hplace := FileTree.location_of_locate hlocate
  rw [← hsame.find?_place hplace] at hfree
  obtain ⟨renamed, hrenewed, hreplaced⟩ :=
    replacement_runOn (hsame.symm.locate hlocate) hfree hcreate
  rw [hrun] at hrenewed
  cases hrenewed
  refine ⟨hreplaced, hreplaced.keeps_directories ?_ hcreate⟩
  intro other hother
  rwa [Except.ok.inj (hother.symm.trans hplace)]

/-- As long as the temporary file is not renamed, nothing else changes; then the pool file is
renewed. -/
theorem begun_same_or_renewed (hbegun : FileChange.Begun (replacement place content) before after) :
    SameButTemporary place before after ∨ Renewed place content before after := by
  cases hbegun with
  | unfinished hcreating =>
      cases hcreating
      exact .inl (.refl place before)
  | made hcreate hwriting =>
      obtain ⟨beside, htemporary, hbeside, rfl⟩ := FileTree.create_eq_ok hcreate
      have hsame := SameButTemporary.set htemporary hbeside
      cases hwriting with
      | unfinished hwriting =>
          cases hwriting with
          | unmade => exact .inl (hsame .empty)
          | torn size hwrite =>
              rw [write_created htemporary hbeside] at hwrite
              cases hwrite
              exact .inl (hsame _)
      | made hwrite hrenaming =>
          rw [FileChange.applyTo, write_created htemporary hbeside] at hwrite
          cases hwrite
          cases hrenaming with
          | unfinished hrenaming =>
              cases hrenaming
              exact .inl (hsame content)
          | made hrename hfinished =>
              cases hfinished
              exact .inr (renewed_of_rename htemporary hbeside hrename)

/-- What follows a failure may at most remove the temporary file. -/
theorem interrupted_cleanup {failure : Failure}
    (hinterrupted : Interrupted (do
      attempt (change (.remove (temporary place)))
      throw failure : FileAction Failure Unit) before after) :
    after = before ∨ before.remove (temporary place) = .ok after := by
  rcases interrupted_ask_change hinterrupted with
    ⟨left, hleft, rfl | ⟨_, hended⟩⟩ | ⟨removed, hremove, hended⟩
  · cases hleft
    exact .inl rfl
  · cases hleft
    cases hended
    exact .inl rfl
  · cases hended
    exact .inr hremove

/-- Storing a pool leaves all but the temporary file as it was, or renews the pool file. -/
theorem store_same_or_renewed (hinterrupted : (store place pool).Interrupted before after) :
    SameButTemporary place before after ∨ Renewed place pool.content before after := by
  obtain ⟨left, hbegun, rfl | hcleanup⟩ := interrupted_series _ hinterrupted
  · exact begun_same_or_renewed hbegun
  · rcases interrupted_cleanup hcleanup with rfl | hremove
    · exact begun_same_or_renewed hbegun
    · rcases begun_same_or_renewed hbegun with hsame | hrenewed
      · exact .inl (hsame.trans (.remove hremove))
      · -- Once the file is renewed, there is nothing to remove.
        obtain ⟨beside, held, hlocate, hfile, -⟩ := FileTree.remove_eq_ok hremove
        rw [hrenewed.replaced.temporary (FileTree.location_of_locate hlocate)] at hfile
        cases hfile

theorem locked_of_interrupted (hinterrupted : (store place pool).Interrupted before after)
    (hlocked : Locked place before) : Locked place after := by
  rcases store_same_or_renewed hinterrupted with hsame | hrenewed
  · exact hsame.locked hlocked
  · exact hlocked.replaced hrenewed.directories hrenewed.replaced

/-- An interruption leaves the old pool file or the new one. -/
theorem read_of_interrupted (hinterrupted : (store place pool).Interrupted before after)
    (hlocked : Locked place before) :
    after.read place = before.read place ∨ after.read place = .ok pool.content := by
  obtain ⟨path, hlocate⟩ := hlocked.locate
  have hplace := FileTree.location_of_locate hlocate
  rcases store_same_or_renewed hinterrupted with hsame | ⟨hreplaced, hdirectories⟩
  · left
    simp only [FileTree.read, hlocate, hsame.locate hlocate, ok_bind, hsame.find?_place hplace]
  · right
    obtain ⟨found, beside, hfound, -, hafter⟩ := hreplaced
    obtain rfl : path = found := Except.ok.inj (hplace.symm.trans hfound)
    simp only [FileTree.read, FileTree.locate_mono hdirectories hlocate, ok_bind, hafter, if_true]

/-! ## Later uses -/

/-- What may be asked of the pool file later: a use, with a managed range of its own, or the pool as
it stands. -/
inductive Later where
  | use (range : ManagedRange) (use : Use)
  | snapshot

def Later.perform (place : FilePlace) : Later → FileAction Failure (Option UInt16 ⊕ PortPool)
  | .use range asked => .inl <$> asked.perform place range
  | .snapshot => .inr <$> current place

/-- The answers to what is asked later, each given on the tree that the one before it left. -/
def replies (place : FilePlace) :
    FileTree → List Later → List (Except Failure (Option UInt16 ⊕ PortPool))
  | _, [] => []
  | tree, later :: rest =>
      let run := (later.perform place).runOn tree
      run.1 :: replies place run.2 rest

/-- Runs with one result that leave trees that differ at most by the temporary file, and on which
the lock is taken without a change. -/
structure Indifferent {α : Type} (place : FilePlace) (left right : Except Failure α × FileTree) :
    Prop where
  result : left.1 = right.1
  same : SameButTemporary place left.2 right.2
  locked : Locked place left.2

theorem Indifferent.map {α β : Type} {first second : Except Failure α × FileTree}
    (hruns : Indifferent place first second) (f : α → β) :
    Indifferent place (first.1.map f, first.2) (second.1.map f, second.2) :=
  ⟨congrArg (Except.map f) hruns.result, hruns.same, hruns.locked⟩

theorem Locked.current_runOn {tree : FileTree} (hlocked : Locked place tree) :
    (current place).runOn tree = ((standing? place tree).elim (.error .decodeState) .ok, tree) := by
  obtain ⟨path, hlocate⟩ := hlocked.locate
  rw [current, runOn_bind, hlocked.lock_runOn, standing?_eq (FileTree.location_of_locate hlocate)]
  exact load_runOn hlocate

/-- Once the same pool is stored in both, the trees are the same. -/
theorem SameButTemporary.replaced {leftAfter rightAfter : FileTree}
    (hsame : SameButTemporary place left right) (hleft : Replaced place content left leftAfter)
    (hright : Replaced place content right rightAfter) :
    SameButTemporary place leftAfter rightAfter := by
  obtain ⟨path, beside, hplace, htemporary, hleftAfter⟩ := hleft
  obtain ⟨other, further, hother, hfurther, hrightAfter⟩ := hright
  obtain rfl : path = other := Except.ok.inj (hplace.symm.trans hother)
  obtain rfl : beside = further := Except.ok.inj (htemporary.symm.trans hfurther)
  intro found
  left
  rw [hleftAfter, hrightAfter]
  by_cases hfound : found = path
  · rw [if_pos hfound, if_pos hfound]
  · rw [if_neg hfound, if_neg hfound]
    by_cases hbeside : found = beside
    · rw [if_pos hbeside, if_pos hbeside]
    · rw [if_neg hbeside, if_neg hbeside]
      apply hsame.find?_eq
      rw [htemporary]
      exact fun heq => hbeside (Except.ok.inj heq).symm

/-- A pool is stored alike whatever there is of the temporary file. -/
theorem SameButTemporary.store (hsame : SameButTemporary place left right)
    (hlocked : Locked place left) (hstands : standing? place left = some pool)
    (chosen : PortPool) :
    Indifferent place ((store place chosen).runOn left) ((store place chosen).runOn right) := by
  obtain ⟨path, hlocate⟩ := hlocked.locate
  have hplace := FileTree.location_of_locate hlocate
  have hfree := free_of_standing hstands hplace
  cases hleft : left.create (temporary place) with
  | error failure =>
      cases hright : right.create (temporary place) with
      | error other =>
          rw [store_runOn_error hleft, store_runOn_error hright]
          exact ⟨rfl, hsame, hlocked⟩
      | ok created =>
          obtain ⟨created, hcreate⟩ := hsame.symm.create hright
          rw [hleft] at hcreate
          cases hcreate
  | ok created =>
      obtain ⟨other, hright⟩ := hsame.create hleft
      obtain ⟨leftAfter, hleftRun, hleftReplaced⟩ := store_runOn_ok chosen hlocate hfree hleft
      obtain ⟨rightAfter, hrightRun, hrightReplaced⟩ :=
        store_runOn_ok chosen (hsame.locate hlocate) (hsame.find?_place hplace ▸ hfree) hright
      rw [hleftRun, hrightRun]
      refine ⟨rfl, hsame.replaced hleftReplaced hrightReplaced,
        hlocked.replaced (hleftReplaced.keeps_directories ?_ hleft) hleftReplaced⟩
      exact fun _ => free_of_standing hstands

/-- A use of the pool that the file holds goes alike whatever there is of the temporary file. -/
theorem SameButTemporary.update {α : Type} (hsame : SameButTemporary place left right)
    (hlocked : Locked place left) (choose : PortPool → Except Failure (α × PortPool)) :
    Indifferent place ((update place choose).runOn left) ((update place choose).runOn right) := by
  obtain ⟨path, hlocate⟩ := hlocked.locate
  have hplace := FileTree.location_of_locate hlocate
  have hlockedRight := hsame.locked hlocked
  have hchosen (result : Except Failure (α × PortPool)) (tree : FileTree) :
      runOn (ExceptT.mk (pure result)) tree = (result, tree) := rfl
  simp only [PortPool.update, runOn_bind, hlocked.lock_runOn, hlockedRight.lock_runOn,
    load_runOn hlocate, load_runOn (hsame.locate hlocate), ← PortPool.standing?_eq hplace,
    ← hsame.standing_eq]
  cases hstands : standing? place left with
  | none => exact ⟨rfl, hsame, hlocked⟩
  | some pool =>
      simp only [Option.elim_some, hchosen]
      cases choose pool with
      | error failure => exact ⟨rfl, hsame, hlocked⟩
      | ok decided =>
          obtain ⟨answer, chosen⟩ := decided
          have hstored := hsame.store hlocked hstands chosen
          dsimp only
          generalize (PortPool.store place chosen).runOn left = leftRun at *
          generalize (PortPool.store place chosen).runOn right = rightRun at *
          obtain ⟨result, leftAfter⟩ := leftRun
          obtain ⟨other, rightAfter⟩ := rightRun
          obtain ⟨rfl, hsameAfter, hlockedAfter⟩ := hstored
          cases result with
          | error failure => exact ⟨rfl, hsameAfter, hlockedAfter⟩
          | ok _ => exact ⟨rfl, hsameAfter, hlockedAfter⟩

theorem Later.indifferent (later : Later) (hsame : SameButTemporary place left right)
    (hlocked : Locked place left) :
    Indifferent place ((later.perform place).runOn left) ((later.perform place).runOn right) := by
  cases later with
  | use range asked =>
      simp only [perform, runOn_map]
      by_cases hopens : asked.OpensPool
      · simp only [Use.perform_runOn hopens]
        exact (hsame.update hlocked (asked.decide range)).map Sum.inl
      · have hexplicit := Use.perform_explicit_runOn place range hopens .empty
        simp only [(hexplicit left).1, (hexplicit right).1]
        exact ⟨rfl, hsame, hlocked⟩
  | snapshot =>
      simp only [perform, runOn_map, hlocked.current_runOn, (hsame.locked hlocked).current_runOn,
        hsame.standing_eq]
      exact ⟨rfl, hsame, hlocked⟩

/-- What is asked of the pool file is answered alike whatever there is of the temporary file. -/
theorem SameButTemporary.replies (hsame : SameButTemporary place left right)
    (hlocked : Locked place left) (laters : List Later) :
    PortPool.replies place left laters = PortPool.replies place right laters := by
  induction laters generalizing left right with
  | nil => rfl
  | cons later rest ih =>
      obtain ⟨hresult, hafter, hlockedAfter⟩ := later.indifferent hsame hlocked
      rw [PortPool.replies, PortPool.replies, hresult, ih hafter hlockedAfter]

/-! ## Interruptions -/

/-- Storing a pool under the lock ends in one of the trees that it may be interrupted on.  In each
of them the pool file holds what it held or the new pool, and all that is asked of it later is
answered as if there were nothing left of the temporary file. -/
theorem store_survives_interruption {tree : FileTree}
    (hlock : (lock place).runOn tree = (.ok (), before)) (pool : PortPool) :
    (store place pool).Interrupted before ((store place pool).runOn before).2 ∧
      ∀ after, (store place pool).Interrupted before after →
        (after.read place = before.read place ∨ after.read place = .ok pool.content) ∧
          ∀ cleaned, after.remove (temporary place) = .ok cleaned →
            ∀ laters, replies place after laters = replies place cleaned laters := by
  have hlocked := locked_of_lock hlock
  refine ⟨interrupted_runOn (store place pool) before, ?_⟩
  intro after hinterrupted
  refine ⟨read_of_interrupted hinterrupted hlocked, ?_⟩
  intro cleaned hremove laters
  exact (SameButTemporary.remove hremove).replies (locked_of_interrupted hinterrupted hlocked)
    laters

/-- Storing a pool may end after any number of bytes of the temporary file. -/
theorem store_interrupted_of_write (pool : PortPool) {created : FileTree} (size : Nat)
    (hcreate : before.create (temporary place) = .ok created)
    (hwrite : created.write (temporary place) (pool.content.extract 0 size) = .ok after) :
    (store place pool).Interrupted before after :=
  interrupted_ask_of_ok hcreate (.cut (.torn size hwrite))

/-- The tree of an empty pool file. -/
def emptied : FileTree where
  entries := [(["var"], .directory), (["var", "pool.json"], .file .empty),
    (["var", "pool.json.lock"], .file .empty)]

/-- The tree of an empty pool file and a temporary file. -/
def unfinished (held : ByteArray) : FileTree :=
  emptied.set ["var", "pool.json.tmp"] (.file held)

/-- Storing a pool in place of an empty file ends amid the bytes of the temporary file. -/
theorem store_survives_interruption_of_partial_write :
    let place : FilePlace := ⟨["var"], "pool.json"⟩
    let pool := PortPool.empty.reserve 40000 "c1"
    let after := unfinished "\x7b\"acquired".toUTF8
    (store place pool).Interrupted emptied after ∧
      after.remove (temporary place) = .ok emptied ∧
      (after.read place = emptied.read place ∨ after.read place = .ok pool.content) ∧
      ∀ laters, replies place after laters = replies place emptied laters := by
  intro place pool after
  have hlock : (lock ⟨["var"], "pool.json"⟩).runOn emptied = (.ok (), emptied) := rfl
  have hcreate : emptied.create (temporary place) = .ok (unfinished .empty) := by decide +kernel
  have hwrite : (unfinished .empty).write (temporary place) (pool.content.extract 0 10) =
      .ok after := by
    decide +kernel
  have hinterrupted := store_interrupted_of_write pool 10 hcreate hwrite
  have hcleaned : after.remove (temporary place) = .ok emptied := by decide +kernel
  obtain ⟨hread, hreplies⟩ := (store_survives_interruption hlock pool).2 after hinterrupted
  exact ⟨hinterrupted, hcleaned, hread, hreplies emptied hcleaned⟩

end ContainerNetwork.PortPool
