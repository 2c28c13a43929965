import ContainerNetwork.Proofs.PortPool.Atomicity
import Mathlib.Data.List.Forall2

/-!
# The pool file stands for a pool

Uses of one pool file, each with a managed range of its own, answer as one pool in memory would.
What carries a run from one use to the next is that nothing is missing that the lock needs, that
the pool can be read and that a new one can be written.
-/

namespace ContainerNetwork.PortPool

variable {place : FilePlace} {range : ManagedRange} {use : Use} {tree after : FileTree}
variable {pool : PortPool}

/-! ## Runs in memory and on file -/

/-- What a pool in memory answers to a use, and the pool afterwards. -/
def Use.applyTo (range : ManagedRange) (use : Use) (pool : PortPool) :
    Except Failure (Option UInt16) × PortPool :=
  match use.decide range pool with
  | .ok (answer, chosen) => (.ok answer, chosen)
  | .error failure => (.error failure, pool)

/-- The answers of a pool in memory to some uses, each with the pool after it. -/
def answers :
    PortPool → List (ManagedRange × Use) → List (Except Failure (Option UInt16) × PortPool)
  | _, [] => []
  | pool, (range, use) :: rest =>
      let answer := use.applyTo range pool
      answer :: answers answer.2 rest

/-- Some uses of the pool file, each made on the tree that the one before it left. -/
def steps (place : FilePlace) : FileTree → List (ManagedRange × Use) → List Step
  | _, [] => []
  | tree, (range, use) :: rest =>
      let step := Step.of place range use tree
      step :: steps place step.after rest

/-! ## Trees that serve a pool -/

/-- A tree on which the lock can be taken, and then the pool be read and a new one be written. -/
def Serves (place : FilePlace) (tree : FileTree) (pool : PortPool) : Prop :=
  ∃ locked, (lock place).runOn tree = (.ok (), locked) ∧
    (∃ path, place.location = .ok path ∧ Holds (locked.find? path) pool) ∧
    ∃ created, locked.create (temporary place) = .ok created

/-- A tree that serves a pool without any change. -/
structure Ready (place : FilePlace) (tree : FileTree) (pool : PortPool) : Prop where
  locked : Locked place tree
  standing : standing? place tree = some pool
  writable : ∃ created, tree.create (temporary place) = .ok created

theorem Serves.ready (hserves : Serves place tree pool) :
    ∃ locked, (lock place).runOn tree = (.ok (), locked) ∧ Ready place locked pool := by
  obtain ⟨locked, hlock, ⟨path, hplace, hholds⟩, hwritable⟩ := hserves
  have hstanding := (standing?_eq hplace locked).trans (holds_iff.mp hholds)
  exact ⟨locked, hlock, locked_of_lock hlock, hstanding, hwritable⟩

namespace Ready

theorem serves (hready : Ready place tree pool) : Serves place tree pool := by
  obtain ⟨path, hlocate⟩ := hready.locked.locate
  have hplace := FileTree.location_of_locate hlocate
  exact ⟨tree, hready.locked.lock_runOn, ⟨path, hplace,
    holds_iff.mpr ((standing?_eq hplace tree).symm.trans hready.standing)⟩, hready.writable⟩

/-- A tree whose pool is replaced is ready for the new pool. -/
theorem replaced {chosen : PortPool} (hready : Ready place tree pool)
    (hreplaced : Replaced place chosen.content tree after) : Ready place after chosen := by
  obtain ⟨created, hcreate⟩ := hready.writable
  have hkept := hreplaced.keeps_directories (fun _ => free_of_standing hready.standing) hcreate
  obtain ⟨beside, htemporary, -, -⟩ := FileTree.create_eq_ok hcreate
  refine ⟨hready.locked.replaced hkept hreplaced, hreplaced.standing?, _,
    FileTree.create_of_free (FileTree.locate_mono hkept htemporary) ?_⟩
  rw [hreplaced.temporary (FileTree.location_of_locate htemporary)]
  exact nofun

end Ready

/-- The pool that a tree serves is read from it. -/
theorem Serves.current_runOn (hserves : Serves place tree pool) :
    ((current place).runOn tree).1 = .ok pool := by
  obtain ⟨locked, hlock, hready⟩ := hserves.ready
  obtain ⟨path, hlocate⟩ := hready.locked.locate
  have hload := load_runOn hlocate
  rw [← standing?_eq (FileTree.location_of_locate hlocate), hready.standing] at hload
  rw [current, FileAction.runOn_bind, hlock]
  exact congrArg Prod.fst hload

/-! ## One use -/

theorem Outcome.refines (hserves : Serves place tree pool)
    {outcome : Except Failure (Option UInt16) × FileTree}
    (houtcome : Outcome place (use.decide range) tree outcome) :
    outcome.1 = (use.applyTo range pool).1 ∧
      Serves place outcome.2 (use.applyTo range pool).2 := by
  obtain ⟨locked, htaken, hready⟩ := hserves.ready
  have hsame {result : Except Failure Unit} {other : FileTree}
      (hlock : (lock place).runOn tree = (result, other)) : result = .ok () ∧ other = locked :=
    Prod.mk.inj (hlock.symm.trans htaken)
  have hpool {other : PortPool} (hheld : standing? place locked = some other) : other = pool :=
    Option.some.inj (hheld.symm.trans hready.standing)
  cases houtcome with
  | unlocked hprepared hlock => cases (hsame hlock).1
  | unread hprepared hlock hnone =>
      obtain ⟨-, rfl⟩ := hsame hlock
      rw [hready.standing] at hnone
      cases hnone
  | refused hprepared hlock hheld hchoose =>
      obtain ⟨-, rfl⟩ := hsame hlock
      obtain rfl := hpool hheld
      rw [Use.applyTo, hchoose]
      exact ⟨rfl, hready.serves⟩
  | unwritten hprepared hlock hheld hchoose hcreate =>
      obtain ⟨-, rfl⟩ := hsame hlock
      obtain ⟨created, hwritable⟩ := hready.writable
      rw [hcreate] at hwritable
      cases hwritable
  | stored hprepared hlock hheld hchoose hreplaced =>
      obtain ⟨-, rfl⟩ := hsame hlock
      obtain rfl := hpool hheld
      rw [Use.applyTo, hchoose]
      exact ⟨rfl, (hready.replaced hreplaced).serves⟩

/-- A use answers as the pool that the tree serves would, and leaves a tree that serves the pool
afterwards. -/
theorem Serves.step (hserves : Serves place tree pool) (range : ManagedRange) (use : Use) :
    (Step.of place range use tree).result = (use.applyTo range pool).1 ∧
      Serves place (Step.of place range use tree).after (use.applyTo range pool).2 := by
  by_cases hopens : use.OpensPool
  · have houtcome := update_outcome place (use.decide range) tree
    rw [← Use.perform_runOn hopens] at houtcome
    exact houtcome.refines hserves
  · obtain ⟨hrun, hkept⟩ := Use.perform_explicit_runOn place range hopens pool tree
    have hresult : (Step.of place range use tree).result = (use.decide range pool).map Prod.fst :=
      congrArg Prod.fst hrun
    have hafter : (Step.of place range use tree).after = tree := congrArg Prod.snd hrun
    rw [hresult, hafter, Use.applyTo]
    cases hdecide : use.decide range pool with
    | error failure => exact ⟨rfl, hserves⟩
    | ok decided =>
        obtain rfl := hkept decided.1 decided.2 hdecide
        exact ⟨rfl, hserves⟩

/-- A use by itself leaves a tree that serves some pool. -/
theorem Serves.allocate (hserves : Serves place tree pool) (range : ManagedRange) (handle : String)
    (port : UInt16) :
    ∃ chosen, Serves place ((PortPool.allocate place range handle port).runOn tree).2 chosen := by
  have hafter := (hserves.step range (.allocate handle port)).2
  simp only [Step.of, Use.perform, FileAction.runOn_bind] at hafter
  rcases hrun : (PortPool.allocate place range handle port).runOn tree with
    ⟨failure | granted, after⟩
  · rw [hrun] at hafter
    exact ⟨_, hafter⟩
  · rw [hrun] at hafter
    exact ⟨_, hafter⟩

/-- A release on a tree that serves a pool succeeds. -/
theorem Serves.releaseAll (hserves : Serves place tree pool) (handle : String) :
    ((PortPool.releaseAll place handle).runOn tree).1 = .ok () ∧
      Serves place ((PortPool.releaseAll place handle).runOn tree).2 (pool.release handle) := by
  obtain ⟨hresult, hafter⟩ := hserves.step ⟨0, 0⟩ (.releaseAll handle)
  simp only [Step.of, Use.perform, FileAction.runOn_bind] at hresult hafter
  rcases hrun : (PortPool.releaseAll place handle).runOn tree with ⟨failure | released, after⟩
  · rw [hrun] at hresult
    cases hresult
  · rw [hrun] at hafter
    exact ⟨rfl, hafter⟩

/-! ## Whole runs -/

/-- Any uses of a pool file, with any managed ranges, answer as one pool in memory does, and after
every one of them the file holds that pool. -/
theorem persisted_refines (hserves : Serves place tree pool) (uses : List (ManagedRange × Use)) :
    List.Forall₂ (fun step answer => step.result = answer.1 ∧
        ((current place).runOn step.after).1 = .ok answer.2)
      (steps place tree uses) (answers pool uses) := by
  -- Every use leaves a tree that serves the pool after it, and the rest of the run starts there.
  induction uses generalizing tree pool with
  | nil => exact .nil
  | cons head rest ih =>
      obtain ⟨hresult, hafter⟩ := hserves.step head.1 head.2
      exact .cons ⟨hresult, hafter.current_runOn⟩ (ih hafter)

/-- A pool file of an older run, with a field of its own, serves two ranges that overlap. -/
theorem persisted_refines_of_older_file :
    let text := "\x7b\"acquired_ports\":\x7b\"old\":[40001,40000]\x7d,\"version\":3\x7d"
    let tree : FileTree := ⟨[(["var"], .directory), (["var", "pool.json"], .file text.toUTF8)]⟩
    let uses : List (ManagedRange × Use) :=
      [(⟨40000, 2⟩, .allocate "new" 0), (⟨40000, 3⟩, .allocate "a \"quoted\" name" 0),
        (⟨40002, 1⟩, .releaseAll "old"), (⟨40000, 2⟩, .allocate "new" 0)]
    (answers (.ofGroups (.ofList [("old", [40001, 40000])])) uses).map (·.1.toOption) =
        [none, some (some 40002), some none, some (some 40000)] ∧
      List.Forall₂ (fun step answer => step.result = answer.1 ∧
          ((current ⟨["var"], "pool.json"⟩).runOn step.after).1 = .ok answer.2)
        (steps ⟨["var"], "pool.json"⟩ tree uses)
        (answers (.ofGroups (.ofList [("old", [40001, 40000])])) uses) := by
  refine ⟨by decide +kernel, persisted_refines ?_ _⟩
  refine ⟨_, rfl, ⟨["var", "pool.json"], rfl, ?_⟩, _, rfl⟩
  exact .written (by decide +kernel) (by decide +kernel)

end ContainerNetwork.PortPool
