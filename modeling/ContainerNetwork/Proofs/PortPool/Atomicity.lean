import ContainerNetwork.Proofs.PortPool.Exclusion

/-!
# Uses of the pool change all or nothing

In whatever state it finds the tree, a use of the pool either answers, and then the whole of the new
pool has taken the place of the old one, or it fails, and then it has changed nothing but for what
taking the lock makes.
-/

namespace ContainerNetwork.PortPool

variable {place : FilePlace} {range : ManagedRange} {use : Use} {tree before after : FileTree}
variable {α β : Type}

/-! ## What a use decides -/

namespace Use

/-- Whether a use opens the pool file; asking for a certain port does not. -/
def OpensPool : Use → Prop
  | .allocate _ port => port = 0
  | .releaseAll _ => True

/-- What a use makes of a pool: its answer and the pool afterwards. -/
def decide (range : ManagedRange) : Use → PortPool → Except Failure (Option UInt16 × PortPool)
  | .allocate handle port, pool =>
      if port = 0 then (range.acquire pool handle).map (Prod.map some id)
      else if range.Contains port then .error (.explicitPortInRange port)
      else .ok (some port, pool)
  | .releaseAll handle, pool => .ok (none, pool.release handle)

end Use

/-- What becomes of the answer is part of what is decided. -/
theorem map_update_runOn (f : α → β) (choose : PortPool → Except Failure (α × PortPool))
    (tree : FileTree) :
    FileAction.runOn (do return f (← update place choose)) tree =
      (update place fun pool => (choose pool).map (Prod.map f id)).runOn tree := by
  have hchosen {γ : Type} (result : Except Failure γ) (tree : FileTree) :
      FileAction.runOn (ExceptT.mk (pure result)) tree = (result, tree) := rfl
  simp only [update, bind_assoc, FileAction.runOn_bind, hchosen]
  rcases (lock place).runOn tree with ⟨failure | _, locked⟩
  · rfl
  · dsimp only
    rcases (load place).runOn locked with ⟨failure | pool, loaded⟩
    · rfl
    · dsimp only
      cases choose pool with
      | error failure => rfl
      | ok decided =>
          simp only [Except.map, Prod.map, id_eq]
          rcases (store place decided.2).runOn loaded with ⟨failure | _, stored⟩
          · rfl
          · rfl

/-- A use that opens the pool file replaces the pool by what it decides on. -/
theorem Use.perform_runOn (hopens : use.OpensPool) (tree : FileTree) :
    (use.perform place range).runOn tree = (update place (use.decide range)).runOn tree := by
  cases use with
  | allocate handle port =>
      obtain rfl : port = 0 := hopens
      have hallocate : PortPool.allocate place range handle 0 =
          update place fun pool => range.acquire pool handle := if_pos rfl
      have hdecide : Use.decide range (.allocate handle 0) =
          fun pool => (range.acquire pool handle).map (Prod.map some id) := by
        funext pool
        rw [Use.decide, if_pos rfl]
      rw [Use.perform, hallocate, map_update_runOn, hdecide]
  | releaseAll handle => exact map_update_runOn (fun _ => none) _ tree

/-- A use that asks for a certain port leaves the tree, and the pool if there is one. -/
theorem Use.perform_explicit_runOn (place : FilePlace) (range : ManagedRange)
    (hopens : ¬use.OpensPool) (pool : PortPool) (tree : FileTree) :
    (use.perform place range).runOn tree = ((use.decide range pool).map Prod.fst, tree) ∧
      ∀ answer chosen, use.decide range pool = .ok (answer, chosen) → chosen = pool := by
  cases use with
  | allocate handle port =>
      have hport : port ≠ 0 := hopens
      simp only [Use.perform, FileAction.runOn_bind, allocate_explicit_runOn hport, Use.decide,
        if_neg hport]
      by_cases hmanaged : range.Contains port
      · simp [hmanaged, Except.map]
      · simp [hmanaged, Except.map]
  | releaseAll handle => exact absurd trivial hopens

/-! ## Failed uses -/

/-- The ways in which a use of the pool may fail. -/
inductive IsUseFailure : Failure → Prop
  | openLock : IsUseFailure .openLock
  | decodeState : IsUseFailure .decodeState
  | portPoolExhausted : IsUseFailure .portPoolExhausted
  | explicitPortInRange (port : UInt16) : IsUseFailure (.explicitPortInRange port)
  | encodeState : IsUseFailure .encodeState

theorem Use.isUseFailure_decide {pool : PortPool} {failure : Failure}
    (hdecide : use.decide range pool = .error failure) : IsUseFailure failure := by
  cases use with
  | allocate handle port =>
      rw [Use.decide] at hdecide
      split at hdecide
      · rw [ManagedRange.acquire] at hdecide
        split at hdecide
        · cases hdecide
          exact .portPoolExhausted
        · cases hdecide
      · split at hdecide
        · cases hdecide
          exact .explicitPortInRange port
        · cases hdecide
  | releaseAll handle => cases hdecide

/-- What a failed use leaves of a tree. -/
structure Intact (place : FilePlace) (before after : FileTree) : Prop where
  /-- What is at the place of the pool file stays.  Only where nothing is may there be a directory
  afterwards, if the path of the place climbs and so passes the place on the way to its parent. -/
  pool : ∀ path, place.location = .ok path → after.find? path = before.find? path ∨
    (before.find? path = none ∧ after.find? path = some .directory ∧
      ".." ∈ place.path ∧ place.path.parent.Crosses path)
  /-- Every file at the place of the temporary file was there before. -/
  temporary : ∀ path content, (temporary place).location = .ok path →
    after.find? path = some (.file content) → before.find? path = some (.file content)
  /-- No more is made anywhere than taking the lock makes. -/
  elsewhere : Prepared place before after

theorem Prepared.intact (hprepared : Prepared place before after) : Intact place before after where
  pool path hplace := by
    refine (hprepared.find? hplace).imp_right fun ⟨hnone, hmade, hcrosses⟩ =>
      ⟨hnone, hmade, ?_, hcrosses⟩
    apply FilePlace.climbs_of_crosses _ hplace hcrosses
    rintro rfl
    cases hnone
  temporary path content htemporary hfile := by
    rcases hprepared path with hsame | ⟨_, ⟨hmade, _⟩ | ⟨_, hlock⟩⟩
    · rw [← hsame, hfile]
    · rw [hfile] at hmade
      cases hmade
    · have hne := FilePlace.siblings_location_ne (by decide) (by decide) (by decide)
        htemporary hlock
      exact absurd rfl hne
  elsewhere := hprepared

/-! ## Uses that succeed -/

/-- What a place holds where it holds a pool: nothing, a blank file or the text of the pool. -/
inductive Holds : Option FileEntry → PortPool → Prop
  | absent : Holds none .empty
  | blank {text : String} (hblank : Text.isBlank text = true) :
      Holds (some (.file text.toUTF8)) .empty
  | written {text : String} {pool : PortPool} (hblank : Text.isBlank text = false)
      (hread : Wire.read? text = some pool) : Holds (some (.file text.toUTF8)) pool

theorem holds_iff {entry : Option FileEntry} {pool : PortPool} :
    Holds entry pool ↔ ofFile? entry = some pool := by
  have htext (text : String) : ofFile? (some (.file text.toUTF8)) =
      if Text.isBlank text then some .empty else Wire.read? text := by
    have hutf8 : String.fromUTF8? text.toUTF8 = some text := dif_pos text.isValidUTF8
    rw [ofFile?, ofContent?, hutf8]
    rfl
  constructor
  · intro hholds
    cases hholds with
    | absent => rfl
    | blank hblank => rw [htext, if_pos hblank]
    | written hblank hread => rw [htext, hblank, if_neg Bool.false_ne_true, hread]
  · intro hpool
    cases entry with
    | none =>
        cases hpool
        exact .absent
    | some entry =>
        cases entry with
        | directory => cases hpool
        | file content =>
            have hcontent := hpool
            rw [ofFile?, ofContent?] at hcontent
            obtain ⟨text, hutf8, -⟩ := Option.bind_eq_some_iff.mp hcontent
            obtain rfl : text.toUTF8 = content := by
              rw [String.fromUTF8?] at hutf8
              split at hutf8
              · cases hutf8
                rfl
              · cases hutf8
            rw [htext] at hpool
            cases hblank : Text.isBlank text with
            | true =>
                rw [hblank, if_pos rfl] at hpool
                cases hpool
                exact .blank hblank
            | false =>
                rw [hblank, if_neg Bool.false_ne_true] at hpool
                exact .written hblank hpool

/-- The new pool that a use decided on has taken the place of the old one. -/
structure Overwritten (place : FilePlace) (range : ManagedRange) (step : Step)
    (answer : Option UInt16) (held stored : PortPool) : Prop where
  decided : step.use.decide range held = .ok (answer, stored)
  pool : ∃ path, place.location = .ok path ∧ Holds (step.before.find? path) held ∧
    step.after.find? path = some (.file stored.content)
  temporary : ∃ path, (temporary place).location = .ok path ∧ step.after.find? path = none

/-! ## All uses -/

/-- One use of the pool changes all or nothing. -/
structure Step.Atomic (place : FilePlace) (range : ManagedRange) (step : Step) : Prop where
  failed : ∀ failure, step.result = .error failure →
    IsUseFailure failure ∧ Intact place step.before step.after
  answered : ∀ answer, step.result = .ok answer → step.use.OpensPool →
    ∃ held stored, Overwritten place range step answer held stored
  /-- Asking for a certain port never touches the tree. -/
  explicit : ¬step.use.OpensPool → step.after = step.before

namespace Step.Atomic

theorem of_error (hopens : use.OpensPool) {failure : Failure} (hkind : IsUseFailure failure)
    (hprepared : Prepared place before after) :
    Step.Atomic place range ⟨use, before, .error failure, after⟩ where
  failed other hother := by
    cases hother
    exact ⟨hkind, hprepared.intact⟩
  answered answer hanswer := by cases hanswer
  explicit hexplicit := absurd hopens hexplicit

theorem of_replaced (hopens : use.OpensPool) {answer : Option UInt16} {held stored : PortPool}
    {locked : FileTree} (hheld : standing? place before = some held)
    (hdecide : use.decide range held = .ok (answer, stored))
    (hreplaced : Replaced place stored.content locked after) :
    Step.Atomic place range ⟨use, before, .ok answer, after⟩ where
  failed failure hfailure := by cases hfailure
  answered other hother _ := by
    cases hother
    obtain ⟨path, beside, hplace, htemporary, hafter⟩ := hreplaced
    have hne := FilePlace.sibling_location_ne (by decide) hplace htemporary
    rw [standing?_eq hplace] at hheld
    refine ⟨held, stored, hdecide, ⟨path, hplace, holds_iff.mpr hheld, ?_⟩, beside, htemporary, ?_⟩
    · rw [hafter, if_pos rfl]
    · rw [hafter, if_neg hne, if_pos rfl]
  explicit hexplicit := absurd hopens hexplicit

theorem of_explicit (hexplicit : ¬use.OpensPool) :
    (Step.of place range use tree).Atomic place range := by
  obtain ⟨hrun, -⟩ := Use.perform_explicit_runOn place range hexplicit .empty tree
  have hresult : (Step.of place range use tree).result =
      (use.decide range .empty).map Prod.fst := congrArg Prod.fst hrun
  have hafter : (Step.of place range use tree).after = tree := congrArg Prod.snd hrun
  constructor
  · intro failure hfailure
    rw [hresult] at hfailure
    rw [hafter]
    cases hdecide : use.decide range .empty with
    | error other =>
        rw [hdecide] at hfailure
        cases hfailure
        exact ⟨Use.isUseFailure_decide hdecide, (Prepared.refl place tree).intact⟩
    | ok decided =>
        rw [hdecide] at hfailure
        cases hfailure
  · intro answer _ hopens
    exact absurd hopens hexplicit
  · intro _
    exact hafter

end Step.Atomic

theorem Outcome.atomic (hopens : use.OpensPool)
    {outcome : Except Failure (Option UInt16) × FileTree}
    (houtcome : Outcome place (use.decide range) tree outcome) :
    Step.Atomic place range ⟨use, tree, outcome.1, outcome.2⟩ := by
  cases houtcome with
  | unlocked hprepared hlock => exact .of_error hopens .openLock hprepared
  | unread hprepared hlock hnone => exact .of_error hopens .decodeState hprepared
  | refused hprepared hlock hheld hchoose =>
      exact .of_error hopens (Use.isUseFailure_decide hchoose) hprepared
  | unwritten hprepared hlock hheld hchoose hcreate =>
      exact .of_error hopens .encodeState hprepared
  | stored hprepared hlock hheld hchoose hreplaced =>
      exact .of_replaced hopens (hprepared.standing? hheld) hchoose hreplaced

/-- Every use of the pool, made on any tree, changes all or nothing. -/
theorem use_atomic (place : FilePlace) (range : ManagedRange) (use : Use) (tree : FileTree) :
    (Step.of place range use tree).Atomic place range := by
  by_cases hopens : use.OpensPool
  · have houtcome := update_outcome place (use.decide range) tree
    rw [← Use.perform_runOn hopens] at houtcome
    exact houtcome.atomic hopens
  · exact .of_explicit hopens

/-- Where the path of the pool passes the pool itself, its own directory takes the pool's place. -/
theorem use_takes_pool_place :
    let place : FilePlace := ⟨["d", ".."], "d"⟩
    let step := Step.of place ⟨40000, 10⟩ (.allocate "c" 0) ⟨[]⟩
    place.location = .ok ["d"] ∧ step.result = .error .decodeState ∧
      step.before.find? ["d"] = none ∧ step.after.find? ["d"] = some .directory := by
  exact ⟨rfl, rfl, rfl, rfl⟩

end ContainerNetwork.PortPool
