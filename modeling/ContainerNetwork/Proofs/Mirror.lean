import ContainerNetwork.Proofs.Plan

/-!
# Two runs side by side

Two operations may do different things on a host and still come to the same.  A comparison says
which states of the host count as alike, which events the runs may rely on and what of the events
is to be the same; `Mirrors` compares two runs by it, one step after the other.
-/

namespace ContainerNetwork

/-- Two ways to end that come to the same: related values, or one failure. -/
inductive SameEnd {α β : Type} (related : α → β → Prop) :
    Except Failure α → Except Failure β → Prop
  | ok {left : α} {right : β} (hrelated : related left right) :
      SameEnd related (.ok left) (.ok right)
  | error (failure : Failure) : SameEnd related (.error failure) (.error failure)

theorem SameEnd.of_eq {α : Type} {left right : Except Failure α} (hends : left = right) :
    SameEnd Eq left right := by
  subst hends
  cases left with
  | ok value => exact .ok rfl
  | error failure => exact .error failure

theorem SameEnd.eq {α : Type} {left right : Except Failure α} (hends : SameEnd Eq left right) :
    left = right := by
  cases hends with
  | ok hrelated => rw [hrelated]
  | error failure => rfl

theorem SameEnd.imp {α β : Type} {related weaker : α → β → Prop} {left : Except Failure α}
    {right : Except Failure β} (hends : SameEnd related left right)
    (hrelated : ∀ a b, related a b → weaker a b) : SameEnd weaker left right := by
  cases hends with
  | ok hvalues => exact .ok (hrelated _ _ hvalues)
  | error failure => exact .error failure

/-- What two runs on a host are compared by. -/
structure Comparison (σ ω : Type) where
  respond : (call : Call) → σ → call.Answer × σ
  alike : σ → σ → Prop
  /-- The events that the runs may rely on. -/
  fine : Event → Prop
  /-- What is to be seen of an event. -/
  shown : Event → Option ω

namespace Comparison

open Operation

variable {σ ω α β γ δ : Type} (comparison : Comparison σ ω)

def Fine (operation : Operation α) (state : σ) : Prop :=
  ∀ event ∈ events comparison.respond operation state, comparison.fine event

/-- An operation that succeeds if all its events are fine. -/
def Sure (operation : Operation α) (state : σ) : Prop :=
  comparison.Fine operation state →
    ∃ value, (runOn comparison.respond operation state).1 = .ok value

def shows (operation : Operation α) (state : σ) : List ω :=
  (events comparison.respond operation state).filterMap comparison.shown

/-- Two runs in which every event is fine end in the same way, in states that are alike, and show
the same. -/
def Mirrors (related : α → β → Prop) (left : Operation α) (first : σ) (right : Operation β)
    (second : σ) : Prop :=
  comparison.Fine left first → comparison.Fine right second →
    SameEnd related (runOn comparison.respond left first).1
        (runOn comparison.respond right second).1 ∧
      comparison.alike (runOn comparison.respond left first).2
        (runOn comparison.respond right second).2 ∧
      comparison.shows left first = comparison.shows right second

variable {comparison} {related : α → β → Prop} {other : γ → δ → Prop}
variable {left : Operation α} {right : Operation β} {first second : σ}

/-- Where all events of a run are fine, so are those of its beginning, and of its rest if there is
one. -/
theorem Fine.bind {next : α → Operation γ} (hfine : comparison.Fine (left >>= next) first) :
    comparison.Fine left first ∧
      ∀ value after, runOn comparison.respond left first = (.ok value, after) →
        comparison.Fine (next value) after := by
  rw [Fine, events_bind] at hfine
  constructor
  · exact fun event hevent => hfine event (List.mem_append_left _ hevent)
  · intro value after hrun event hevent
    rw [hrun] at hfine
    exact hfine event (List.mem_append_right _ hevent)

theorem Sure.pure (value : α) : comparison.Sure (Pure.pure value) first :=
  fun _ => ⟨value, rfl⟩

theorem Sure.bind {next : α → Operation γ} (hsure : comparison.Sure left first)
    (hnext : ∀ value after, runOn comparison.respond left first = (.ok value, after) →
      comparison.Sure (next value) after) : comparison.Sure (left >>= next) first := by
  intro hfine
  obtain ⟨hleft, hrest⟩ := hfine.bind
  obtain ⟨value, hvalue⟩ := hsure hleft
  rw [runOn_bind]
  generalize runOn comparison.respond left first = run at *
  obtain ⟨result, after⟩ := run
  obtain rfl : result = .ok value := hvalue
  exact hnext value after rfl (hrest value after rfl)

theorem shows_bind (operation : Operation α) (next : α → Operation γ) (state : σ) :
    comparison.shows (operation >>= next) state =
      comparison.shows operation state ++
        match runOn comparison.respond operation state with
        | (.ok value, after) => comparison.shows (next value) after
        | (.error _, _) => [] := by
  rw [shows, events_bind, List.filterMap_append]
  rcases runOn comparison.respond operation state with ⟨failure | value, after⟩
  · rfl
  · rfl

namespace Mirrors

theorem pure {a : α} {b : β} (hrelated : related a b) (halike : comparison.alike first second) :
    comparison.Mirrors related (Pure.pure a) first (Pure.pure b) second :=
  fun _ _ => ⟨.ok hrelated, halike, rfl⟩

theorem throw (failure : Failure) (halike : comparison.alike first second) :
    comparison.Mirrors related (throw failure) first (throw failure) second :=
  fun _ _ => ⟨.error failure, halike, rfl⟩

theorem ofExcept {a : Except Failure α} {b : Except Failure β} (hends : SameEnd related a b)
    (halike : comparison.alike first second) :
    comparison.Mirrors related (Operation.ofExcept a) first (Operation.ofExcept b) second :=
  fun _ _ => ⟨hends, halike, rfl⟩

theorem imp {weaker : α → β → Prop} (hmirrors : comparison.Mirrors related left first right second)
    (hrelated : ∀ a b, related a b → weaker a b) :
    comparison.Mirrors weaker left first right second := by
  intro hleft hright
  obtain ⟨hends, hrest⟩ := hmirrors hleft hright
  exact ⟨hends.imp hrelated, hrest⟩

theorem bind {next : α → Operation γ} {follow : β → Operation δ}
    (hmirrors : comparison.Mirrors related left first right second)
    (hnext : ∀ a b first second, related a b → comparison.alike first second →
      comparison.Mirrors other (next a) first (follow b) second) :
    comparison.Mirrors other (left >>= next) first (right >>= follow) second := by
  intro hleft hright
  obtain ⟨hleft, hleftNext⟩ := hleft.bind
  obtain ⟨hright, hrightNext⟩ := hright.bind
  obtain ⟨hends, halike, hshows⟩ := hmirrors hleft hright
  simp only [runOn_bind, shows_bind]
  generalize runOn comparison.respond left first = leftRun at *
  generalize runOn comparison.respond right second = rightRun at *
  obtain ⟨leftEnd, first⟩ := leftRun
  obtain ⟨rightEnd, second⟩ := rightRun
  cases hends with
  | error failure => exact ⟨.error failure, halike, congrArg (· ++ []) hshows⟩
  | ok hrelated =>
      obtain ⟨hends, halike, hlater⟩ := hnext _ _ _ _ hrelated halike (hleftNext _ _ rfl)
        (hrightNext _ _ rfl)
      exact ⟨hends, halike, congrArg₂ _ hshows hlater⟩

/-- Runs that begin with one operation on one state part only after it. -/
theorem bind_same {next : α → Operation γ} {follow : α → Operation δ}
    (hfailed : ∀ failure after, runOn comparison.respond left first = (.error failure, after) →
      comparison.alike after after)
    (hnext : ∀ value after, runOn comparison.respond left first = (.ok value, after) →
      comparison.Mirrors other (next value) after (follow value) after) :
    comparison.Mirrors other (left >>= next) first (left >>= follow) first := by
  intro hleft hright
  obtain ⟨-, hleftNext⟩ := hleft.bind
  obtain ⟨-, hrightNext⟩ := hright.bind
  simp only [runOn_bind, shows_bind]
  generalize runOn comparison.respond left first = run at *
  obtain ⟨failure | value, after⟩ := run
  · exact ⟨.error failure, hfailed failure after rfl, rfl⟩
  · obtain ⟨hends, halike, hlater⟩ := hnext value after rfl (hleftNext value after rfl)
      (hrightNext value after rfl)
    exact ⟨hends, halike, congrArg _ hlater⟩

/-- A run may do something more that succeeds and shows nothing. -/
theorem bind_right {aside : Operation δ} {follow : δ → Operation β}
    (hsure : comparison.Sure aside second) (hshows : comparison.shows aside second = [])
    (hnext : ∀ value after, runOn comparison.respond aside second = (.ok value, after) →
      comparison.Mirrors related left first (follow value) after) :
    comparison.Mirrors related left first (aside >>= follow) second := by
  intro hleft hright
  obtain ⟨hright, hrightNext⟩ := hright.bind
  obtain ⟨value, hvalue⟩ := hsure hright
  simp only [runOn_bind, shows_bind, hshows, List.nil_append]
  generalize runOn comparison.respond aside second = run at *
  obtain ⟨result, after⟩ := run
  obtain rfl : result = .ok value := hvalue
  exact hnext value after rfl hleft (hrightNext value after rfl)

theorem discard (hmirrors : comparison.Mirrors related left first right second) :
    comparison.Mirrors (fun _ _ => True) (discard left) first (discard right) second := by
  rw [Functor.discard, LawfulFunctor.map_const, Function.comp, ← bind_pure_comp,
    Functor.discard, LawfulFunctor.map_const, Function.comp, ← bind_pure_comp]
  exact hmirrors.bind fun _ _ _ _ _ halike => pure trivial halike

/-- Lists of operations mirror each other one by one. -/
theorem mapM {next : γ → Operation α} {follow : γ → Operation β}
    (hnext : ∀ item first second, comparison.alike first second →
      comparison.Mirrors related (next item) first (follow item) second) (items : List γ)
    (halike : comparison.alike first second) :
    comparison.Mirrors (List.Forall₂ related) (items.mapM next) first (items.mapM follow)
      second := by
  induction items generalizing first second with
  | nil => exact pure .nil halike
  | cons item rest ih =>
      rw [List.mapM_cons, List.mapM_cons]
      apply (hnext item first second halike).bind
      intro a b first second hrelated halike
      apply (ih halike).bind
      intro as bs first second hothers halike
      exact pure (.cons hrelated hothers) halike

/-- Of what undoes a failure, the ends do not matter. -/
theorem orUndo {undo : Operation γ} {revoke : Operation δ}
    (hmirrors : comparison.Mirrors related left first right second)
    (hundo : ∀ first second, comparison.alike first second →
      comparison.alike (runOn comparison.respond undo first).2
        (runOn comparison.respond revoke second).2)
    (hundoShows : ∀ state, comparison.shows undo state = [])
    (hrevokeShows : ∀ state, comparison.shows revoke state = []) :
    comparison.Mirrors related (Operation.orUndo left undo) first (Operation.orUndo right revoke)
      second := by
  intro hleft hright
  rw [Fine, events_orUndo] at hleft hright
  obtain ⟨hends, halike, hshows⟩ := hmirrors
    (fun event hevent => hleft event (List.mem_append_left _ hevent))
    (fun event hevent => hright event (List.mem_append_left _ hevent))
  rw [shows, shows, events_orUndo, events_orUndo, runOn_orUndo, runOn_orUndo,
    List.filterMap_append, List.filterMap_append]
  rw [shows, shows] at hshows
  generalize runOn comparison.respond left first = leftRun at *
  generalize runOn comparison.respond right second = rightRun at *
  obtain ⟨leftEnd, first⟩ := leftRun
  obtain ⟨rightEnd, second⟩ := rightRun
  cases hends with
  | ok hrelated => exact ⟨.ok hrelated, halike, congrArg (· ++ []) hshows⟩
  | error failure =>
      refine ⟨.error failure, hundo _ _ halike, congrArg₂ _ hshows ?_⟩
      exact (hundoShows first).trans (hrevokeShows second).symm

end Mirrors

end Comparison

end ContainerNetwork
