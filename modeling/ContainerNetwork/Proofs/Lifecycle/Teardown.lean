import ContainerNetwork.Proofs.Host.Obliging
import ContainerNetwork.Proofs.Lifecycle.FailedUp

/-!
# Taking a container down

On an obliging host, taking a container down removes what its handle owns and nothing else: its
endpoint, its ports in the pool and, where the host firewall enforces the rules, all rules of its
name.  So doing it again changes nothing, two containers can be taken down in either order, and
what a container that came up has added is gone.
-/

namespace ContainerNetwork

open Operation

/-! ## What a host holds -/

/-- The endpoints, the firewall rules and the port pool of a host, of which there is none if the
pool file cannot be read. -/
structure Holdings where
  endpoints : Multiset Endpoint
  rules : Multiset FirewallRule
  pool : Option PortPool

/-- The firewall rules without those of a name, where the host firewall enforces them. -/
def Enforcement.rulesWithout (name : String) (rules : Multiset FirewallRule) :
    Enforcement → Multiset FirewallRule
  | .policyEngine => rules
  | .firewall => rules.filter fun rule => rule.name ≠ name

namespace Holdings

/-- The holdings without all that a handle owns. -/
def without (enforcement : Enforcement) (handle : String) (holdings : Holdings) : Holdings where
  endpoints := holdings.endpoints.filter fun endpoint => endpoint.name ≠ handle
  rules := enforcement.rulesWithout handle holdings.rules
  pool := holdings.pool.map (·.release handle)

variable (enforcement : Enforcement) (holdings : Holdings)

theorem without_without (handle : String) :
    (holdings.without enforcement handle).without enforcement handle =
      holdings.without enforcement handle := by
  have hpool (pool : Option PortPool) :
      (pool.map (·.release handle)).map (·.release handle) = pool.map (·.release handle) := by
    rw [Option.map_map]
    exact congrArg (pool.map ·) (funext fun pool => pool.release_release handle)
  cases enforcement with
  | policyEngine => simp [without, Enforcement.rulesWithout, hpool]
  | firewall => simp [without, Enforcement.rulesWithout, hpool]

theorem without_comm (first second : String) :
    (holdings.without enforcement first).without enforcement second =
      (holdings.without enforcement second).without enforcement first := by
  have hpool (pool : Option PortPool) :
      (pool.map (·.release first)).map (·.release second) =
        (pool.map (·.release second)).map (·.release first) := by
    rw [Option.map_map, Option.map_map]
    exact congrArg (pool.map ·) (funext fun pool => pool.release_comm first second)
  cases enforcement with
  | policyEngine =>
      simp only [without, Enforcement.rulesWithout, hpool, Multiset.filter_comm]
  | firewall =>
      simp only [without, Enforcement.rulesWithout, hpool, Multiset.filter_comm]

end Holdings

namespace Store

def holdings (place : FilePlace) (store : Store) : Holdings :=
  ⟨store.endpoints, store.rules, PortPool.standing? place store.files⟩

/-- No two endpoints have the same identifier or the same name. -/
structure Unique (store : Store) : Prop where
  ids : (store.endpoints.map (·.id)).Nodup
  names : (store.endpoints.map (·.name)).Nodup

variable {place : FilePlace} {enforcement : Enforcement} {handle id : String}
variable {before now after : Store}

/-- Among unique endpoints, one is told from the others by its identifier or by its name. -/
theorem Unique.filter_id (hunique : before.Unique) {endpoint : Endpoint}
    (hmem : endpoint ∈ before.endpoints) :
    (before.endpoints.filter fun stored => stored.id ≠ endpoint.id) =
      before.endpoints.filter fun stored => stored.name ≠ endpoint.name := by
  apply Multiset.filter_congr
  intro stored hstored
  apply not_congr
  constructor
  · intro hid
    rw [Multiset.inj_on_of_nodup_map hunique.ids stored hstored endpoint hmem hid]
  · intro hname
    rw [Multiset.inj_on_of_nodup_map hunique.names stored hstored endpoint hmem hname]

theorem Unique.of_le (hunique : before.Unique) (hle : after.endpoints ≤ before.endpoints) :
    after.Unique where
  ids := Multiset.nodup_of_le (Multiset.map_le_map hle) hunique.ids
  names := Multiset.nodup_of_le (Multiset.map_le_map hle) hunique.names

/-- A container that came up has an endpoint that no other is taken for. -/
theorem Residue.unique (hresidue : Residue place enforcement handle id before after)
    (hfree : Free place handle before) (hunique : before.Unique) : after.Unique := by
  obtain ⟨own, hid, hname, hendpoints⟩ := hresidue.endpoint
  constructor
  · rw [hendpoints, Multiset.map_cons, Multiset.nodup_cons]
    refine ⟨fun hmem => ?_, hunique.ids⟩
    obtain ⟨stored, hstored, hsame⟩ := Multiset.mem_map.mp hmem
    exact hresidue.fresh stored hstored (hsame.trans hid)
  · rw [hendpoints, Multiset.map_cons, Multiset.nodup_cons]
    refine ⟨fun hmem => ?_, hunique.names⟩
    obtain ⟨stored, hstored, hsame⟩ := Multiset.mem_map.mp hmem
    exact hfree.endpoints stored hstored (hsame.trans hname)

/-- An endpoint that was changed in place goes like the one it was. -/
theorem Touches.filter_id (htouches : Touches place id before after) :
    (after.endpoints.filter fun endpoint => endpoint.id ≠ id) =
      before.endpoints.filter fun endpoint => endpoint.id ≠ id := by
  have hdrop {endpoint : Endpoint} (hid : endpoint.id = id) (others : Multiset Endpoint) :
      ((endpoint ::ₘ others).filter fun endpoint => endpoint.id ≠ id) =
        others.filter fun endpoint => endpoint.id ≠ id := by
    rw [Multiset.filter_cons_of_neg]
    exact not_not.mpr hid
  rcases htouches.endpoints with hsame | ⟨old, hmem, hold, changed, hid, _, hchanged⟩
  · rw [hsame]
  · calc
      _ = (changed ::ₘ before.endpoints.erase old).filter fun endpoint => endpoint.id ≠ id := by
        rw [hchanged]
      _ = (old ::ₘ before.endpoints.erase old).filter fun endpoint => endpoint.id ≠ id := by
        rw [hdrop hid, hdrop hold]
      _ = before.endpoints.filter fun endpoint => endpoint.id ≠ id := by
        rw [Multiset.cons_erase hmem]

/-- What a container has added to a store is all that its handle owns there. -/
theorem Residue.restored (hresidue : Residue place enforcement handle id before now)
    (hfree : Free place handle before) {pool : PortPool}
    (hpool : PortPool.standing? place now.files = some pool)
    (hholdings : after.holdings place = (now.holdings place).without enforcement handle) :
    Restored place before after where
  endpoints := by
    obtain ⟨own, _, hname, hendpoints⟩ := hresidue.endpoint
    calc
      after.endpoints = now.endpoints.filter fun endpoint => endpoint.name ≠ handle :=
        congrArg Holdings.endpoints hholdings
      _ = before.endpoints.filter fun endpoint => endpoint.name ≠ handle := by
        rw [hendpoints, Multiset.filter_cons_of_neg]
        exact not_not.mpr hname
      _ = before.endpoints := Multiset.filter_eq_self.mpr hfree.endpoints
  handleRules := by
    have hrules : after.rules = enforcement.rulesWithout handle now.rules :=
      congrArg Holdings.rules hholdings
    rw [handleRules, hrules]
    cases enforcement with
    | policyEngine =>
        obtain ⟨_, _, hnone, hadded⟩ := hresidue.rules
        rw [hnone rfl, Multiset.zero_add] at hadded
        exact hadded
    | firewall => exact hresidue.rules.deleteRule hfree
  pool := by
    have hafter : PortPool.standing? place after.files =
        (PortPool.standing? place now.files).map (·.release handle) :=
      congrArg Holdings.pool hholdings
    rw [hafter, hpool, Option.map_some]
    exact (hresidue.ports.release hfree.ports hpool).symm

end Store

/-! ## Runs of the way down -/

section Runs

variable {σ : Type} (respond : (call : Call) → σ → call.Answer × σ)

/-- The endpoint is looked for by its name; if there is one, it is detached and then deleted. -/
theorem EndpointLifecycle.delete_runOn (handle : String) (state : σ) :
    runOn respond (delete handle) state =
      match respond (.endpointByName handle) state with
      | (.error (.endpointNotFound _), looked) => (.ok (), looked)
      | (.error fault, looked) => (.error (.host fault), looked)
      | (.ok endpoint, looked) =>
          let detached := respond (.detachEndpoint handle endpoint.id) looked
          let deleted := respond (.deleteEndpoint endpoint) detached.2
          (Failure.combine (.ofResults
            [detachment (detached.1.mapError .host), deleted.1.mapError .host]), deleted.2) := by
  simp only [delete, runOn_bind, runOn_result, runOn_host, Plan.call, Program.run]
  rcases respond (.endpointByName handle) state with ⟨fault | endpoint, looked⟩
  · cases fault with
    | endpointNotFound key => rfl
    | _ => rfl
  · rfl

theorem Enforcement.withdraw_runOn (enforcement : Enforcement) (handle : String) (state : σ) :
    runOn respond (enforcement.withdraw handle) state =
      let released := respond (.releaseAllPorts handle) state
      match enforcement with
      | .policyEngine => released
      | .firewall =>
          let deleted := respond (.deleteRule handle) released.2
          (Failure.combine (.ofResults [released.1, deleted.1.mapError .host]), deleted.2) := by
  cases enforcement with
  | policyEngine => rfl
  | firewall =>
      simp only [withdraw, Firewall.withdraw, runOn_bind, runOn_result, runOn_host, runOn_pool,
        Plan.call, Program.run]
      rfl

/-- The endpoint is deleted and then the rules are withdrawn, whether that fails or not. -/
theorem ContainerLifecycle.down_runOn (settings : Settings) (handle : Handle) (state : σ) :
    runOn respond (down settings handle) state =
      let deleted := runOn respond (EndpointLifecycle.delete handle.text) state
      let withdrawn := runOn respond (settings.enforcement.withdraw handle.text) deleted.2
      (Failure.combine (.ofResults [deleted.1, withdrawn.1]), withdrawn.2) := by
  simp only [down, runOn_bind, runOn_result]
  rfl

end Runs

/-! ## Obliging hosts -/

namespace Obliging

variable {σ : Type} {place : FilePlace} {range : ManagedRange}
variable {respond : (call : Call) → σ → call.Answer × σ} {store : σ → Store} {sound : σ → Prop}
variable {state : σ}

/-- An endpoint that is detached and deleted is gone, however detaching ends. -/
theorem detach_delete (hobliging : Obliging place range respond store sound) (hsound : sound state)
    (handle : String) (endpoint : Endpoint) :
    let detached := respond (.detachEndpoint handle endpoint.id) state
    let deleted := respond (.deleteEndpoint endpoint) detached.2
    Failure.combine (.ofResults
        [EndpointLifecycle.detachment (detached.1.mapError .host), deleted.1.mapError .host]) =
      .ok () ∧ sound deleted.2 ∧
      (store deleted.2).endpoints =
        (store state).endpoints.filter (fun stored => stored.id ≠ endpoint.id) ∧
      (store deleted.2).rules = (store state).rules ∧
      PortPool.SameFile place (store deleted.2).files (store state).files := by
  intro detached deleted
  have htouches : Store.Touches place endpoint.id (store state) (store detached.2) :=
    (hobliging.admits (.detachEndpoint handle endpoint.id) state hsound).joins rfl
  have hdetached : (store detached.2).rules = (store state).rules :=
    hobliging.rules (.detachEndpoint handle endpoint.id) state trivial hsound
  have hbetween : sound detached.2 :=
    hobliging.sound_respond (.detachEndpoint handle endpoint.id) state hsound
  have hdeletion : deleted.1 = .ok () := hobliging.deleteEndpoint endpoint detached.2 hbetween
  have hdeleted : (store deleted.2).rules = (store detached.2).rules :=
    hobliging.rules (.deleteEndpoint endpoint) detached.2 trivial hbetween
  have hadmits := hobliging.admits (.deleteEndpoint endpoint) detached.2 hbetween
  rw [show (respond (.deleteEndpoint endpoint) detached.2).1 = .ok () from hdeletion] at hadmits
  have hdeletes : Store.Agrees place (store deleted.2) _ := hadmits
  refine ⟨?_, hobliging.sound_respond _ _ hbetween, ?_, hdeleted.trans hdetached, ?_⟩
  · have hdetachment : EndpointLifecycle.detachment (detached.1.mapError .host) = .ok () := by
      rcases hobliging.detachEndpoint handle endpoint.id state hsound with hok | hgone
      · rw [show detached.1 = .ok () from hok]
        rfl
      · rw [show detached.1 = .error .computeSystemDoesNotExist from hgone]
        rfl
    rw [hdetachment, hdeletion]
    rfl
  · exact hdeletes.endpoints.trans htouches.filter_id
  · intro path hplace
    exact (hdeletes.files path hplace).trans (htouches.files path hplace)

/-- Deleting the endpoint of a handle deletes the endpoint of that name, if there is one. -/
theorem delete_runOn (hobliging : Obliging place range respond store sound) (hsound : sound state)
    (hunique : (store state).Unique) (handle : String) :
    let run := runOn respond (EndpointLifecycle.delete handle) state
    run.1 = .ok () ∧ sound run.2 ∧
      (store run.2).endpoints =
        (store state).endpoints.filter (fun endpoint => endpoint.name ≠ handle) ∧
      (store run.2).rules = (store state).rules ∧
      PortPool.SameFile place (store run.2).files (store state).files := by
  rw [EndpointLifecycle.delete_runOn]
  have hlookup := hobliging.endpointByName handle state hsound
  have hlooked := hobliging.admits (.endpointByName handle) state hsound
  have hrules := hobliging.rules (.endpointByName handle) state trivial hsound
  have hsound := hobliging.sound_respond (.endpointByName handle) state hsound
  generalize respond (.endpointByName handle) state = looking at *
  obtain ⟨answer, looked⟩ := looking
  rcases hlookup with ⟨endpoint, rfl⟩ | ⟨⟨key, rfl⟩, hnone⟩
  · obtain ⟨hmem, hname, hsame⟩ := hlooked
    obtain ⟨hresult, hsound, hendpoints, hkept, hfiles⟩ :=
      hobliging.detach_delete hsound handle endpoint
    refine ⟨hresult, hsound, ?_, hkept.trans hrules, ?_⟩
    · calc
        _ = (store looked).endpoints.filter fun stored => stored.id ≠ endpoint.id := hendpoints
        _ = (store state).endpoints.filter fun stored => stored.id ≠ endpoint.id := by
          rw [hsame.endpoints]
        _ = (store state).endpoints.filter fun stored => stored.name ≠ handle := by
          rw [hunique.filter_id hmem, hname]
    · intro path hplace
      exact (hfiles path hplace).trans (hsame.files path hplace)
  · have hsame : Store.Agrees place (store looked) (store state) := hlooked
    refine ⟨rfl, hsound, ?_, hrules, hsame.files⟩
    rw [Multiset.filter_eq_self.mpr hnone]
    exact hsame.endpoints

/-- The pool of an obliging host can be read. -/
theorem standing? (hobliging : Obliging place range respond store sound) (hsound : sound state)
    (handle : String) :
    ∃ pool, PortPool.standing? place (store state).files = some pool ∧
      PortPool.standing? place (store (respond (.releaseAllPorts handle) state).2).files =
        some (pool.release handle) := by
  have huses := (hobliging.admits (.releaseAllPorts handle) state hsound).files
  rw [hobliging.releaseAllPorts handle state hsound] at huses
  rcases huses with ⟨⟨_, hfailed⟩, _⟩ | ⟨tree, changed, htree, hrun, hafter⟩
  · cases hfailed
  · rcases PortPool.releaseAll_runOn hrun with ⟨pool, _, hpool, hchanged⟩ | ⟨⟨_, hfailed⟩, _⟩
    · exact ⟨pool, htree.standing? ▸ hpool, hafter.standing?.trans hchanged⟩
    · cases hfailed

/-- Withdrawing the rules of a handle releases its ports and, where the host firewall enforces
them, deletes all rules of its name. -/
theorem withdraw_runOn (hobliging : Obliging place range respond store sound) (hsound : sound state)
    (enforcement : Enforcement) (handle : String) :
    let run := runOn respond (enforcement.withdraw handle) state
    run.1 = .ok () ∧ sound run.2 ∧ (store run.2).endpoints = (store state).endpoints ∧
      (store run.2).rules = enforcement.rulesWithout handle (store state).rules ∧
      PortPool.standing? place (store run.2).files =
        (PortPool.standing? place (store state).files).map (·.release handle) := by
  rw [Enforcement.withdraw_runOn]
  obtain ⟨pool, hstood, hstands⟩ := hobliging.standing? hsound handle
  have hrelease := hobliging.releaseAllPorts handle state hsound
  have huses := hobliging.admits (.releaseAllPorts handle) state hsound
  have hrules := hobliging.rules (.releaseAllPorts handle) state trivial hsound
  have hsound := hobliging.sound_respond (.releaseAllPorts handle) state hsound
  rw [hstood, Option.map_some]
  generalize respond (.releaseAllPorts handle) state = releasing at *
  obtain ⟨release, released⟩ := releasing
  obtain rfl : release = .ok () := hrelease
  cases enforcement with
  | policyEngine => exact ⟨rfl, hsound, huses.endpoints, hrules, hstands⟩
  | firewall =>
      dsimp only
      have hdeletion := hobliging.deleteRule handle released hsound
      have hadmits := hobliging.admits (.deleteRule handle) released hsound
      have hdeleted := hobliging.rules (.deleteRule handle) released trivial hsound
      have hsound := hobliging.sound_respond (.deleteRule handle) released hsound
      generalize respond (.deleteRule handle) released = deleting at *
      obtain ⟨deletion, deleted⟩ := deleting
      obtain rfl : deletion = .ok () := hdeletion
      have hdeletes : Store.Agrees place (store deleted) _ := hadmits
      refine ⟨rfl, hsound, hdeletes.endpoints.trans huses.endpoints, ?_, ?_⟩
      · exact hdeleted.trans (congrArg _ hrules)
      · exact hdeletes.files.standing?.trans hstands

/-- Taking a container down removes what its handle owns, and nothing else. -/
theorem down_runOn (hobliging : Obliging place range respond store sound) (hsound : sound state)
    (hunique : (store state).Unique) (settings : Settings) (handle : Handle) :
    let run := runOn respond (ContainerLifecycle.down settings handle) state
    run.1 = .ok () ∧ sound run.2 ∧ (store run.2).Unique ∧
      (store run.2).holdings place =
        ((store state).holdings place).without settings.enforcement handle.text := by
  rw [ContainerLifecycle.down_runOn]
  obtain ⟨hresult, hafter, hendpoints, hrules, hfiles⟩ :=
    hobliging.delete_runOn hsound hunique handle.text
  generalize runOn respond (EndpointLifecycle.delete handle.text) state = deleting at *
  obtain ⟨deletion, deleted⟩ := deleting
  obtain rfl : deletion = .ok () := hresult
  dsimp only at *
  obtain ⟨hresult, hlast, hkept, hwithout, hpool⟩ :=
    hobliging.withdraw_runOn hafter settings.enforcement handle.text
  generalize runOn respond (settings.enforcement.withdraw handle.text) deleted = withdrawing at *
  obtain ⟨withdrawal, withdrawn⟩ := withdrawing
  obtain rfl : withdrawal = .ok () := hresult
  have hleft := hkept.trans hendpoints
  refine ⟨rfl, hlast, hunique.of_le (hleft ▸ Multiset.filter_le _ _), ?_⟩
  rw [Store.holdings, Holdings.without, hleft, hwithout, hrules, hpool, hfiles.standing?]
  rfl

/-- Whatever is taken back while an endpoint is created, is taken back with success. -/
theorem create_takesBack (hobliging : Obliging place range respond store sound)
    (hsound : sound state) (settings : Settings) (handle : String) :
    ∀ event ∈ events respond (EndpointLifecycle.create settings handle) state,
      event.TakesBack handle := by
  have hmakes : Makes (fun call => call.kind ≠ .endpointByName)
      (EndpointLifecycle.create settings handle) := by
    refine EndpointLifecycle.create_makes settings (fun _ => nofun) (fun _ _ => nofun) ?_
      fun _ => nofun
    intro id call hattaches
    exact ne_of_mem_of_not_mem hattaches.kind_mem (by decide)
  refine hmakes.forall_mem_events hobliging.sound_respond ?_ hsound
  intro call state hkind hsound
  cases call with
  | endpointByName name => exact absurd rfl hkind
  | deleteEndpoint endpoint =>
      exact isOk_iff.mpr ⟨(), hobliging.deleteEndpoint endpoint state hsound⟩
  | releaseAllPorts holder => exact isOk_iff.mpr ⟨(), hobliging.releaseAllPorts holder state hsound⟩
  | deleteRule name =>
      exact fun _ => isOk_iff.mpr ⟨(), hobliging.deleteRule name state hsound⟩
  | _ => trivial

/-- A container that came up has added to the store what a container may add. -/
theorem up_residue (hobliging : Obliging place range respond store sound) (hsound : sound state)
    {settings : Settings} {handle : Handle} {request : Request} {report : Report}
    (hup : (runOn respond (ContainerLifecycle.up settings handle request) state).1 = .ok report) :
    let run := runOn respond (ContainerLifecycle.up settings handle request) state
    sound run.2 ∧
      ∃ id, (store state).Residue place settings.enforcement handle.text id (store run.2) := by
  rw [ContainerLifecycle.up_eq] at hup ⊢
  split at hup
  · cases hup
  · rename_i hfew
    simp only [if_neg hfew, runOn_bind] at hup ⊢
    obtain ⟨hsound, hsettles⟩ := EndpointLifecycle.create_settles hobliging.toFaithful handle.valid
      hsound (hobliging.create_takesBack hsound settings handle.text)
    generalize runOn respond (EndpointLifecycle.create settings handle.text) state = creating at *
    obtain ⟨failure | endpoint, after⟩ := creating
    · cases hup
    · obtain ⟨hname, hresidue⟩ := hsettles
      simp only [runOn_orUndo] at hup ⊢
      have hbuilds := (ContainerLifecycle.install_makes settings handle.text request endpoint).mono
        fun _ => Call.Installs.builds rfl hname
      obtain ⟨hsound, hresidue⟩ :=
        hobliging.toFaithful.residue_runOn handle.valid hbuilds hsound hresidue
      generalize runOn respond (ContainerLifecycle.install settings handle.text request endpoint)
        after = installing at *
      obtain ⟨failure | report, last⟩ := installing
      · cases hup
      · exact ⟨hsound, endpoint.id, hresidue⟩

/-- Taking a container down that came up leaves what was there before. -/
theorem down_restores (hobliging : Obliging place range respond store sound) (hsound : sound state)
    (hunique : (store state).Unique) {settings : Settings} {handle : Handle} {request : Request}
    {report : Report} (hfree : (store state).Free place handle.text)
    (hup : (runOn respond (ContainerLifecycle.up settings handle request) state).1 = .ok report) :
    let brought := (runOn respond (ContainerLifecycle.up settings handle request) state).2
    let run := runOn respond (ContainerLifecycle.down settings handle) brought
    run.1 = .ok () ∧ (store state).Restored place (store run.2) := by
  intro brought run
  obtain ⟨hsound, id, hresidue⟩ := hobliging.up_residue hsound hup
  obtain ⟨hresult, _, _, hholdings⟩ :=
    hobliging.down_runOn hsound (hresidue.unique hfree hunique) settings handle
  obtain ⟨pool, hpool, _⟩ := hobliging.standing? hsound handle.text
  exact ⟨hresult, hresidue.restored hfree hpool hholdings⟩

end Obliging

namespace ContainerLifecycle

variable {σ : Type} {place : FilePlace} {range : ManagedRange}
variable {respond : (call : Call) → σ → call.Answer × σ} {store : σ → Store} {sound : σ → Prop}
variable {state : σ}

/-- On an obliging host whose endpoints are told apart by their identifiers and by their names,
taking a container down succeeds and removes exactly what its handle owns.  Doing it twice is doing
it once, two containers can be taken down in either order, and taking down a container that came up
leaves what was there before. -/
theorem down_projects (hobliging : Obliging place range respond store sound) (settings : Settings)
    (first second : Handle) (request : Request) (hsound : sound state)
    (hunique : (store state).Unique) :
    let taken (handle : Handle) (state : σ) := runOn respond (down settings handle) state
    let held (state : σ) := (store state).holdings place
    ((taken first state).1 = .ok () ∧
        held (taken first state).2 = (held state).without settings.enforcement first.text) ∧
      ((taken first (taken first state).2).1 = .ok () ∧
        held (taken first (taken first state).2).2 = held (taken first state).2) ∧
      ((taken second (taken first state).2).1 = .ok () ∧
        (taken first (taken second state).2).1 = .ok () ∧
        held (taken second (taken first state).2).2 =
          held (taken first (taken second state).2).2) ∧
      ((store state).Free place first.text →
        ∀ report, (runOn respond (up settings first request) state).1 = .ok report →
          let brought := (runOn respond (up settings first request) state).2
          (taken first brought).1 = .ok () ∧
            (store state).Restored place (store (taken first brought).2)) := by
  intro taken held
  have hdown {state : σ} (hsound : sound state) (hunique : (store state).Unique) (handle : Handle) :
      (taken handle state).1 = .ok () ∧ sound (taken handle state).2 ∧
        (store (taken handle state).2).Unique ∧
        held (taken handle state).2 = (held state).without settings.enforcement handle.text :=
    hobliging.down_runOn hsound hunique settings handle
  obtain ⟨hfirst, hsoundFirst, huniqueFirst, hheldFirst⟩ := hdown hsound hunique first
  obtain ⟨_, hsoundSecond, huniqueSecond, hheldSecond⟩ := hdown hsound hunique second
  obtain ⟨htwice, _, _, hheldTwice⟩ := hdown hsoundFirst huniqueFirst first
  obtain ⟨hthen, _, _, hheldThen⟩ := hdown hsoundFirst huniqueFirst second
  obtain ⟨hother, _, _, hheldOther⟩ := hdown hsoundSecond huniqueSecond first
  refine ⟨⟨hfirst, hheldFirst⟩, ⟨htwice, ?_⟩, ⟨hthen, hother, ?_⟩, ?_⟩
  · rw [hheldTwice, hheldFirst, Holdings.without_without]
  · rw [hheldThen, hheldFirst, hheldOther, hheldSecond, Holdings.without_comm]
  · intro hfree report hup
    exact hobliging.down_restores hsound hunique hfree hup

/-- A host that keeps an endpoint, a rule and a port for a container. -/
def occupiedHost : SimulatedHost :=
  { SimulatedHost.ready with
    endpoints := [{ id := "ep-1", name := "old" }]
    createdEndpoints := 1
    rules := [.allowing "old" .inbound 6]
    files := ⟨[(["ports.json"],
      .file "\x7b\"acquired_ports\":\x7b\"old\":[61000]\x7d\x7d".toUTF8)]⟩ }

/-- A second container comes and goes, before or after the first one goes. -/
theorem down_projects_of_occupied :
    let respond := SimulatedHost.respond ⟨61000, 10⟩
    let request : Request := { inbound := [⟨0, 8080⟩], outbound := [{}] }
    let new : Handle := ⟨"new", by decide⟩
    let old : Handle := ⟨"old", by decide⟩
    let brought := runOn respond (up {} new request) occupiedHost
    let taken (handle : Handle) (host : SimulatedHost) := (runOn respond (down {} handle) host).2
    Except.isOk brought.1 ∧
      occupiedHost.store.Restored SimulatedHost.poolPlace (taken new brought.2).store ∧
      (taken old (taken new occupiedHost)).store.holdings SimulatedHost.poolPlace =
        (taken new (taken old occupiedHost)).store.holdings SimulatedHost.poolPlace := by
  intro respond request new old brought taken
  let pool : PortPool := .ofGroups (.ofList [("old", [61000])])
  have hholds : PortPool.Holds (occupiedHost.files.find? ["ports.json"]) pool :=
    .written (by decide +kernel) (by decide +kernel)
  have htidy : SimulatedHost.Tidy occupiedHost := by
    refine ⟨fun endpoint hmem => ?_, rfl, pool, _, rfl, ⟨_, rfl, hholds⟩, _, rfl⟩
    obtain rfl := List.mem_singleton.mp hmem
    exact ⟨1, Nat.le_refl _, rfl⟩
  have hunique : occupiedHost.store.Unique :=
    ⟨Multiset.nodup_singleton _, Multiset.nodup_singleton _⟩
  have hfree : occupiedHost.store.Free SimulatedHost.poolPlace new.text := by
    refine ⟨fun endpoint hmem => ?_, fun rule hmem => ?_, fun port hport => ?_⟩
    · obtain rfl := List.mem_singleton.mp hmem
      decide
    · obtain rfl := List.mem_singleton.mp (Multiset.mem_coe.mp (Multiset.mem_of_mem_filter hmem))
      decide
    · have hstanding : PortPool.standing? SimulatedHost.poolPlace occupiedHost.files = some pool :=
        (PortPool.standing?_eq rfl _).trans (PortPool.holds_iff.mp hholds)
      have hnone : ∀ binding ∈ pool.holders.entries, binding.2 ≠ "new" := by decide +kernel
      rw [PortPool.reservedFor?, show occupiedHost.store.files = occupiedHost.files from rfl,
        hstanding] at hport
      exact hnone _ (SortedMap.get?_eq_some_iff.mp hport) rfl
  have hup : Except.isOk brought.1 := by decide +kernel
  obtain ⟨report, hreport⟩ := isOk_iff.mp hup
  obtain ⟨_, _, ⟨_, _, hcomm⟩, hrestores⟩ := down_projects (SimulatedHost.obliging ⟨61000, 10⟩) {}
    new old request htidy hunique
  exact ⟨hup, (hrestores hfree report hreport).2, hcomm⟩

end ContainerLifecycle

end ContainerNetwork
