import ContainerNetwork.Proofs.Lifecycle.FailedUp
import ContainerNetwork.Proofs.Traces

/-!
# Creating an endpoint

All that creating an endpoint may come to, whatever the host answers.  The endpoint is asked for at
most three times.  Once the host has made it, it is attached, and where a step of that fails, it is
deleted again: no run leaves an endpoint behind that is not attached.
-/

namespace ContainerNetwork

open Operation

/-- Time that has passed. -/
def Event.slept (milliseconds : Nat) : Event := ⟨.sleep milliseconds, ()⟩

namespace EndpointLifecycle

/-! ## What each loop may come to -/

/-- Tries to create an endpoint of which the host has failed all in passing, but for the last. -/
def tries (asked : Endpoint) (passed : Nat) (last : Except HostFault Endpoint) : List Event :=
  List.replicate passed ⟨.createEndpoint asked, .error .unspecified⟩ ++
    [⟨.createEndpoint asked, last⟩]

/-- Creating an endpoint is tried again only where the host failed in passing, and then always,
unless it was tried often enough. -/
inductive Tried (asked : Endpoint) (attempts : Nat) : List Event → Except Failure Endpoint → Prop
  | created (passed : Nat) {created : Endpoint} (hpassed : passed < attempts) :
      Tried asked attempts (tries asked passed (.ok created)) (.ok created)
  | refused (passed : Nat) {fault : HostFault} (hpassed : passed < attempts)
      (hfault : fault = .unspecified → passed + 1 = attempts) :
      Tried asked attempts (tries asked passed (.error fault)) (.error (.host fault))

/-- Looks for an adapter that does not show. -/
def misses (adapter : String) (count : Nat) : List Event :=
  (List.replicate count [⟨.adapterExists adapter, .ok false⟩, .slept 200]).flatten

/-- An adapter is looked for until it shows, a look fails or it was looked for often enough. -/
inductive Awaited (adapter : String) (probes : Nat) : List Event → Except Failure Unit → Prop
  | found (missed : Nat) (hmissed : missed < probes) :
      Awaited adapter probes (misses adapter missed ++ [⟨.adapterExists adapter, .ok true⟩])
        (.ok ())
  | failed (missed : Nat) {fault : HostFault} (hmissed : missed < probes) :
      Awaited adapter probes (misses adapter missed ++ [⟨.adapterExists adapter, .error fault⟩])
        (.error (.host fault))
  | missing :
      Awaited adapter probes (misses adapter probes) (.error (.interfaceNotReady adapter))

/-- Looks for a rule that is not made yet, each after a longer wait. -/
def unseen (rule : String) (wait count : Nat) : List Event :=
  (List.range count).flatMap fun lookup =>
    [.slept (wait + 200 * lookup), ⟨.ruleExists rule, .ok false⟩]

/-- A rule is looked for until it shows, a look fails or it was looked for often enough; once it
shows it is deleted. -/
inductive Sought (rule : String) (wait lookups : Nat) : List Event → Except Failure Unit → Prop
  | found (missed : Nat) {deleted : Except HostFault Unit} (hmissed : missed < lookups) :
      Sought rule wait lookups
        (unseen rule wait missed ++ [.slept (wait + 200 * missed),
          ⟨.ruleExists rule, .ok true⟩, ⟨.deleteRule rule, deleted⟩])
        (deleted.mapError .host)
  | failed (missed : Nat) {fault : HostFault} (hmissed : missed < lookups) :
      Sought rule wait lookups
        (unseen rule wait missed ++ [.slept (wait + 200 * missed),
          ⟨.ruleExists rule, .error fault⟩])
        (.error (.host fault))
  | missing :
      Sought rule wait lookups (unseen rule wait lookups) (.error (.firewallRuleNotGenerated rule))

/-- Where the host firewall enforces the rules, an attached endpoint needs a usable port, and the
rule that the host makes for it is looked for at most three times. -/
inductive Closing (attached : Endpoint) : Enforcement → List Event → Except Failure Unit → Prop
  | unneeded : Closing attached .policyEngine [] (.ok ())
  | unusable (hport : attached.port? = none) :
      Closing attached .firewall []
        (.error (.invalidEndpointAllocators attached.id attached.resources.allocators))
  | sought {allocator : Allocator} {looks : List Event} {result : Except Failure Unit}
      (hport : attached.port? = some allocator)
      (hsought : Sought ("Compartment " ++ Decimal.text allocator.compartment.toNat ++ " - " ++
        allocator.portGuid) 0 3 looks result) :
      Closing attached .firewall looks result

/-- The steps of attaching a created endpoint, of which the first to fail is the last. -/
inductive Joining (enforcement : Enforcement) (container : String) (created : Endpoint) :
    List Event → Except Failure Endpoint → Prop
  | refused {fault : HostFault} :
      Joining enforcement container created
        [⟨.attachEndpoint container created.id, .error fault⟩] (.error (.host fault))
  | unready {looks : List Event} {failure : Failure}
      (hawaited : Awaited ("vEthernet (" ++ container ++ ")") 10 looks (.error failure)) :
      Joining enforcement container created
        (⟨.attachEndpoint container created.id, .ok ()⟩ :: looks) (.error failure)
  | lost {looks : List Event} {fault : HostFault}
      (hawaited : Awaited ("vEthernet (" ++ container ++ ")") 10 looks (.ok ())) :
      Joining enforcement container created
        (⟨.attachEndpoint container created.id, .ok ()⟩ ::
          (looks ++ [⟨.endpointById created.id, .error fault⟩]))
        (.error (.host fault))
  | unclosed {looks closing : List Event} {attached : Endpoint} {failure : Failure}
      (hawaited : Awaited ("vEthernet (" ++ container ++ ")") 10 looks (.ok ()))
      (hclosing : Closing attached enforcement closing (.error failure)) :
      Joining enforcement container created
        (⟨.attachEndpoint container created.id, .ok ()⟩ ::
          (looks ++ ⟨.endpointById created.id, .ok attached⟩ :: closing))
        (.error failure)
  | joined {looks closing : List Event} {attached : Endpoint}
      (hawaited : Awaited ("vEthernet (" ++ container ++ ")") 10 looks (.ok ()))
      (hclosing : Closing attached enforcement closing (.ok ())) :
      Joining enforcement container created
        (⟨.attachEndpoint container created.id, .ok ()⟩ ::
          (looks ++ ⟨.endpointById created.id, .ok attached⟩ :: closing))
        (.ok attached)

/-- All that creating an endpoint may come to. -/
inductive Creation (settings : Settings) (container : String) :
    List Event → Except Failure Endpoint → Prop
  | unlocated {fault : HostFault} :
      Creation settings container [⟨.networkByName settings.networkName, .error fault⟩]
        (.error (.host fault))
  | uncreated {network : Network} {tried : List Event} {failure : Failure}
      (htried : Tried (descriptor settings container network.id) 3 tried (.error failure)) :
      Creation settings container (⟨.networkByName settings.networkName, .ok network⟩ :: tried)
        (.error failure)
  | attached {network : Network} {tried steps : List Event} {created attached : Endpoint}
      (htried : Tried (descriptor settings container network.id) 3 tried (.ok created))
      (hjoining : Joining settings.enforcement container created steps (.ok attached)) :
      Creation settings container
        (⟨.networkByName settings.networkName, .ok network⟩ :: (tried ++ steps)) (.ok attached)
  | undone {network : Network} {tried steps : List Event} {created : Endpoint} {failure : Failure}
      {deleted : Except HostFault Unit}
      (htried : Tried (descriptor settings container network.id) 3 tried (.ok created))
      (hjoining : Joining settings.enforcement container created steps (.error failure)) :
      Creation settings container
        (⟨.networkByName settings.networkName, .ok network⟩ ::
          (tried ++ (steps ++ [⟨.deleteEndpoint created, deleted⟩])))
        (.error failure)

/-! ## Runs -/

theorem Tried.again {asked : Endpoint} {attempts : Nat} {log : List Event}
    {result : Except Failure Endpoint} (htried : Tried asked attempts log result) :
    Tried asked (attempts + 1) (⟨.createEndpoint asked, .error .unspecified⟩ :: log) result := by
  cases htried with
  | created passed hpassed => exact .created (passed + 1) (Nat.succ_lt_succ hpassed)
  | refused passed hpassed hfault =>
      apply Tried.refused (passed + 1) (Nat.succ_lt_succ hpassed)
      intro hunspecified
      rw [hfault hunspecified]

theorem createRetrying_traces (asked : Endpoint) (retries : Nat) :
    Traces (Tried asked (retries + 1)) (createRetrying asked retries) := by
  induction retries with
  | zero =>
      apply Traces.host (Plan.traces_call (.createEndpoint asked))
      rintro _ answer rfl
      cases answer with
      | ok created => exact .created 0 Nat.one_pos
      | error fault => exact .refused 0 Nat.one_pos fun _ => rfl
  | succ retries ih =>
      have hcreate : Traces (fun log result => ∃ answer : Except HostFault Endpoint,
          log = [⟨.createEndpoint asked, answer⟩] ∧ result = answer.mapError .host)
          (host (.call (.createEndpoint asked))) :=
        .host (Plan.traces_call (.createEndpoint asked)) fun _ answer hlog => ⟨answer, hlog, rfl⟩
      apply hcreate.result_bind
      rintro _ _ ⟨answer, rfl, rfl⟩
      cases answer with
      | ok created => exact .pure (.created 0 (Nat.succ_pos _))
      | error fault =>
          cases fault with
          | unspecified => exact ih.imp fun log result htried => htried.again
          | _ => exact .throw (.refused 0 (Nat.succ_pos _) nofun)

theorem Awaited.again {adapter : String} {probes : Nat} {log : List Event}
    {result : Except Failure Unit} (hawaited : Awaited adapter probes log result) :
    Awaited adapter (probes + 1) (⟨.adapterExists adapter, .ok false⟩ :: .slept 200 :: log)
      result := by
  cases hawaited with
  | found missed hmissed => exact .found (missed + 1) (Nat.succ_lt_succ hmissed)
  | failed missed hmissed => exact .failed (missed + 1) (Nat.succ_lt_succ hmissed)
  | missing => exact .missing

theorem awaitAdapter_traces (adapter : String) (probes : Nat) :
    Traces (Awaited adapter probes) (awaitAdapter adapter probes) := by
  induction probes with
  | zero => exact .throw .missing
  | succ probes ih =>
      apply Traces.host_bind (Plan.traces_call (.adapterExists adapter))
      · rintro _ fault rfl
        exact .failed 0 (Nat.succ_pos _)
      · rintro _ found rfl
        cases found with
        | true => exact .pure (.found 0 (Nat.succ_pos _))
        | false =>
            apply Traces.sleep_bind
            exact ih.imp fun log result hawaited => hawaited.again

theorem unseen_succ (rule : String) (wait count : Nat) :
    unseen rule wait (count + 1) =
      .slept wait :: ⟨.ruleExists rule, .ok false⟩ :: unseen rule (wait + 200) count := by
  have hwait (lookup : Nat) : wait + 200 * (lookup + 1) = wait + 200 + 200 * lookup := by omega
  simp only [unseen, List.range_succ_eq_map, List.flatMap_cons, List.flatMap_map,
    Nat.succ_eq_add_one, hwait]
  rfl

theorem Sought.again {rule : String} {wait lookups : Nat} {log : List Event}
    {result : Except Failure Unit} (hsought : Sought rule (wait + 200) lookups log result) :
    Sought rule wait (lookups + 1)
      (.slept wait :: ⟨.ruleExists rule, .ok false⟩ :: log) result := by
  have hwait (missed : Nat) : wait + 200 + 200 * missed = wait + 200 * (missed + 1) := by omega
  cases hsought with
  | @found missed deleted hmissed =>
      rw [← List.cons_append, ← List.cons_append, ← unseen_succ, hwait]
      exact .found (missed + 1) (Nat.succ_lt_succ hmissed)
  | @failed missed fault hmissed =>
      rw [← List.cons_append, ← List.cons_append, ← unseen_succ, hwait]
      exact .failed (missed + 1) (Nat.succ_lt_succ hmissed)
  | missing =>
      rw [← unseen_succ]
      exact .missing

theorem deleteGeneratedRule_traces (rule : String) (wait lookups : Nat) :
    Traces (Sought rule wait lookups) (deleteGeneratedRule rule wait lookups) := by
  induction lookups generalizing wait with
  | zero => exact .throw .missing
  | succ lookups ih =>
      apply Traces.sleep_bind
      apply Traces.host_bind (Plan.traces_call (.ruleExists rule))
      · rintro _ fault rfl
        exact .failed 0 (Nat.succ_pos _)
      · rintro _ found rfl
        cases found with
        | true =>
            apply Traces.host (Plan.traces_call (.deleteRule rule))
            rintro _ deleted rfl
            exact .found 0 (Nat.succ_pos _)
        | false => exact (ih (wait + lookupBackoff)).imp fun log result hsought => hsought.again

theorem closeGeneratedRule_traces (attached : Endpoint) :
    Traces (Closing attached .firewall) (closeGeneratedRule attached) := by
  rw [closeGeneratedRule]
  cases hport : attached.port? with
  | none => exact .throw (.unusable hport)
  | some allocator =>
      exact (deleteGeneratedRule_traces _ _ _).imp fun log result hsought => .sought hport hsought

theorem attach_traces (settings : Settings) (container : String) (created : Endpoint) :
    Traces (Joining settings.enforcement container created)
      (attach settings container created) := by
  apply Traces.host_bind (Plan.traces_call (.attachEndpoint container created.id))
  · rintro _ fault rfl
    exact .refused
  rintro _ _ rfl
  apply (awaitAdapter_traces (adapterOf container) adapterProbes).bind
  · intro looks failure hawaited
    exact .unready hawaited
  intro looks _ hawaited
  apply Traces.host_bind (Plan.traces_call (.endpointById created.id))
  · rintro _ fault rfl
    exact .lost hawaited
  rintro _ attached rfl
  split
  case isTrue henforcement =>
    rw [henforcement]
    apply (closeGeneratedRule_traces attached).bind
    · intro closing failure hclosing
      exact .unclosed hawaited hclosing
    · intro closing _ hclosing
      apply Traces.pure
      rw [List.append_nil]
      exact .joined hawaited hclosing
  case isFalse hengine =>
    apply Traces.pure
    have hclosing : Closing attached settings.enforcement [] (.ok ()) := by
      cases henforcement : settings.enforcement with
      | policyEngine => exact .unneeded
      | firewall => exact absurd henforcement hengine
    exact .joined hawaited hclosing

theorem create_traces (settings : Settings) (container : String) :
    Traces (Creation settings container) (create settings container) := by
  rw [create_eq]
  apply Traces.host_bind (Plan.traces_call (.networkByName settings.networkName))
  · rintro _ fault rfl
    exact .unlocated
  rintro _ network rfl
  apply (createRetrying_traces (descriptor settings container network.id) _).bind
  · intro tried failure htried
    exact .uncreated htried
  intro tried created htried
  have hdelete : Traces (fun log _ => ∃ deleted : Except HostFault Unit,
      log = [⟨.deleteEndpoint created, deleted⟩]) (host (.call (.deleteEndpoint created))) :=
    .host (Plan.traces_call (.deleteEndpoint created)) fun _ deleted hlog => ⟨deleted, hlog⟩
  apply (attach_traces settings container created).orUndo hdelete
  · intro steps attached hjoining
    rw [List.singleton_append]
    exact .attached htried hjoining
  · rintro steps failure _ _ hjoining ⟨deleted, rfl⟩
    rw [List.singleton_append]
    exact .undone htried hjoining

/-! ## What becomes of the endpoint -/

namespace Tried

variable {asked : Endpoint} {attempts : Nat} {log : List Event} {result : Except Failure Endpoint}

theorem mem_of_ok {created : Endpoint} (htried : Tried asked attempts log (.ok created)) :
    ⟨.createEndpoint asked, .ok created⟩ ∈ log := by
  cases htried with
  | created passed hpassed => exact List.mem_append_right _ (List.mem_singleton_self _)

end Tried

theorem attaches_of_mem_misses {container id : String} {count : Nat} :
    ∀ event ∈ misses (adapterOf container) count, event.call.Attaches container id := by
  intro event hevent
  obtain ⟨look, hlook, hmem⟩ := List.mem_flatten.mp hevent
  rw [List.eq_of_mem_replicate hlook] at hmem
  cases hmem with
  | head => exact rfl
  | tail _ hslept =>
      rw [List.mem_singleton.mp hslept]
      trivial

theorem Awaited.attaches {container id : String} {probes : Nat} {looks : List Event}
    {result : Except Failure Unit} (hawaited : Awaited (adapterOf container) probes looks result) :
    ∀ event ∈ looks, event.call.Attaches container id := by
  cases hawaited with
  | found missed hmissed =>
      exact List.forall_mem_append.mpr
        ⟨attaches_of_mem_misses, List.forall_mem_singleton.mpr rfl⟩
  | failed missed hmissed =>
      exact List.forall_mem_append.mpr
        ⟨attaches_of_mem_misses, List.forall_mem_singleton.mpr rfl⟩
  | missing => exact attaches_of_mem_misses

theorem attaches_of_mem_unseen {container id : String} {allocator : Allocator} {wait count : Nat} :
    ∀ event ∈ unseen allocator.generatedRule wait count, event.call.Attaches container id := by
  intro event hevent
  obtain ⟨lookup, _, hmem⟩ := List.mem_flatMap.mp hevent
  cases hmem with
  | head => trivial
  | tail _ hlook =>
      rw [List.mem_singleton.mp hlook]
      exact ⟨allocator, rfl⟩

theorem Sought.attaches {container id : String} {allocator : Allocator} {wait lookups : Nat}
    {looks : List Event} {result : Except Failure Unit}
    (hsought : Sought allocator.generatedRule wait lookups looks result) :
    ∀ event ∈ looks, event.call.Attaches container id := by
  cases hsought with
  | found missed hmissed =>
      refine List.forall_mem_append.mpr ⟨attaches_of_mem_unseen, ?_⟩
      simp only [List.forall_mem_cons]
      exact ⟨trivial, ⟨allocator, rfl⟩, ⟨allocator, rfl⟩, List.forall_mem_nil _⟩
  | failed missed hmissed =>
      refine List.forall_mem_append.mpr ⟨attaches_of_mem_unseen, ?_⟩
      simp only [List.forall_mem_cons]
      exact ⟨trivial, ⟨allocator, rfl⟩, List.forall_mem_nil _⟩
  | missing => exact attaches_of_mem_unseen

theorem Closing.attaches {attached : Endpoint} {enforcement : Enforcement} {container id : String}
    {closing : List Event} {result : Except Failure Unit}
    (hclosing : Closing attached enforcement closing result) :
    ∀ event ∈ closing, event.call.Attaches container id := by
  cases hclosing with
  | unneeded => exact List.forall_mem_nil _
  | unusable hport => exact List.forall_mem_nil _
  | sought hport hsought => exact hsought.attaches

theorem Joining.attaches {enforcement : Enforcement} {container : String} {created : Endpoint}
    {steps : List Event} {result : Except Failure Endpoint}
    (hjoining : Joining enforcement container created steps result) :
    ∀ event ∈ steps, event.call.Attaches container created.id := by
  cases hjoining with
  | refused => exact List.forall_mem_singleton.mpr ⟨rfl, rfl⟩
  | unready hawaited => exact List.forall_mem_cons.mpr ⟨⟨rfl, rfl⟩, hawaited.attaches⟩
  | lost hawaited =>
      exact List.forall_mem_cons.mpr ⟨⟨rfl, rfl⟩,
        List.forall_mem_append.mpr ⟨hawaited.attaches, List.forall_mem_singleton.mpr rfl⟩⟩
  | unclosed hawaited hclosing =>
      exact List.forall_mem_cons.mpr ⟨⟨rfl, rfl⟩, List.forall_mem_append.mpr
        ⟨hawaited.attaches, List.forall_mem_cons.mpr ⟨rfl, hclosing.attaches⟩⟩⟩
  | joined hawaited hclosing =>
      exact List.forall_mem_cons.mpr ⟨⟨rfl, rfl⟩, List.forall_mem_append.mpr
        ⟨hawaited.attaches, List.forall_mem_cons.mpr ⟨rfl, hclosing.attaches⟩⟩⟩

theorem Joining.mem_of_ok {enforcement : Enforcement} {container : String}
    {created attached : Endpoint} {steps : List Event}
    (hjoining : Joining enforcement container created steps (.ok attached)) :
    ⟨.endpointById created.id, .ok attached⟩ ∈ steps := by
  cases hjoining with
  | joined hawaited hclosing =>
      exact List.mem_cons_of_mem _ (List.mem_append_right _ List.mem_cons_self)

section Logs

variable {settings : Settings} {container name : String} {asked created : Endpoint}
variable {looked : Except HostFault Network} {tried rest steps : List Event}
variable {result : Except Failure Endpoint} {failure : Failure}

end Logs

end EndpointLifecycle

end ContainerNetwork
