import ContainerNetwork.Proofs.Host.Store
import ContainerNetwork.SimulatedHost

/-!
# The simulated host is faithful

Whatever faults are scripted, the endpoints, rules and pool of the simulated host change as its
answers say.  What it needs for that is that it gave every endpoint its identifier itself.
-/

namespace ContainerNetwork.SimulatedHost

variable {host after : SimulatedHost} {range : ManagedRange}

/-- What the simulated host keeps for its containers. -/
def store (host : SimulatedHost) : Store := ⟨host.endpoints, host.rules, host.files⟩

/-- Every endpoint has an identifier from among those given so far. -/
def Sound (host : SimulatedHost) : Prop :=
  ∀ endpoint ∈ host.endpoints, ∃ number ≤ host.createdEndpoints,
    endpoint.id = "ep-" ++ Decimal.text number

/-- A host that has the shared network, gives attached endpoints a port and makes a rule for it. -/
def ready : SimulatedHost where
  networks := [{ id := "net-1", name := "sluice-nat" }]
  allocators := [⟨1, 2, "guid"⟩]
  generatedRules := ["Compartment 2 - guid"]

theorem ready_sound : Sound ready := fun _ hmem => absurd hmem List.not_mem_nil

/-- Hosts that keep the same for their containers. -/
structure Keeps (after host : SimulatedHost) : Prop where
  endpoints : after.endpoints = host.endpoints
  createdEndpoints : after.createdEndpoints = host.createdEndpoints
  rules : after.rules = host.rules
  files : after.files = host.files

namespace Keeps

theorem trans {middle : SimulatedHost} (hfirst : Keeps after middle) (hsecond : Keeps middle host) :
    Keeps after host where
  endpoints := hfirst.endpoints.trans hsecond.endpoints
  createdEndpoints := hfirst.createdEndpoints.trans hsecond.createdEndpoints
  rules := hfirst.rules.trans hsecond.rules
  files := hfirst.files.trans hsecond.files

theorem store_eq (hkeeps : Keeps after host) : after.store = host.store := by
  rw [SimulatedHost.store, SimulatedHost.store, hkeeps.endpoints, hkeeps.rules, hkeeps.files]

theorem agrees (hkeeps : Keeps after host) (place : FilePlace) :
    Store.Agrees place after.store host.store := by
  rw [hkeeps.store_eq]
  exact ⟨rfl, rfl, fun _ _ => rfl⟩

theorem sound (hkeeps : Keeps after host) (hsound : Sound host) : Sound after := by
  rw [Sound, hkeeps.endpoints, hkeeps.createdEndpoints]
  exact hsound

end Keeps

theorem takeFault_keeps (host : SimulatedHost) (kind : CallKind) :
    Keeps (host.takeFault kind).2 host := by
  rw [takeFault]
  split <;> exact ⟨rfl, rfl, rfl, rfl⟩

/-- A call fails as it is scripted, or is acted on. -/
theorem answer_induction {α : Type} {motive : Except HostFault α × SimulatedHost → Prop}
    {call : Call} {act : SimulatedHost → Except HostFault α × SimulatedHost}
    (hfault : ∀ fault before, Keeps before host → motive (.error fault, before))
    (hact : ∀ before, Keeps before host → motive (act before)) :
    motive (host.answer call act) := by
  have hkeeps : Keeps ((host.record call).takeFault call.kind).2 host :=
    (takeFault_keeps (host.record call) call.kind).trans ⟨rfl, rfl, rfl, rfl⟩
  rw [answer]
  generalize (host.record call).takeFault call.kind = taken at *
  obtain ⟨none | fault, before⟩ := taken
  · exact hact before hkeeps
  · exact hfault fault before hkeeps

theorem answer_keeps {α : Type} {call : Call}
    {act : SimulatedHost → Except HostFault α × SimulatedHost}
    (hact : ∀ host, Keeps (act host).2 host) (host : SimulatedHost) :
    Keeps (host.answer call act).2 host :=
  answer_induction (motive := fun run => Keeps run.2 host) (fun _ _ hkeeps => hkeeps)
    fun before hkeeps => (hact before).trans hkeeps

theorem answerPool_usesPool {α : Type} (host : SimulatedHost) (call : Call)
    (action : FileAction Failure α) :
    Store.UsesPool poolPlace action host.store (host.answerPool call action).1
        (host.answerPool call action).2.store ∧
      (host.answerPool call action).2.endpoints = host.endpoints ∧
      (host.answerPool call action).2.createdEndpoints = host.createdEndpoints := by
  have hkeeps : Keeps ((host.record call).takeFault call.kind).2 host :=
    (takeFault_keeps (host.record call) call.kind).trans ⟨rfl, rfl, rfl, rfl⟩
  rw [answerPool]
  generalize (host.record call).takeFault call.kind = taken at *
  obtain ⟨none | fault, before⟩ := taken
  · have hagrees := hkeeps.agrees poolPlace
    refine ⟨⟨hagrees.endpoints, hagrees.handleRules, .inr ?_⟩, hkeeps.endpoints,
      hkeeps.createdEndpoints⟩
    exact ⟨before.files, _, hagrees.files, rfl, fun _ _ => rfl⟩
  · have hagrees := hkeeps.agrees poolPlace
    exact ⟨⟨hagrees.endpoints, hagrees.handleRules, .inl ⟨⟨_, rfl⟩, hagrees.files⟩⟩,
      hkeeps.endpoints, hkeeps.createdEndpoints⟩

theorem runCommand_keeps (host : SimulatedHost) (timeout : Nat) :
    Keeps (host.runCommand timeout).2 host := by
  simp only [runCommand]
  split
  · exact ⟨rfl, rfl, rfl, rfl⟩
  · have hkeeps (ready : SimulatedHost) := takeFault_keeps ready .exec
    split
    · rename_i fault taken htaken
      have hready := hkeeps { host with
        execDelays := host.execDelays.tail, clock := host.clock + host.execDelays.headD 0 }
      rw [htaken] at hready
      exact hready.trans ⟨rfl, rfl, rfl, rfl⟩
    · rename_i taken htaken
      have hready := hkeeps { host with
        execDelays := host.execDelays.tail, clock := host.clock + host.execDelays.headD 0 }
      rw [htaken] at hready
      exact ⟨hready.endpoints, hready.createdEndpoints, hready.rules, hready.files⟩

/-- Replacing the first item that is selected takes it out and puts another in. -/
theorem replaceFirst_perm {α : Type} [DecidableEq α] (select : α → Bool) (change : α → α)
    (items : List α) :
    (items.any select = false ∧ replaceFirst select change items = items) ∨
      ∃ item ∈ items, select item ∧
        (replaceFirst select change items).Perm (change item :: items.erase item) := by
  induction items with
  | nil => exact .inl ⟨rfl, rfl⟩
  | cons head rest ih =>
      rw [replaceFirst]
      by_cases hhead : select head
      · rw [if_pos hhead]
        refine .inr ⟨head, List.mem_cons_self, hhead, ?_⟩
        rw [List.erase_cons_head]
      · rw [if_neg hhead]
        rcases ih with ⟨hnone, hsame⟩ | ⟨item, hmem, hselect, hperm⟩
        · refine .inl ⟨?_, by rw [hsame]⟩
          rw [List.any_cons, hnone, Bool.or_false]
          simpa using hhead
        · refine .inr ⟨item, List.mem_cons_of_mem _ hmem, hselect, ?_⟩
          have hne : head ≠ item := by
            rintro rfl
            exact hhead hselect
          rw [List.erase_cons_tail (by simpa using hne)]
          exact (hperm.cons head).trans (.swap _ _ _)

/-! ## One call -/

/-- A sound host and an answer that a faithful host may give, with the host after it. -/
def Responds (range : ManagedRange) (host : SimulatedHost) (call : Call)
    (run : call.Answer × SimulatedHost) : Prop :=
  Sound run.2 ∧ host.store.Admits poolPlace range call run.1 run.2.store

/-- A call that keeps what the host keeps is answered faithfully by every answer. -/
theorem Keeps.responds (hkeeps : Keeps after host) (hsound : Sound host) :
    Sound after ∧ Store.Agrees poolPlace after.store host.store :=
  ⟨hkeeps.sound hsound, hkeeps.agrees poolPlace⟩

/-- A number that was given is told from the next one by its text. -/
theorem numbered_ne_next (tag : String) {number count : Nat} (hle : number ≤ count) :
    tag ++ Decimal.text number ≠ tag ++ Decimal.text (count + 1) := by
  intro heq
  have htexts := (String.append_right_inj tag).mp heq
  have hnumbers := Decimal.read?_text number
  rw [htexts, Decimal.read?_text] at hnumbers
  have hnumber := Option.some.inj hnumbers
  omega

theorem createEndpoint_responds (hsound : Sound host) (asked : Endpoint) :
    Responds range host (.createEndpoint asked) (respond range (.createEndpoint asked) host) := by
  apply answer_induction (motive := Responds range host (.createEndpoint asked))
    (fun _ _ hkeeps => hkeeps.responds hsound)
  intro before hkeeps
  refine ⟨?_, rfl, ?_, ?_⟩
  · intro endpoint hmem
    rcases List.mem_append.mp hmem with hmem | hmem
    · obtain ⟨number, hle, hid⟩ := hkeeps.sound hsound endpoint hmem
      exact ⟨number, Nat.le_succ_of_le hle, hid⟩
    · obtain rfl := List.mem_singleton.mp hmem
      exact ⟨before.createdEndpoints + 1, Nat.le_refl _, rfl⟩
  · intro endpoint hmem
    obtain ⟨number, hle, hid⟩ := hsound endpoint hmem
    rw [hid, hkeeps.createdEndpoints]
    exact numbered_ne_next "ep-" hle
  · have hagrees := hkeeps.agrees poolPlace
    refine ⟨?_, hagrees.handleRules, hagrees.files⟩
    rw [← hagrees.endpoints]
    exact Multiset.coe_eq_coe.mpr (List.perm_append_singleton _ _)

/-- An endpoint that is replaced by one of its identifier is replaced in the store. -/
theorem Keeps.replaces {before : SimulatedHost} (hkeeps : Keeps before host) (hsound : Sound host)
    {endpoints : List Endpoint} {old new : Endpoint} (hmem : old ∈ before.endpoints)
    (hperm : endpoints.Perm (new :: before.endpoints.erase old)) (hid : new.id = old.id) :
    Sound { before with endpoints } ∧ old ∈ host.store.endpoints ∧
      Store.Agrees poolPlace (store { before with endpoints }) (host.store.replace old new) := by
  have hagrees := hkeeps.agrees poolPlace
  refine ⟨fun endpoint hendpoint => ?_, ?_, ?_, hagrees.handleRules, hagrees.files⟩
  · rcases List.mem_cons.mp (hperm.mem_iff.mp hendpoint) with rfl | hkept
    · rw [hid]
      exact hkeeps.sound hsound old hmem
    · exact hkeeps.sound hsound endpoint (List.mem_of_mem_erase hkept)
  · rw [← hagrees.endpoints]
    exact Multiset.mem_coe.mpr hmem
  · rw [Store.replace, ← hagrees.endpoints]
    exact Multiset.coe_eq_coe.mpr hperm

theorem updateEndpoint_responds (hsound : Sound host) (asked : Endpoint) :
    Responds range host (.updateEndpoint asked) (respond range (.updateEndpoint asked) host) := by
  apply answer_induction (motive := Responds range host (.updateEndpoint asked))
    (fun _ _ hkeeps => hkeeps.responds hsound)
  intro before hkeeps
  rcases replaceFirst_perm (fun stored : Endpoint => stored.id = asked.id) (fun _ => asked)
    before.endpoints with ⟨hnone, _⟩ | ⟨old, hmem, hold, hperm⟩
  · simp only [hnone, Bool.false_eq_true, if_false]
    exact hkeeps.responds hsound
  · have hany : before.endpoints.any (fun stored => stored.id = asked.id) = true :=
      List.any_eq_true.mpr ⟨old, hmem, hold⟩
    have hid : old.id = asked.id := of_decide_eq_true hold
    obtain ⟨hafter, hstored, hagrees⟩ := hkeeps.replaces hsound hmem hperm hid.symm
    simp only [hany, if_true]
    exact ⟨hafter, rfl, rfl, old, hstored, hid, hagrees⟩

theorem attachEndpoint_responds (hsound : Sound host) (container id : String) :
    Responds range host (.attachEndpoint container id)
      (respond range (.attachEndpoint container id) host) := by
  apply answer_induction (motive := Responds range host (.attachEndpoint container id))
    (fun _ _ hkeeps => hkeeps.responds hsound)
  intro before hkeeps
  rcases replaceFirst_perm (fun stored : Endpoint => stored.id = id)
    (fun stored => { stored with resources := { allocators := before.allocators } })
    before.endpoints with ⟨_, hsame⟩ | ⟨old, hmem, hold, hperm⟩
  · simp only [hsame]
    obtain ⟨hafter, hagrees⟩ := hkeeps.responds hsound
    exact ⟨hafter, .inl hagrees⟩
  · obtain ⟨hafter, hstored, hagrees⟩ := hkeeps.replaces hsound hmem hperm rfl
    refine ⟨hafter, .inr ⟨old, hstored, of_decide_eq_true hold, ?_⟩⟩
    exact ⟨{ old with resources := { allocators := before.allocators } }, rfl, rfl, hagrees⟩

theorem deleteEndpoint_responds (hsound : Sound host) (endpoint : Endpoint) :
    Responds range host (.deleteEndpoint endpoint)
      (respond range (.deleteEndpoint endpoint) host) := by
  apply answer_induction (motive := Responds range host (.deleteEndpoint endpoint))
    (fun _ _ hkeeps => hkeeps.responds hsound)
  intro before hkeeps
  have hagrees := hkeeps.agrees poolPlace
  refine ⟨fun stored hmem => hkeeps.sound hsound stored (List.mem_of_mem_filter hmem), ?_,
    hagrees.handleRules, hagrees.files⟩
  rw [← hagrees.endpoints]
  exact (Multiset.filter_coe _ _).symm

/-- An endpoint that is looked for is found as it is stored. -/
theorem find_induction {call : Call} {select : Endpoint → Bool}
    {fault : HostFault} {motive : Except HostFault Endpoint × SimulatedHost → Prop}
    (hmissing : ∀ fault after, Keeps after host → motive (.error fault, after))
    (hfound : ∀ endpoint after, Keeps after host → endpoint ∈ host.store.endpoints →
      select endpoint → motive (.ok endpoint, after)) :
    motive (host.answer call fun host =>
      (orMissing fault (host.endpoints.find? select), host)) := by
  apply answer_induction (fun _ _ hkeeps => hmissing _ _ hkeeps)
  intro before hkeeps
  cases hfind : before.endpoints.find? select with
  | none => exact hmissing _ _ hkeeps
  | some endpoint =>
      have hmem : endpoint ∈ host.store.endpoints := by
        rw [← (hkeeps.agrees poolPlace).endpoints]
        exact Multiset.mem_coe.mpr (List.mem_of_find?_eq_some hfind)
      exact hfound endpoint before hkeeps hmem (List.find?_some hfind)

theorem createRule_responds (hsound : Sound host) (rule : FirewallRule) :
    Responds range host (.createRule rule) (respond range (.createRule rule) host) := by
  apply answer_induction (motive := Responds range host (.createRule rule))
    (fun _ _ hkeeps => hkeeps.responds hsound)
  intro before hkeeps
  have hagrees := hkeeps.agrees poolPlace
  refine ⟨hkeeps.sound hsound, hagrees.endpoints, ?_, hagrees.files⟩
  have hrules : (↑(before.rules ++ [rule]) : Multiset FirewallRule) = rule ::ₘ host.rules := by
    rw [hkeeps.rules]
    exact Multiset.coe_eq_coe.mpr (List.perm_append_singleton _ _)
  exact congrArg (Multiset.filter _) hrules

theorem deleteRule_responds (hsound : Sound host) (name : String) :
    Responds range host (.deleteRule name) (respond range (.deleteRule name) host) := by
  apply answer_induction (motive := Responds range host (.deleteRule name))
    (fun _ _ hkeeps => hkeeps.responds hsound)
  intro before hkeeps
  have hagrees := hkeeps.agrees poolPlace
  refine ⟨hkeeps.sound hsound, hagrees.endpoints, ?_, hagrees.files⟩
  have hrules : (↑(before.rules.filter (·.name ≠ name)) : Multiset FirewallRule) =
      (↑host.rules : Multiset FirewallRule).filter fun rule => rule.name ≠ name := by
    rw [hkeeps.rules]
    exact (Multiset.filter_coe _ _).symm
  exact congrArg (Multiset.filter _) hrules

theorem answerPool_responds (hsound : Sound host) {α : Type} (call : Call)
    (action : FileAction Failure α) :
    Sound (host.answerPool call action).2 ∧
      Store.UsesPool poolPlace action host.store (host.answerPool call action).1
        (host.answerPool call action).2.store := by
  obtain ⟨huses, hendpoints, hcreated⟩ := answerPool_usesPool host call action
  refine ⟨?_, huses⟩
  rw [Sound, hendpoints, hcreated]
  exact hsound

theorem respond_responds (hsound : Sound host) (call : Call) :
    Responds range host call (respond range call host) := by
  cases call with
  | networkByName name => exact (answer_keeps (fun _ => ⟨rfl, rfl, rfl, rfl⟩) host).responds hsound
  | createNetwork network =>
      exact ⟨(answer_keeps (fun _ => ⟨rfl, rfl, rfl, rfl⟩) host).sound hsound, trivial⟩
  | deleteNetwork network =>
      exact ⟨(answer_keeps (fun _ => ⟨rfl, rfl, rfl, rfl⟩) host).sound hsound, trivial⟩
  | createEndpoint endpoint => exact createEndpoint_responds hsound endpoint
  | updateEndpoint endpoint => exact updateEndpoint_responds hsound endpoint
  | deleteEndpoint endpoint => exact deleteEndpoint_responds hsound endpoint
  | endpointById id =>
      refine find_induction (motive := Responds range host (.endpointById id))
        (fun _ _ hkeeps => hkeeps.responds hsound) fun endpoint after hkeeps hmem hid => ?_
      exact ⟨hkeeps.sound hsound, hmem, of_decide_eq_true hid, hkeeps.agrees poolPlace⟩
  | endpointByName name =>
      refine find_induction (motive := Responds range host (.endpointByName name))
        (fun _ _ hkeeps => hkeeps.responds hsound) fun endpoint after hkeeps hmem hname => ?_
      exact ⟨hkeeps.sound hsound, hmem, of_decide_eq_true hname, hkeeps.agrees poolPlace⟩
  | attachEndpoint container id => exact attachEndpoint_responds hsound container id
  | detachEndpoint container id =>
      refine answer_induction (motive := Responds range host (.detachEndpoint container id))
        (fun _ _ hkeeps => hkeeps.responds hsound) fun before hkeeps => ?_
      exact ⟨hkeeps.sound hsound, .inl (hkeeps.agrees poolPlace)⟩
  | createRule rule => exact createRule_responds hsound rule
  | deleteRule name => exact deleteRule_responds hsound name
  | ruleExists name => exact (answer_keeps (fun _ => ⟨rfl, rfl, rfl, rfl⟩) host).responds hsound
  | exec container command timeout =>
      exact ((runCommand_keeps _ timeout).trans ⟨rfl, rfl, rfl, rfl⟩).responds hsound
  | adapterExists adapter =>
      exact (answer_keeps (fun _ => ⟨rfl, rfl, rfl, rfl⟩) host).responds hsound
  | adapterMtu adapter =>
      exact (answer_keeps (fun _ => ⟨rfl, rfl, rfl, rfl⟩) host).responds hsound
  | setAdapterMtu adapter mtu =>
      exact (answer_keeps (fun _ => ⟨rfl, rfl, rfl, rfl⟩) host).responds hsound
  | allocatePort handle port => exact answerPool_responds hsound _ (PortPool.allocate _ _ _ _)
  | releaseAllPorts handle => exact answerPool_responds hsound _ (PortPool.releaseAll _ _)
  | sleep milliseconds =>
      have hkeeps : Keeps (respond range (.sleep milliseconds) host).2 host :=
        ⟨rfl, rfl, rfl, rfl⟩
      exact hkeeps.responds hsound

/-- The simulated host is faithful, whatever it is scripted to do. -/
theorem faithful (range : ManagedRange) : Faithful poolPlace range (respond range) store Sound where
  sound_respond call _ hsound := (respond_responds hsound call).1
  admits call _ hsound := (respond_responds hsound call).2

end ContainerNetwork.SimulatedHost
