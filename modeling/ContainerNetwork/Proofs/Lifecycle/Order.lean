import ContainerNetwork.Proofs.Lifecycle.Milestones

/-!
# The order of the way up

Nothing of a container's rules is put in force before its endpoint is attached and, where the host
firewall enforces them, before the rule that the host made by itself is deleted.  Inbound rules come
before outbound rules, these before the one update of the endpoint, and that before the MTU.  A
container is up only after all of these.
-/

namespace ContainerNetwork

open Operation

namespace Stage

def rank : Stage → Nat
  | forwarding => 0
  | permitting => 1
  | committing => 2
  | adapting => 3
  | finished => 4

/-- Calls of a later stage come later, and of a stage for rules there may be several. -/
def MayPrecede (earlier later : Stage) : Prop :=
  earlier.rank < later.rank ∨ earlier = later ∧ later.rank < committing.rank

end Stage

/-- The stage that a call belongs to, if it puts something in force. -/
def Call.stage? : Call → Option Stage
  | allocatePort _ _ | exec _ _ _ => some .forwarding
  | createRule rule =>
      match rule.direction with
      | .inbound => some .forwarding
      | .outbound => some .permitting
  | updateEndpoint _ => some .committing
  | setAdapterMtu _ _ => some .adapting
  | _ => none

/-- A call is timely after a history that has passed the milestones before the stage of the call,
and in which no stage came that should come later. -/
def Timely (settings : Settings) (container : String) (request : Request) (history : List Event)
    (call : Call) : Prop :=
  ∀ stage, call.stage? = some stage →
    (∃ attached passed, Milestones settings container request attached stage passed ∧
      passed.Sublist history) ∧
    ∀ event ∈ history, ∀ earlier, event.call.stage? = some earlier → earlier.MayPrecede stage

variable {settings : Settings} {container : String} {request : Request} {attached : Endpoint}
variable {enforcement : Enforcement} {history : List Event}

/-! ## Stages -/

/-- A history that has passed the milestones before a stage, and in which only earlier stages
came. -/
structure Reached (settings : Settings) (container : String) (request : Request)
    (attached : Endpoint) (stage : Stage) (history : List Event) : Prop where
  passed : ∃ passed, Milestones settings container request attached stage passed ∧
    passed.Sublist history
  earlier : ∀ event ∈ history, ∀ earlier, event.call.stage? = some earlier →
    earlier.rank < stage.rank

/-- A call stays timely as long as only calls come in between that may precede it. -/
theorem Timely.append {call : Call} {more : List Event}
    (htimely : Timely settings container request history call)
    (hmore : ∀ event ∈ more, ∀ earlier stage, event.call.stage? = some earlier →
      call.stage? = some stage → earlier.MayPrecede stage) :
    Timely settings container request (history ++ more) call := by
  intro stage hstage
  obtain ⟨⟨attached, passed, hpassed, hsublist⟩, hearlier⟩ := htimely stage hstage
  refine ⟨⟨attached, passed, hpassed, hsublist.trans (List.sublist_append_left _ _)⟩, ?_⟩
  intro event hevent earlier hother
  rcases List.mem_append.mp hevent with hevent | hevent
  · exact hearlier event hevent earlier hother
  · exact hmore event hevent earlier stage hother hstage

namespace Reached

variable {stage next : Stage} {more : List Event}

/-- When a stage begins, its calls are timely. -/
theorem timely (hreached : Reached settings container request attached stage history) {call : Call}
    (hcall : ∀ other, call.stage? = some other → other = stage) :
    Timely settings container request history call := by
  intro other hother
  obtain rfl := hcall other hother
  obtain ⟨passed, hpassed, hsublist⟩ := hreached.passed
  exact ⟨⟨attached, passed, hpassed, hsublist⟩, fun event hevent earlier hearlier =>
    .inl (hreached.earlier event hevent earlier hearlier)⟩

/-- The next stage begins once the calls of a stage have succeeded. -/
theorem advance (hreached : Reached settings container request attached stage history)
    (hnext : stage.rank < next.rank)
    (hmore : ∀ event ∈ more, ∀ other, event.call.stage? = some other → other = stage)
    {calls : List Event} (hcalls : calls.Sublist more)
    (hmilestones : ∀ passed, Milestones settings container request attached stage passed →
      Milestones settings container request attached next (passed ++ calls)) :
    Reached settings container request attached next (history ++ more) where
  passed := by
    obtain ⟨passed, hpassed, hsublist⟩ := hreached.passed
    exact ⟨passed ++ calls, hmilestones passed hpassed, hsublist.append hcalls⟩
  earlier event hevent other hother := by
    rcases List.mem_append.mp hevent with hevent | hevent
    · exact (hreached.earlier event hevent other hother).trans hnext
    · rw [hmore event hevent other hother]
      exact hnext

end Reached

namespace Call

variable {id : String} {call : Call}

/-- Calls of most kinds belong to no stage. -/
theorem stage?_eq_none {kinds : List CallKind} (hkind : call.kind ∈ kinds)
    (hother : ∀ kind ∈ [CallKind.allocatePort, .exec, .createRule, .updateEndpoint,
      .setAdapterMtu], kind ∉ kinds) : call.stage? = none := by
  cases call with
  | allocatePort _ _ | exec _ _ _ | createRule _ | updateEndpoint _ | setAdapterMtu _ _ =>
      exact absurd hkind (hother _ (by simp [kind]))
  | _ => rfl

theorem Forwards.stage? (hforwards : call.Forwards enforcement container) :
    call.stage? = some .forwarding := by
  cases call with
  | allocatePort _ _ | exec _ _ _ => rfl
  | createRule rule => simp only [Call.stage?, hforwards.2.2]
  | _ => exact hforwards.elim

theorem Permits.stage? (hpermits : call.Permits enforcement container) :
    call.stage? = some .permitting := by
  cases call with
  | createRule rule => simp only [Call.stage?, hpermits.2.2]
  | _ => exact hpermits.elim

end Call

/-! ## Putting rules in force -/

namespace EndpointLifecycle

/-- The endpoint is updated once all rules are translated. -/
theorem applyPolicies_heeds
    (hreached : Reached settings container request attached .committing history)
    (nat : List PortForward) (acl : List AclEntry) :
    Heeds (Timely settings container request)
      (fun _ => Reached settings container request attached .adapting)
      (applyPolicies settings attached nat acl) history := by
  refine .host (Plan.heeds_call (.updateEndpoint _) (hreached.timely ?_) ?_)
  · intro stage hstage
    exact (Option.some.inj hstage).symm
  · rintro _ updated rfl
    refine hreached.advance (by decide) ?_ (List.Sublist.refl _) fun _ => .committed
    intro event hevent stage hstage
    obtain rfl := List.mem_singleton.mp hevent
    exact (Option.some.inj hstage).symm

/-- The MTU is set once the endpoint is updated. -/
theorem setMtu_heeds (hreached : Reached settings container request attached .adapting history) :
    Heeds (Timely settings container request)
      (fun _ => Reached settings container request attached .finished)
      (setMtu settings container) history := by
  -- What comes before the MTU is set belongs to no stage.
  have hset (mtu : UInt32) {more : List Event}
      (hmore : ∀ event ∈ more, event.call.stage? = none) :
      Heeds (Timely settings container request)
        (fun _ => Reached settings container request attached .finished)
        (do host (.call (.setAdapterMtu (adapterOf container) mtu)); return mtu)
        (history ++ more) := by
    have hcall : Heeds (Timely settings container request)
        (fun _ => Reached settings container request attached .finished)
        (host (.call (.setAdapterMtu (adapterOf container) mtu))) (history ++ more) := by
      refine .host (Plan.heeds_call (.setAdapterMtu (adapterOf container) mtu) ?_ ?_)
      · refine (hreached.timely ?_).append fun event hevent earlier stage hearlier => ?_
        · intro stage hstage
          exact (Option.some.inj hstage).symm
        · rw [hmore event hevent] at hearlier
          cases hearlier
      · rintro _ set rfl
        rw [List.append_assoc]
        refine hreached.advance (by decide) ?_ (List.sublist_append_right _ _) fun _ => .adapted
        intro event hevent stage hstage
        rcases List.mem_append.mp hevent with hevent | hevent
        · rw [hmore event hevent] at hstage
          cases hstage
        · obtain rfl := List.mem_singleton.mp hevent
          exact (Option.some.inj hstage).symm
    exact hcall.bind fun _ _ hfinished => .pure hfinished
  rw [setMtu]
  split
  · have hread : Heeds (Timely settings container request)
        (fun mtu after =>
          after = history ++ [⟨.adapterMtu (adapterOf settings.networkName), .ok mtu⟩])
        (host (.call (.adapterMtu (adapterOf settings.networkName)))) history := by
      have htimely : Timely settings container request history
          (.adapterMtu (adapterOf settings.networkName)) := by
        intro stage hstage
        cases hstage
      refine .host (Plan.heeds_call (.adapterMtu _) htimely ?_)
      rintro _ mtu rfl
      rfl
    apply hread.bind
    intro mtu more hmore
    rw [hmore]
    exact hset mtu fun event hevent => by rw [List.mem_singleton.mp hevent]; rfl
  · have hnone := hset settings.mtu (fun _ hevent => absurd hevent List.not_mem_nil)
    rwa [List.append_nil] at hnone

end EndpointLifecycle

namespace ContainerLifecycle

/-- Rules are translated one after the other in a stage of their own. -/
theorem translate_heeds {α β : Type} {stage next : Stage} {kind : Call → Prop} {rules : List α}
    {translate : α → Operation β} {translated : α → List Event → Prop}
    (hreached : Reached settings container request attached stage history)
    (hstage : stage.rank < Stage.committing.rank) (hnext : stage.rank < next.rank)
    (hkind : ∀ call, kind call → call.stage? = some stage)
    (hmakes : ∀ rule, Makes kind (translate rule))
    (hreaches : ∀ rule history, Reaches (fun _ after => ∃ calls, translated rule calls ∧
      after = history ++ calls) (translate rule) history)
    (hmilestones : ∀ passed calls, Milestones settings container request attached stage passed →
      List.Forall₂ translated rules calls →
      Milestones settings container request attached next (passed ++ calls.flatten)) :
    Heeds (Timely settings container request)
      (fun _ => Reached settings container request attached next)
      (rules.mapM translate) history := by
  have hcalls : Reaches (fun _ after => ∃ calls, List.Forall₂ translated rules calls ∧
      after = history ++ calls.flatten) (rules.mapM translate) history :=
    .mapM hreaches history
  refine (hcalls.within (.mapM hmakes) fun more call hmore hcall => ?_).imp ?_
  · refine (hreached.timely ?_).append fun event hevent earlier later hearlier hlater => ?_
    · intro later hlater
      rw [hkind call hcall] at hlater
      exact (Option.some.inj hlater).symm
    · rw [hkind _ (hmore event hevent)] at hearlier
      rw [hkind call hcall] at hlater
      obtain rfl := Option.some.inj hearlier
      obtain rfl := Option.some.inj hlater
      exact .inr ⟨rfl, hstage⟩
  · rintro _ added ⟨⟨calls, hcalls, hafter⟩, more, hmore, hevents⟩
    obtain rfl := List.append_cancel_left hafter
    obtain rfl := List.append_cancel_left hmore
    refine hreached.advance hnext ?_ (List.Sublist.refl _) fun passed hpassed =>
      hmilestones passed calls hpassed hcalls
    intro event hevent other hother
    rw [hkind _ (hevents event hevent)] at hother
    exact (Option.some.inj hother).symm

/-- Putting the rules of an attached endpoint in force goes through all stages. -/
theorem install_heeds
    (hreached : Reached settings container request attached .forwarding history) :
    Heeds (Timely settings container request)
      (fun _ => Reached settings container request attached .finished)
      (install settings container request attached) history := by
  rw [install]
  split
  · rename_i address haddress
    have hforward : Heeds (Timely settings container request)
        (fun _ => Reached settings container request attached .permitting)
        (forwardAll settings container address request.inbound) history :=
      translate_heeds hreached (by decide) (by decide) (fun _ => Call.Forwards.stage?)
        (fun rule => Enforcement.forward_makes settings.enforcement container rule address)
        (fun rule => Enforcement.forward_reaches settings.enforcement container rule address)
        fun _ _ hpassed hcalls => .forwarded hpassed haddress hcalls
    apply hforward.bind
    intro inbound forwarding hforwarded
    have hpermit : Heeds (Timely settings container request)
        (fun _ => Reached settings container request attached .committing)
        (permitAll settings container address request.outbound) (history ++ forwarding) :=
      translate_heeds hforwarded (by decide) (by decide) (fun _ => Call.Permits.stage?)
        (fun rule => Enforcement.permit_makes settings.enforcement container rule address)
        (fun rule => Enforcement.permit_reaches settings.enforcement container rule address)
        fun _ _ hpassed hcalls => .permitted hpassed haddress hcalls
    apply hpermit.bind
    intro outbound permitting hpermitted
    apply (EndpointLifecycle.applyPolicies_heeds hpermitted _ _).discard.bind
    intro _ committing hcommitted
    apply (EndpointLifecycle.setMtu_heeds hcommitted).discard.bind
    intro _ adapting hadapted
    exact .pure hadapted
  · exact .throw _

/-- The way up passes its milestones in order, and every call of it is timely. -/
theorem up_heeds (settings : Settings) (handle : Handle) (request : Request) :
    Heeds (Timely settings handle.text request)
      (fun _ after => ∃ attached, Reached settings handle.text request attached .finished after)
      (up settings handle request) [] := by
  rw [up_eq]
  split
  · exact .throw _
  · have hmakes : Makes (fun call => call.stage? = none)
        (EndpointLifecycle.create settings handle.text) :=
      EndpointLifecycle.create_makes settings (fun _ => rfl) (fun _ _ => rfl)
        (fun _ _ hattaches => Call.stage?_eq_none hattaches.kind_mem (by decide)) fun _ => rfl
    have hunstaged (history : List Event) {call : Call} (hcall : call.stage? = none) :
        Timely settings handle.text request history call := by
      intro stage hstage
      rw [hcall] at hstage
      cases hstage
    apply ((EndpointLifecycle.create_reaches settings handle.text request).within hmakes
      fun more call _ => hunstaged ([] ++ more)).bind
    rintro attached joining ⟨hpassed, more, hmore, hevents⟩
    obtain rfl := List.append_cancel_left hmore
    have hreached : Reached settings handle.text request attached .forwarding ([] ++ joining) := by
      refine ⟨hpassed, fun event hevent stage hstage => ?_⟩
      rw [hevents event hevent] at hstage
      cases hstage
    refine Heeds.orUndo ((install_heeds hreached).imp fun _ _ hfinished => ⟨attached, hfinished⟩)
      fun undone => .of_makes ?_ fun more call => hunstaged _
    exact down_makes rfl (fun _ => rfl) (fun _ => rfl) fun _ hwithdraws =>
      Call.stage?_eq_none hwithdraws.kind_mem (by decide)

/-- Whatever the host answers, every call that puts something of a container in force comes after
the milestones before its stage and after no call of a later stage, and a container is up only after
all milestones. -/
theorem up_in_order {σ : Type} (respond : (call : Call) → σ → call.Answer × σ)
    (settings : Settings) (handle : Handle) (request : Request) (state : σ) :
    (∀ earlier event later,
        events respond (up settings handle request) state = earlier ++ event :: later →
        Timely settings handle.text request earlier event.call) ∧
      ∀ report, (runOn respond (up settings handle request) state).1 = .ok report →
        ∃ attached passed,
          Milestones settings handle.text request attached .finished passed ∧
            passed.Sublist (events respond (up settings handle request) state) := by
  have hheeds := up_heeds settings handle request
  constructor
  · intro earlier event later hevents
    exact hheeds.allowed_of_events hevents
  · intro report hrun
    obtain ⟨attached, hreached⟩ := hheeds.ends_of_ok hrun
    obtain ⟨passed, hpassed, hsublist⟩ := hreached.passed
    exact ⟨attached, passed, hpassed, hsublist⟩

/-- A container with a rule in each direction passes all milestones. -/
theorem up_in_order_of_ready :
    let respond := SimulatedHost.respond ⟨61000, 10⟩
    let handle : Handle := ⟨"container", by decide⟩
    let request : Request := { inbound := [⟨0, 8080⟩], outbound := [{}] }
    ∃ attached passed, Milestones {} handle.text request attached .finished passed ∧
      passed.Sublist (events respond (up {} handle request) .ready) := by
  intro respond handle request
  have hup : ∃ report, (runOn respond (up {} handle request) .ready).1 = .ok report :=
    isOk_iff.mp (by decide +kernel)
  obtain ⟨report, hrun⟩ := hup
  exact (up_in_order respond {} handle request .ready).2 report hrun

end ContainerLifecycle

end ContainerNetwork
