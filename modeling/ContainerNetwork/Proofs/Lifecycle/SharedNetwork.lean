import ContainerNetwork.Proofs.Host.NetworkStore
import ContainerNetwork.Proofs.Lifecycle.TeardownFailures

/-!
# The shared network among the others

Creating the shared network leaves all networks that stand as they are, and deleting it takes away
the one of the configured name.  What is created is what is accepted later, so that doing either a
second time changes nothing.
-/

namespace ContainerNetwork.SharedNetwork

open Operation

section Runs

variable {σ : Type} (respond : (call : Call) → σ → call.Answer × σ)

/-- The network is looked for by its name, and created if there is none. -/
theorem create_runOn (settings : Settings) (state : σ) :
    runOn respond (create settings) state =
      match respond (.networkByName settings.networkName) state with
      | (.error (.networkNotFound _), looked) =>
          let created := respond (.createNetwork (descriptor settings)) looked
          (created.1.mapError .host, created.2)
      | (.error fault, looked) => (.error (.host fault), looked)
      | (.ok network, looked) =>
          (if network.subnets = [subnet settings] then .ok network
            else .error (.networkNameConflict settings.networkName network.subnets), looked) := by
  simp only [create, find?, runOn_bind, runOn_result, runOn_host, Plan.call, Program.run]
  rcases respond (.networkByName settings.networkName) state with ⟨fault | network, looked⟩
  · cases fault with
    | networkNotFound key => exact runOn_host _
    | _ => rfl
  · by_cases hsubnets : network.subnets = [subnet settings]
    · simp only [Except.mapError, runOn_pure, if_pos hsubnets]
    · simp only [Except.mapError, runOn_pure, if_neg hsubnets]
      rfl

theorem create_events (settings : Settings) (state : σ) :
    events respond (create settings) state =
      let looking := respond (.networkByName settings.networkName) state
      ⟨.networkByName settings.networkName, looking.1⟩ ::
        match looking with
        | (.error (.networkNotFound _), looked) =>
            [⟨.createNetwork (descriptor settings),
              (respond (.createNetwork (descriptor settings)) looked).1⟩]
        | _ => [] := by
  simp only [create, find?, events_bind, events_result, events_host, runOn_bind, runOn_result,
    runOn_host, Plan.call, Program.run, Plan.log]
  rcases respond (.networkByName settings.networkName) state with ⟨fault | network, looked⟩
  · cases fault with
    | networkNotFound key => rfl
    | _ => rfl
  · by_cases hsubnets : network.subnets = [subnet settings]
    · simp only [Except.mapError, runOn_pure, if_pos hsubnets]
      rfl
    · simp only [Except.mapError, runOn_pure, if_neg hsubnets]
      rfl

end Runs

/-- The ways that creating the network may go: its result, the networks after it and its calls. -/
inductive Created (settings : Settings) (before : Multiset Network) :
    Except Failure Network → Multiset Network → List Call → Prop
  | adopted {network : Network} (hmem : network ∈ before)
      (hname : network.name = settings.networkName)
      (hsubnets : network.subnets = [⟨settings.subnet, settings.gateway⟩]) :
      Created settings before (.ok network) before [.networkByName settings.networkName]
  | conflict {network : Network} (hmem : network ∈ before)
      (hname : network.name = settings.networkName)
      (hsubnets : network.subnets ≠ [⟨settings.subnet, settings.gateway⟩]) :
      Created settings before
        (.error (.networkNameConflict settings.networkName network.subnets)) before
        [.networkByName settings.networkName]
  | added {network : Network} (habsent : ∀ other ∈ before, other.name ≠ settings.networkName)
      (hname : network.name = settings.networkName)
      (hsubnets : network.subnets = [⟨settings.subnet, settings.gateway⟩]) :
      Created settings before (.ok network) (network ::ₘ before)
        [.networkByName settings.networkName, .createNetwork (descriptor settings)]

/-- The ways that deleting the network may go: the networks after it and its calls. -/
inductive Deleted (settings : Settings) (before : Multiset Network) :
    Multiset Network → List Call → Prop
  | absent (habsent : ∀ network ∈ before, network.name ≠ settings.networkName) :
      Deleted settings before before [.networkByName settings.networkName]
  | removed {network : Network} (hmem : network ∈ before)
      (hname : network.name = settings.networkName) :
      Deleted settings before (before.filter fun stored => stored.name ≠ settings.networkName)
        [.networkByName settings.networkName, .deleteNetwork network]

variable {σ : Type} {respond : (call : Call) → σ → call.Answer × σ}
variable {networks : σ → Multiset Network} {sound : σ → Prop} {state : σ}

theorem create_created (hkeeps : KeepsNetworks respond networks sound) (settings : Settings)
    (hsound : sound state) :
    let run := runOn respond (create settings) state
    sound run.2 ∧ Created settings (networks state) run.1 (networks run.2)
      ((events respond (create settings) state).map (·.call)) := by
  rw [create_runOn, create_events]
  obtain ⟨hsound, hlooked, hnetworks⟩ := hkeeps.networkByName settings.networkName state hsound
  generalize respond (.networkByName settings.networkName) state = looking at *
  obtain ⟨fault | network, looked⟩ := looking
  · cases fault with
    | networkNotFound key =>
        have habsent : ∀ other ∈ networks looked, other.name ≠ settings.networkName := by
          rw [hnetworks]
          exact hlooked
        obtain ⟨hsound, created, hresult, hname, hsubnets, hadded⟩ :=
          hkeeps.createNetwork (descriptor settings) looked hsound habsent
        refine ⟨hsound, ?_⟩
        simp only [hresult, hadded, hnetworks]
        exact .added hlooked hname hsubnets
    | _ => exact hlooked.elim
  · obtain ⟨hmem, hname⟩ := hlooked
    refine ⟨hsound, ?_⟩
    simp only [hnetworks]
    by_cases hsubnets : network.subnets = [subnet settings]
    · rw [if_pos hsubnets]
      exact .adopted hmem hname hsubnets
    · rw [if_neg hsubnets]
      exact .conflict hmem hname hsubnets

theorem delete_deleted (hkeeps : KeepsNetworks respond networks sound) (settings : Settings)
    (hsound : sound state) :
    let run := runOn respond (delete settings) state
    sound run.2 ∧ run.1 = .ok () ∧ Deleted settings (networks state) (networks run.2)
      ((events respond (delete settings) state).map (·.call)) := by
  rw [delete_runOn, delete_events]
  obtain ⟨hlookedSound, hlooked, hnetworks⟩ :=
    hkeeps.networkByName settings.networkName state hsound
  generalize respond (.networkByName settings.networkName) state = looking at *
  obtain ⟨fault | network, looked⟩ := looking
  · cases fault with
    | networkNotFound key =>
        refine ⟨hlookedSound, rfl, ?_⟩
        rw [hnetworks]
        exact .absent hlooked
    | _ => exact hlooked.elim
  · obtain ⟨hmem, hname⟩ := hlooked
    obtain ⟨hdeletedSound, hresult, hdeleted⟩ := hkeeps.deleteNetwork network looked hlookedSound
    refine ⟨hdeletedSound, congrArg (Except.mapError Failure.host) hresult, ?_⟩
    have hremoved : networks (respond (.deleteNetwork network) looked).2 =
        (networks state).filter fun stored => stored.name ≠ settings.networkName := by
      rw [hdeleted, hnetworks, hkeeps.filter_id hsound hmem, hname]
    rw [hremoved]
    exact .removed hmem hname

variable {settings : Settings} {before after : Multiset Network} {result : Except Failure Network}
variable {calls : List Call}

namespace Created

/-- Whatever comes of it, the networks that stood still stand. -/
theorem le (hcreated : Created settings before result after calls) : before ≤ after := by
  cases hcreated with
  | adopted | conflict => exact le_rfl
  | added => exact Multiset.le_cons_self _ _

theorem stands {network : Network}
    (hcreated : Created settings before (.ok network) after calls) :
    network ∈ after ∧ network.name = settings.networkName ∧
      network.subnets = [⟨settings.subnet, settings.gateway⟩] := by
  cases hcreated with
  | adopted hmem hname hsubnets => exact ⟨hmem, hname, hsubnets⟩
  | added _ hname hsubnets => exact ⟨Multiset.mem_cons_self _ _, hname, hsubnets⟩

/-- Where a network has the configured name, its subnets decide. -/
theorem of_mem (hcreated : Created settings before result after calls)
    (hnames : (before.map (·.name)).Nodup) {network : Network} (hmem : network ∈ before)
    (hname : network.name = settings.networkName) :
    result = (if network.subnets = [⟨settings.subnet, settings.gateway⟩] then .ok network
        else .error (.networkNameConflict settings.networkName network.subnets)) ∧
      after = before ∧ calls = [.networkByName settings.networkName] := by
  have hsame {other : Network} (hother : other ∈ before)
      (hotherName : other.name = settings.networkName) : other = network :=
    Multiset.inj_on_of_nodup_map hnames other hother network hmem (hotherName.trans hname.symm)
  cases hcreated with
  | adopted hother hotherName hsubnets =>
      obtain rfl := hsame hother hotherName
      exact ⟨(if_pos hsubnets).symm, rfl, rfl⟩
  | conflict hother hotherName hsubnets =>
      obtain rfl := hsame hother hotherName
      exact ⟨(if_neg hsubnets).symm, rfl, rfl⟩
  | added habsent => exact absurd hname (habsent network hmem)

theorem ok_iff (hcreated : Created settings before result after calls)
    (hnames : (before.map (·.name)).Nodup) :
    (∃ network, result = .ok network) ↔
      ∀ network ∈ before, network.name = settings.networkName →
        network.subnets = [⟨settings.subnet, settings.gateway⟩] := by
  constructor
  · rintro ⟨found, rfl⟩ network hmem hname
    by_contra hsubnets
    have hresult := (hcreated.of_mem hnames hmem hname).1
    rw [if_neg hsubnets] at hresult
    cases hresult
  · intro hsubnets
    cases hcreated with
    | adopted => exact ⟨_, rfl⟩
    | conflict hmem hname hother => exact absurd (hsubnets _ hmem hname) hother
    | added => exact ⟨_, rfl⟩

/-- A network that is added is told from the others by the name that none of them has. -/
theorem filter_of_absent (hcreated : Created settings before result after calls)
    (habsent : ∀ network ∈ before, network.name ≠ settings.networkName) :
    (after.filter fun network => network.name ≠ settings.networkName) = before := by
  cases hcreated with
  | adopted hmem hname | conflict hmem hname => exact absurd hname (habsent _ hmem)
  | added _ hname =>
      rw [Multiset.filter_cons_of_neg (s := before) (not_not.mpr hname)]
      exact Multiset.filter_eq_self.mpr habsent

end Created

theorem Deleted.eq_filter (hdeleted : Deleted settings before after calls) :
    after = before.filter fun network => network.name ≠ settings.networkName := by
  cases hdeleted with
  | absent habsent => exact (Multiset.filter_eq_self.mpr habsent).symm
  | removed => rfl

theorem Deleted.of_absent (hdeleted : Deleted settings before after calls)
    (habsent : ∀ network ∈ before, network.name ≠ settings.networkName) :
    after = before ∧ calls = [.networkByName settings.networkName] := by
  cases hdeleted with
  | absent => exact ⟨rfl, rfl⟩
  | removed hmem hname => exact absurd hname (habsent _ hmem)

section Statements

variable (respond : (call : Call) → σ → call.Answer × σ) (networks : σ → Multiset Network)
variable (sound : σ → Prop) (settings : Settings) (state : σ)

/-- What creating the network does on a host, and what creating it again does. -/
structure Conserves : Prop where
  sound_after : sound (runOn respond (create settings) state).2
  keeps : networks state ≤ networks (runOn respond (create settings) state).2
  succeeds_iff : (∃ network, (runOn respond (create settings) state).1 = .ok network) ↔
    ∀ network ∈ networks state, network.name = settings.networkName →
      network.subnets = [⟨settings.subnet, settings.gateway⟩]
  conflicts : ∀ network ∈ networks state, network.name = settings.networkName →
    network.subnets ≠ [⟨settings.subnet, settings.gateway⟩] →
    (runOn respond (create settings) state).1 =
        .error (.networkNameConflict settings.networkName network.subnets) ∧
      networks (runOn respond (create settings) state).2 = networks state
  stands : ∀ network, (runOn respond (create settings) state).1 = .ok network →
    network ∈ networks (runOn respond (create settings) state).2 ∧
      network.name = settings.networkName ∧ network.subnets = [⟨settings.subnet, settings.gateway⟩]
  /-- Wherever the network that was returned still stands, creating it is only a lookup. -/
  again : ∀ network, (runOn respond (create settings) state).1 = .ok network →
    ∀ later, sound later → network ∈ networks later →
      (runOn respond (create settings) later).1 = .ok network ∧
        networks (runOn respond (create settings) later).2 = networks later ∧
        (events respond (create settings) later).map (·.call) =
          [.networkByName settings.networkName]

/-- What deleting the network does on a host, and what deleting it again does. -/
structure Removes : Prop where
  sound_after : sound (runOn respond (delete settings) state).2
  succeeds : (runOn respond (delete settings) state).1 = .ok ()
  removes : networks (runOn respond (delete settings) state).2 =
    (networks state).filter fun network => network.name ≠ settings.networkName
  /-- As long as no other network got the name, deleting it is only a lookup. -/
  again : ∀ later, sound later →
    networks later = networks (runOn respond (delete settings) state).2 →
    (runOn respond (delete settings) later).1 = .ok () ∧
      networks (runOn respond (delete settings) later).2 = networks later ∧
      (events respond (delete settings) later).map (·.call) =
        [.networkByName settings.networkName]

end Statements

section Hosts

variable (hkeeps : KeepsNetworks respond networks sound) (settings : Settings)
include hkeeps

theorem create_conserves (hsound : sound state) :
    Conserves respond networks sound settings state := by
  obtain ⟨hafter, hcreated⟩ := create_created hkeeps settings hsound
  have hnames := hkeeps.names state hsound
  refine ⟨hafter, hcreated.le, hcreated.ok_iff hnames, ?_, ?_, ?_⟩
  · intro network hmem hname hsubnets
    obtain ⟨hresult, hsame, _⟩ := hcreated.of_mem hnames hmem hname
    exact ⟨hresult.trans (if_neg hsubnets), hsame⟩
  · intro network hresult
    rw [hresult] at hcreated
    exact hcreated.stands
  · intro network hresult later hlater hmem
    rw [hresult] at hcreated
    obtain ⟨_, hname, hsubnets⟩ := hcreated.stands
    obtain ⟨_, hagain⟩ := create_created hkeeps settings hlater
    obtain ⟨hfound, hsame⟩ := hagain.of_mem (hkeeps.names later hlater) hmem hname
    exact ⟨hfound.trans (if_pos hsubnets), hsame⟩

theorem delete_removes (hsound : sound state) :
    Removes respond networks sound settings state := by
  obtain ⟨hafter, hsucceeds, hdeleted⟩ := delete_deleted hkeeps settings hsound
  refine ⟨hafter, hsucceeds, hdeleted.eq_filter, ?_⟩
  intro later hlater hsame
  obtain ⟨_, hsucceedsAgain, hagain⟩ := delete_deleted hkeeps settings hlater
  refine ⟨hsucceedsAgain, hagain.of_absent ?_⟩
  intro network hmem
  rw [hsame, hdeleted.eq_filter] at hmem
  exact (Multiset.mem_filter.mp hmem).2

/-- Creating the shared network keeps all networks, adopts only one that stands as configured and
is done once; deleting it takes away the network of its name and is done once; and the two together
leave the networks as they were if the name was free. -/
theorem manages_one_network (hsound : sound state) :
    Conserves respond networks sound settings state ∧
      Removes respond networks sound settings state ∧
      ((∀ network ∈ networks state, network.name ≠ settings.networkName) →
        networks (runOn respond (delete settings) (runOn respond (create settings) state).2).2 =
          networks state) := by
  refine ⟨create_conserves hkeeps settings hsound, delete_removes hkeeps settings hsound, ?_⟩
  intro habsent
  obtain ⟨hafter, hcreated⟩ := create_created hkeeps settings hsound
  rw [(delete_removes hkeeps settings hafter).removes]
  exact hcreated.filter_of_absent habsent

end Hosts

/-- A host with a network that is not the shared one. -/
def neighboured : SimulatedHost where
  networks := [{ id := "net-1", name := "lan" }]
  createdNetworks := 1

theorem neighboured_tellsNetworksApart : neighboured.TellsNetworksApart where
  faultless := rfl
  given network hmem := by
    obtain rfl := List.mem_singleton.mp hmem
    exact ⟨1, Nat.le_refl 1, rfl⟩
  ids := List.nodup_singleton _
  names := List.nodup_singleton _

/-- Beside another network, the shared one is created and deleted again. -/
theorem manages_one_network_of_neighboured :
    let respond := SimulatedHost.respond ⟨40000, 5000⟩
    let created := runOn respond (create {}) neighboured
    (∃ network, created.1 = .ok network ∧ network.id = "net-2") ∧
      (runOn respond (create {}) created.2).1 = created.1 ∧
      created.2.networks.length = 2 ∧
      (↑(runOn respond (delete {}) created.2).2.networks : Multiset Network) =
        ↑neighboured.networks := by
  intro respond created
  obtain ⟨hcreate, _, hrestored⟩ :=
    manages_one_network (SimulatedHost.keepsNetworks ⟨40000, 5000⟩) {}
      neighboured_tellsNetworksApart
  have hnew : created.1 = .ok { descriptor {} with id := "net-2" } := rfl
  have hagain := hcreate.again _ hnew created.2 hcreate.sound_after (hcreate.stands _ hnew).1
  refine ⟨⟨_, hnew, rfl⟩, hagain.1.trans hnew.symm, rfl, hrestored ?_⟩
  decide

end ContainerNetwork.SharedNetwork
