import ContainerNetwork.Proofs.Host.Obliging

/-!
# The networks of a host

A host keeps networks faithfully if it finds them by their names as it stores them, stores a new
one as it was asked for, and deletes one without the others.  The simulated host does so as long as
no faults are scripted and it gave every network its identifier itself.
-/

namespace ContainerNetwork

/-- What a lookup by name may be answered on a host with these networks. -/
def Network.Looked (name : String) (networks : Multiset Network) :
    Except HostFault Network → Prop
  | .ok network => network ∈ networks ∧ network.name = name
  | .error (.networkNotFound _) => ∀ network ∈ networks, network.name ≠ name
  | .error _ => False

/-- A host of which every sound state tells its networks apart by identifier and by name, and on
which the calls for networks succeed.  What a new network has beside its name and its subnets is
left to the host. -/
structure KeepsNetworks {σ : Type} (respond : (call : Call) → σ → call.Answer × σ)
    (networks : σ → Multiset Network) (sound : σ → Prop) : Prop where
  ids : ∀ state, sound state → ((networks state).map (·.id)).Nodup
  names : ∀ state, sound state → ((networks state).map (·.name)).Nodup
  networkByName : ∀ name state, sound state →
    let run := respond (.networkByName name) state
    sound run.2 ∧ Network.Looked name (networks state) run.1 ∧ networks run.2 = networks state
  createNetwork : ∀ (asked : Network) state, sound state →
    (∀ network ∈ networks state, network.name ≠ asked.name) →
    let run := respond (.createNetwork asked) state
    sound run.2 ∧ ∃ created : Network, run.1 = .ok created ∧ created.name = asked.name ∧
      created.subnets = asked.subnets ∧ networks run.2 = created ::ₘ networks state
  deleteNetwork : ∀ (network : Network) state, sound state →
    let run := respond (.deleteNetwork network) state
    sound run.2 ∧ run.1 = .ok () ∧
      networks run.2 = (networks state).filter fun stored => stored.id ≠ network.id

namespace KeepsNetworks

variable {σ : Type} {respond : (call : Call) → σ → call.Answer × σ}
variable {networks : σ → Multiset Network} {sound : σ → Prop} {state : σ} {network : Network}

theorem eq_of_name (hkeeps : KeepsNetworks respond networks sound) (hsound : sound state)
    {other : Network} (hother : other ∈ networks state) (hmem : network ∈ networks state)
    (hname : other.name = network.name) : other = network :=
  Multiset.inj_on_of_nodup_map (hkeeps.names state hsound) other hother network hmem hname

/-- The identifier of a network tells it from the others just as its name does. -/
theorem filter_id (hkeeps : KeepsNetworks respond networks sound) (hsound : sound state)
    (hmem : network ∈ networks state) :
    ((networks state).filter fun stored => stored.id ≠ network.id) =
      (networks state).filter fun stored => stored.name ≠ network.name := by
  apply Multiset.filter_congr
  intro stored hstored
  apply not_congr
  constructor
  · intro hid
    rw [Multiset.inj_on_of_nodup_map (hkeeps.ids state hsound) stored hstored network hmem hid]
  · intro hname
    rw [hkeeps.eq_of_name hsound hstored hmem hname]

end KeepsNetworks

namespace SimulatedHost

variable {host : SimulatedHost}

/-- A host without scripted faults that gave its networks their identifiers itself, a different one
to each, and of which no two networks have one name. -/
structure TellsNetworksApart (host : SimulatedHost) : Prop where
  faultless : host.faults = fun _ => []
  given : ∀ network ∈ host.networks, ∃ number ≤ host.createdNetworks,
    network.id = "net-" ++ Decimal.text number
  ids : (host.networks.map (·.id)).Nodup
  names : (host.networks.map (·.name)).Nodup

/-- The identifier of the next network is that of no other. -/
theorem TellsNetworksApart.id_ne (happart : TellsNetworksApart host) {network : Network}
    (hmem : network ∈ host.networks) :
    network.id ≠ "net-" ++ Decimal.text (host.createdNetworks + 1) := by
  obtain ⟨number, hle, hid⟩ := happart.given network hmem
  rw [hid]
  exact numbered_ne_next "net-" hle

/-- The simulated host keeps networks faithfully while no faults are scripted. -/
theorem keepsNetworks (range : ManagedRange) :
    KeepsNetworks (respond range) (fun host => ↑host.networks) TellsNetworksApart where
  ids _ happart := happart.ids
  names _ happart := happart.names
  networkByName name host happart := by
    rw [respond, answer_of_faultless happart.faultless]
    refine ⟨⟨happart.faultless, happart.given, happart.ids, happart.names⟩, ?_, rfl⟩
    simp only [record]
    cases hfind : host.networks.find? (·.name = name) with
    | none =>
        intro network hmem
        simpa using List.find?_eq_none.mp hfind network (Multiset.mem_coe.mp hmem)
    | some network =>
        have hname := List.find?_some hfind
        exact ⟨Multiset.mem_coe.mpr (List.mem_of_find?_eq_some hfind), of_decide_eq_true hname⟩
  createNetwork asked host happart habsent := by
    rw [respond, answer_of_faultless happart.faultless]
    refine ⟨⟨happart.faultless, ?_, ?_, ?_⟩, _, rfl, rfl, rfl,
      Multiset.coe_eq_coe.mpr (List.perm_append_singleton _ _)⟩
    · intro network hmem
      rcases List.mem_append.mp hmem with hmem | hmem
      · obtain ⟨number, hle, hid⟩ := happart.given network hmem
        exact ⟨number, Nat.le_succ_of_le hle, hid⟩
      · obtain rfl := List.mem_singleton.mp hmem
        exact ⟨host.createdNetworks + 1, Nat.le_refl _, rfl⟩
    · rw [List.map_append, List.nodup_append]
      refine ⟨happart.ids, List.nodup_singleton _, ?_⟩
      simpa [record] using fun network hmem => happart.id_ne hmem
    · rw [List.map_append, List.nodup_append]
      refine ⟨happart.names, List.nodup_singleton _, ?_⟩
      simpa [record] using habsent
  deleteNetwork network host happart := by
    rw [respond, answer_of_faultless happart.faultless]
    have hsublist := List.filter_sublist (p := fun stored : Network => stored.id ≠ network.id)
      (l := host.networks)
    refine ⟨⟨happart.faultless, ?_, ?_, ?_⟩, rfl, (Multiset.filter_coe _ _).symm⟩
    · exact fun stored hmem => happart.given stored (hsublist.mem hmem)
    · exact happart.ids.sublist (hsublist.map _)
    · exact happart.names.sublist (hsublist.map _)

end SimulatedHost

end ContainerNetwork
