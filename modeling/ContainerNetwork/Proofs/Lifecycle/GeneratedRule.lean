import ContainerNetwork.Proofs.Lifecycle.Creation

/-!
# Which generated rule is closed

The host makes a rule for the port of an attached endpoint.  The port is that of the first allocator
of its kind, and only then is it asked whether it is usable.  An endpoint whose first port is not
usable is therefore refused, even where another of its allocators is usable.  On all other endpoints
the rule of the first usable allocator is looked for and deleted.
-/

namespace ContainerNetwork

open Operation

/-- The first item of a list that is selected. -/
def IsFirst {α : Type} (select : α → Prop) (items : List α) (first : α) : Prop :=
  ∃ before after, items = before ++ first :: after ∧ select first ∧ ∀ item ∈ before, ¬select item

namespace IsFirst

variable {α : Type} {select other : α → Prop} {items : List α} {first : α}

theorem iff_find? [DecidablePred select] :
    IsFirst select items first ↔ items.find? (fun item => select item) = some first := by
  simp only [List.find?_eq_some_iff_append, IsFirst, decide_eq_true_iff, Bool.not_eq_true',
    decide_eq_false_iff_not]
  constructor
  · rintro ⟨before, after, hitems, hselect, hbefore⟩
    exact ⟨hselect, before, after, hitems, hbefore⟩
  · rintro ⟨hselect, before, after, hitems, hbefore⟩
    exact ⟨before, after, hitems, hselect, hbefore⟩

theorem mem (hfirst : IsFirst select items first) : first ∈ items := by
  obtain ⟨before, after, rfl, _, _⟩ := hfirst
  exact List.mem_append_right _ List.mem_cons_self

theorem selected (hfirst : IsFirst select items first) : select first := by
  obtain ⟨_, _, _, hselect, _⟩ := hfirst
  exact hselect

theorem unique {second : α} (hfirst : IsFirst select items first)
    (hsecond : IsFirst select items second) : first = second := by
  classical
  exact Option.some.inj ((iff_find?.mp hfirst).symm.trans (iff_find?.mp hsecond))

/-- The first of some items is also the first of any fewer that it is among. -/
theorem narrow (hfirst : IsFirst select items first) (hfewer : ∀ item, other item → select item)
    (hother : other first) : IsFirst other items first := by
  obtain ⟨before, after, hitems, _, hbefore⟩ := hfirst
  exact ⟨before, after, hitems, hother, fun item hitem => mt (hfewer item) (hbefore item hitem)⟩

end IsFirst

namespace Allocator

def IsEndpointPort (allocator : Allocator) : Prop := allocator.kind = endpointPort

instance : DecidablePred IsEndpointPort := fun _ => inferInstanceAs (Decidable (_ = _))

/-- An allocator that holds the port of an endpoint and names its compartment and the port. -/
def IsUsable (allocator : Allocator) : Prop :=
  allocator.IsEndpointPort ∧ allocator.compartment ≠ 0 ∧ allocator.portGuid ≠ ""

end Allocator

namespace Endpoint

variable {endpoint : Endpoint} {allocator : Allocator}

/-- The port of an endpoint is chosen by its kind, and has to be usable then. -/
theorem port?_eq_some_iff : endpoint.port? = some allocator ↔
    IsFirst Allocator.IsEndpointPort endpoint.resources.allocators allocator ∧
      allocator.IsUsable := by
  have hfirst : endpoint.resources.allocators.find? (·.kind = Allocator.endpointPort) =
      some allocator ↔ IsFirst Allocator.IsEndpointPort endpoint.resources.allocators allocator :=
    IsFirst.iff_find?.symm
  rw [port?, Option.filter_eq_some_iff, hfirst, decide_eq_true_iff, String.isEmpty_iff]
  constructor
  · rintro ⟨hport, husable⟩
    exact ⟨hport, hport.selected, husable⟩
  · rintro ⟨hport, _, husable⟩
    exact ⟨hport, husable⟩

/-- If an allocator of the endpoint is usable, then the first that holds a port is. -/
def LeadsWithUsable (endpoint : Endpoint) : Prop :=
  (∃ usable ∈ endpoint.resources.allocators, usable.IsUsable) →
    ∃ first, IsFirst Allocator.IsEndpointPort endpoint.resources.allocators first ∧ first.IsUsable

theorem leadsWithUsable_iff : endpoint.LeadsWithUsable ↔
    (endpoint.port? = none → ∀ allocator ∈ endpoint.resources.allocators, ¬allocator.IsUsable) := by
  rw [LeadsWithUsable, ← not_imp_not, not_exists, not_exists]
  apply imp_congr
  · simp only [Option.eq_none_iff_forall_ne_some, ne_eq, port?_eq_some_iff]
  · simp only [not_and]

end Endpoint

namespace EndpointLifecycle

/-- The rule of the first usable allocator is closed: it is looked for and, once it shows, deleted.
An endpoint is refused, without any call, exactly if none of its allocators is usable. -/
structure ClosesFirstUsable (endpoint : Endpoint) (log : List Event)
    (result : Except Failure Unit) : Prop where
  refused_iff :
    result = .error (.invalidEndpointAllocators endpoint.id endpoint.resources.allocators) ↔
      ∀ allocator ∈ endpoint.resources.allocators, ¬allocator.IsUsable
  untouched : (∀ allocator ∈ endpoint.resources.allocators, ¬allocator.IsUsable) → log = []
  sought : ∀ first, IsFirst Allocator.IsUsable endpoint.resources.allocators first →
    Sought ("Compartment " ++ Decimal.text first.compartment.toNat ++ " - " ++ first.portGuid) 0 3
      log result

variable {endpoint : Endpoint} {log : List Event} {result : Except Failure Unit}

theorem Sought.not_refused {rule id : String} {wait lookups : Nat} {allocators : List Allocator}
    (hsought : Sought rule wait lookups log result) :
    result ≠ .error (.invalidEndpointAllocators id allocators) := by
  cases hsought with
  | @found missed deleted hmissed => cases deleted <;> exact nofun
  | failed missed hmissed => exact nofun
  | missing => exact nofun

theorem Closing.closesFirstUsable_iff (hclosing : Closing endpoint .firewall log result) :
    ClosesFirstUsable endpoint log result ↔ endpoint.LeadsWithUsable := by
  rw [Endpoint.leadsWithUsable_iff]
  cases hclosing with
  | unusable hport =>
      constructor
      · intro hcloses _
        exact hcloses.refused_iff.mp rfl
      · intro hnone
        exact
          { refused_iff := iff_of_true rfl (hnone hport)
            untouched := fun _ => rfl
            sought := fun first hfirst => absurd hfirst.selected (hnone hport first hfirst.mem) }
  | @sought port _ _ hport hsought =>
      obtain ⟨hfirst, husable⟩ := Endpoint.port?_eq_some_iff.mp hport
      have hsome : ¬∀ allocator ∈ endpoint.resources.allocators, ¬allocator.IsUsable :=
        fun hnone => hnone port hfirst.mem husable
      constructor
      · intro _ hnone
        rw [hport] at hnone
        cases hnone
      · intro _
        refine ⟨iff_of_false hsought.not_refused hsome, fun hnone => absurd hnone hsome, ?_⟩
        intro first hother
        -- The first port is usable, so that it is the first usable allocator.
        have hsame := hother.unique (hfirst.narrow (fun _ hitem => hitem.1) husable)
        exact hsame ▸ hsought

/-- Whatever the host answers, the rule of the first usable allocator is closed exactly if no usable
allocator comes after a port that is not. -/
theorem closes_first_usable_iff {σ : Type} (respond : (call : Call) → σ → call.Answer × σ)
    (endpoint : Endpoint) (state : σ) :
    ClosesFirstUsable endpoint (events respond (closeGeneratedRule endpoint) state)
      (runOn respond (closeGeneratedRule endpoint) state).1 ↔ endpoint.LeadsWithUsable :=
  ((closeGeneratedRule_traces endpoint).run respond state).closesFirstUsable_iff

/-- An endpoint with two ports, of which the first names no compartment, is refused without a look
at the rule of the second. -/
theorem usable_port_refused_of_second :
    let unusable : Allocator := ⟨1, 0, "abc"⟩
    let usable : Allocator := ⟨1, 4, "abc-123"⟩
    let endpoint : Endpoint := { id := "ep-1", name := "c1", resources := ⟨[unusable, usable]⟩ }
    let host : SimulatedHost := { generatedRules := [usable.generatedRule] }
    let respond := SimulatedHost.respond ⟨40000, 5000⟩
    usable.IsUsable ∧ usable ∈ endpoint.resources.allocators ∧
      (respond (.ruleExists usable.generatedRule) host).1 = .ok true ∧
      (runOn respond (closeGeneratedRule endpoint) host).1 =
        .error (.invalidEndpointAllocators "ep-1" [unusable, usable]) ∧
      events respond (closeGeneratedRule endpoint) host = [] := by
  intro unusable usable endpoint host respond
  exact ⟨⟨rfl, by decide, by decide⟩, by decide, by decide +kernel, rfl, rfl⟩

end EndpointLifecycle

end ContainerNetwork
