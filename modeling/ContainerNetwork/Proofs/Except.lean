/-!
# Results that may be failures

How a computation that may fail ends is known from how its parts end.
-/

namespace ContainerNetwork

@[simp]
theorem ok_bind {ε α β : Type} (value : α) (next : α → Except ε β) :
    (Except.ok value >>= next) = next value := rfl

theorem bind_eq_ok_iff {ε α β : Type} {result : Except ε α} {next : α → Except ε β} {value : β} :
    (result >>= next) = .ok value ↔ ∃ middle, result = .ok middle ∧ next middle = .ok value := by
  cases result with
  | error failure => simp [bind, Except.bind]
  | ok middle => simp

@[simp]
theorem mapError_ok {ε ε' α : Type} (f : ε → ε') (value : α) :
    (Except.ok value : Except ε α).mapError f = .ok value := rfl

@[simp]
theorem mapError_error {ε ε' α : Type} (f : ε → ε') (failure : ε) :
    (Except.error failure : Except ε α).mapError f = .error (f failure) := rfl

theorem mapError_eq_ok {ε ε' α : Type} {f : ε → ε'} {result : Except ε α} {value : α}
    (hresult : result.mapError f = .ok value) : result = .ok value := by
  cases result with
  | error failure => cases hresult
  | ok found => exact congrArg _ (Except.ok.inj hresult)

theorem isOk_iff {ε α : Type} {result : Except ε α} :
    Except.isOk result ↔ ∃ value, result = .ok value := by
  cases result with
  | error failure => simp [Except.isOk, Except.toBool]
  | ok value => simp [Except.isOk, Except.toBool]

end ContainerNetwork
