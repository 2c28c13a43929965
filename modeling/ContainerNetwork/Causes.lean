import ContainerNetwork.Text.Pieces

/-!
# Collected failures

A teardown attempts all of its steps and collects what fails.  No failure is a success, a single
one stands for itself, and several are combined.
-/

namespace ContainerNetwork

/-- Failures in the order in which they were recorded. -/
structure Causes (ε : Type) where
  toList : List ε := []

namespace Causes

variable {ε : Type}

def push (causes : Causes ε) (failure : ε) : Causes ε := ⟨causes.toList ++ [failure]⟩

/-- Adds the failure of a step, if it failed. -/
def record (causes : Causes ε) (result : Except ε Unit) : Causes ε :=
  match result with
  | .ok () => causes
  | .error failure => causes.push failure

def ofResults (results : List (Except ε Unit)) : Causes ε := results.foldl record {}

/-- The causes as one result; several are put together by `combine`. -/
def result (combine : Causes ε → ε) (causes : Causes ε) : Except ε Unit :=
  match causes.toList with
  | [] => .ok ()
  | [failure] => .error failure
  | _ => .error (combine causes)

def message (text : ε → String) (causes : Causes ε) : String :=
  Pieces.join ", " (causes.toList.map text)

end Causes

end ContainerNetwork
