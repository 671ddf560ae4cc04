/-!
The scope of the operator: whether it watches records of its own namespace or of all.
-/

namespace MeshOperator

set_option autoImplicit false

inductive ScopeError where
  | missingPodNamespace
  | foreignWatchNamespace (watch pod : String)
  deriving DecidableEq, Repr

def ScopeError.text : ScopeError → String
  | .missingPodNamespace => "POD_NAMESPACE must be set"
  | .foreignWatchNamespace watch pod =>
    "WATCH_NAMESPACE (" ++ watch ++ ") must be empty or equal to POD_NAMESPACE (" ++ pod ++ ")"

structure Scope where
  podNamespace : String
  /-- None: all namespaces. -/
  watchNamespace : Option String
  deriving DecidableEq, Repr

namespace Scope

/-- An empty name counts as none. -/
def nonempty (s : Option String) : Option String := s.filter (· ≠ "")

/-- The operator watches its own namespace or all, never another one. -/
def resolve (podNamespace watchNamespace : Option String) : Except ScopeError Scope :=
  match nonempty podNamespace with
  | none => .error .missingPodNamespace
  | some pod =>
    match nonempty watchNamespace with
    | none => .ok ⟨pod, none⟩
    | some watch =>
      if watch = pod then .ok ⟨pod, some watch⟩ else .error (.foreignWatchNamespace watch pod)

end Scope

end MeshOperator
