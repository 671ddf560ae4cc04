import MeshOperator.Reconcile.Error

/-!
Components: parts of a control plane that can be brought to their desired state.

Any procedure under a name is a component. A subsystem becomes one by building and syncing its
productions in order, up to the first error.
-/

namespace MeshOperator

set_option autoImplicit false

structure ComponentReport where
  created : Nat
  updated : Nat
  unchanged : Nat
  deleted : Nat
  absent : Nat
  deriving DecidableEq, Repr

namespace ComponentReport

def none : ComponentReport := ⟨0, 0, 0, 0, 0⟩

def record (r : ComponentReport) : SyncOutcome → ComponentReport
  | .created => { r with created := r.created + 1 }
  | .updated => { r with updated := r.updated + 1 }
  | .unchanged => { r with unchanged := r.unchanged + 1 }
  | .deleted => { r with deleted := r.deleted + 1 }
  | .absent => { r with absent := r.absent + 1 }

def total (r : ComponentReport) : Nat :=
  r.created + r.updated + r.unchanged + r.deleted + r.absent

end ComponentReport

structure Component where
  name : String
  reconcile : Configuration → Attempt ComponentError ComponentReport

def Subsystem.reconcileOne (s : Subsystem) (c : Configuration) (p : Production) :
    Attempt ComponentError SyncOutcome :=
  match p.build c with
  | .error e => throw (.build p.resource e)
  | .ok resource => ExceptT.adapt ComponentError.sync (ensure resource (s.effectiveState p))

/-- Build and sync the resources of some productions one after another. -/
def Subsystem.reconcileProductions (s : Subsystem) (c : Configuration) :
    List Production → ComponentReport → Attempt ComponentError ComponentReport
  | [], report => return report
  | p :: rest, report => do
    let outcome ← s.reconcileOne c p
    s.reconcileProductions c rest (report.record outcome)

def Component.ofSubsystem (s : Subsystem) : Component where
  name := s.name
  reconcile := fun c => s.reconcileProductions c s.productions .none

end MeshOperator
