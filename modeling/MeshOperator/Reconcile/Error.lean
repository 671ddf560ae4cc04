import MeshOperator.Catalogue.Subsystem
import MeshOperator.Record.Phase
import MeshOperator.Sync.Ensure

/-!
Errors of reconciliation.

An error has layers: messages from the outermost context to the root cause. An alternative that
only passes an inner error on adds no layer. `chain` is the text that is shown and that is kept in
the status of a record.
-/

namespace MeshOperator

set_option autoImplicit false

def chain (layers : List String) : String := ": ".intercalate layers

inductive ComponentError where
  | build (resource : String) (cause : BuildError)
  | sync (cause : SyncError)
  deriving DecidableEq, Repr

def ComponentError.layers : ComponentError → List String
  | .build resource cause => ("could not build " ++ resource) :: cause.layers
  | .sync cause => cause.layers

inductive StatusError where
  /-- The record had changed, and again after it had been read anew. -/
  | repeatedConflict (cause : StoreError)
  /-- The record may not leave its phase. -/
  | forbidden (source target : Phase)
  | store (cause : StoreError)
  deriving DecidableEq, Repr

def StatusError.layers : StatusError → List String
  | .repeatedConflict cause => "status write conflicted again after refetch" :: cause.layers
  | .forbidden source target => ["state " ++ source.text ++ " cannot move to " ++ target.text]
  | .store cause => cause.layers

inductive ReconcileError where
  | store (key : ObjectKey) (cause : StoreError)
  | component (name : String) (cause : ComponentError)
  | status (phase : Phase) (cause : StatusError)
  | build (cause : ResolveError)
  deriving DecidableEq, Repr

namespace ReconcileError

def layers : ReconcileError → List String
  | .store key cause => ("failed to read record " ++ key.display) :: cause.layers
  | .component name cause => ("failed to reconcile component " ++ name) :: cause.layers
  | .status phase cause => ("failed to set status " ++ phase.text) :: cause.layers
  | .build cause => ["record cannot be resolved", cause.text]

def text (e : ReconcileError) : String := chain e.layers

def label : ReconcileError → String
  | .store _ _ => "store"
  | .component _ _ => "component"
  | .status _ _ => "status"
  | .build _ => "build"

def component? : ReconcileError → Option String
  | .component name _ => some name
  | _ => none

end ReconcileError

end MeshOperator
