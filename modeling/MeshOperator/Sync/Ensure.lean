import MeshOperator.Existence
import MeshOperator.Store.Procedure
import MeshOperator.Sync.Compare

/-!
Bringing one object of the cluster to its desired state.

`ensure` creates an object that is missing, overwrites one that lacks something, deletes one that
is not wanted, and leaves everything else alone. It ends with what it did.
-/

namespace MeshOperator

set_option autoImplicit false

inductive SyncOutcome where
  | created
  | updated
  | unchanged
  | deleted
  /-- Not wanted, and not there. -/
  | absent
  deriving DecidableEq, Repr

namespace SyncOutcome

def text : SyncOutcome → String
  | .created => "created"
  | .updated => "updated"
  | .unchanged => "unchanged"
  | .deleted => "deleted"
  | .absent => "absent"

def changed : SyncOutcome → Bool
  | .created | .updated | .deleted => true
  | .unchanged | .absent => false

end SyncOutcome

/-- A store error with what was being done, and the object that it happened on. -/
structure SyncError where
  verb : String
  key : ObjectKey
  cause : StoreError
  deriving DecidableEq, Repr

def SyncError.layers (e : SyncError) : List String :=
  ("failed to " ++ e.verb ++ " " ++ e.key.display) :: e.cause.layers

/-- Does the live object have all that the desired one asks for? -/
def Object.isSettled (desired live : Object) : Bool :=
  desired.toJson.strip.isSubset live.toJson

def ensurePresent (resource : Managed) : Attempt SyncError SyncOutcome := do
  match ← Attempt.find (SyncError.mk "get" resource.key) resource.key with
  | none =>
    let _ ← Attempt.ask (SyncError.mk "create" resource.key) (.create resource.object)
    return .created
  | some live =>
    if resource.object.isSettled live then return .unchanged
    else
      let _ ← Attempt.ask (SyncError.mk "update" resource.key)
        (.replace (resource.object.overlay live))
      return .updated

/-- Another client may delete the object first. -/
def ensureAbsent (key : ObjectKey) : Attempt SyncError SyncOutcome := do
  match ← Attempt.find (SyncError.mk "get" key) key with
  | none => return .absent
  | some _ =>
    ExceptT.mk (Dialogue.ask (.delete key) fun answer => .done (match answer with
      | .ok () => .ok .deleted
      | .error (.notFound _) => .ok .absent
      | .error e => .error ⟨"delete", key, e⟩))

def ensure (resource : Managed) : Existence → Attempt SyncError SyncOutcome
  | .present => ensurePresent resource
  | .absent => ensureAbsent resource.key

end MeshOperator
