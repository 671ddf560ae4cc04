import MeshOperator.Object.Basic
import MeshOperator.Store.Report

/-!
Errors of object stores.
-/

namespace MeshOperator

set_option autoImplicit false

inductive StoreError where
  | notFound (key : ObjectKey)
  /-- The object was changed since it was read. -/
  | conflict (key : ObjectKey)
  | alreadyExists (key : ObjectKey)
  /-- The cluster serves no such kind. -/
  | unknownKind (type : TypeName)
  /-- The object cannot be addressed. -/
  | invalid (message : String)
  /-- Any other error that the server reports. -/
  | api (code : Nat) (reason message : String)
  /-- The server could not be asked, or its answer could not be understood. The causes are what the
  libraries below say about it, as far as that is known. -/
  | client (causes : List String)
  /-- An object could not be encoded or decoded. -/
  | serialization (causes : List String)
  deriving DecidableEq, Repr

namespace StoreError

def text : StoreError → String
  | .notFound key => key.display ++ " not found"
  | .conflict key => "conflict writing " ++ key.display ++ ": the object has been modified"
  | .alreadyExists key => key.display ++ " already exists"
  | .unknownKind type => "unknown kind " ++ type.apiVersion ++ " " ++ type.kind
  | .invalid message => "invalid object: " ++ message
  | .api code reason message =>
    "api error " ++ toString code ++ " (" ++ reason ++ "): " ++ message
  | .client _ => "kube client error"
  | .serialization _ => "object (de)serialization failed"

def causes : StoreError → List String
  | .client causes | .serialization causes => causes
  | _ => []

def layers (e : StoreError) : List String := e.text :: e.causes

def isNotFound : StoreError → Bool
  | .notFound _ => true
  | _ => false

def isConflict : StoreError → Bool
  | .conflict _ => true
  | _ => false

/-- The error for a report of the server about the object with this key. -/
def ofReport (key : ObjectKey) (report : Report) : StoreError :=
  if report.code = 404 then .notFound key
  else if report.code = 409 then
    if report.reason = "AlreadyExists" then .alreadyExists key else .conflict key
  else .api report.code report.reason report.message

end StoreError

namespace Managed

def ofJson (v : Json) : Except StoreError Managed :=
  match Object.ofJson? v with
  | none => .error (.serialization [])
  | some object =>
    match ofObject object with
    | .error defect => .error (.invalid defect.text)
    | .ok managed => .ok managed

end Managed

end MeshOperator
