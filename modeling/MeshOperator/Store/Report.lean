import MeshOperator.Json.Basic

/-!
Error reports: what a server says about a request that it refuses.
-/

namespace MeshOperator

set_option autoImplicit false

structure Report where
  code : Nat
  reason : String
  message : String
  deriving DecidableEq, Repr

namespace Report

/-- The members of a report, which may also be given as a list of exactly these four values. -/
def members? : Json → Option Json.Members
  | .arr [status, message, reason, code] =>
    some [("status", status), ("message", message), ("reason", reason), ("code", code)]
  | .obj members => some members
  | _ => none

/-- Status and code are required. -/
def ofJson? (v : Json) : Option Report := do
  let members ← members? v
  let _ ← (Assoc.find? "status" members).bind Json.asString?
  let message ← Json.fieldOr? members "message" "" Json.asString?
  let reason ← Json.fieldOr? members "reason" "" Json.asString?
  let code ← (Assoc.find? "code" members).bind Json.asNat16?
  some ⟨code, reason, message⟩

end Report

end MeshOperator
