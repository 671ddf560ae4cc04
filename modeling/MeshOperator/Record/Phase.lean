import MeshOperator.Json.Basic

/-!
Phases of a record: how far the operator got with it.

A record without phase was never written to. `Phase.permits` says which changes of phase are
allowed: every one, except away from `unmanaged`.
-/

namespace MeshOperator

set_option autoImplicit false

inductive Phase where
  | created
  | reconciling
  | available
  | reconcileFailed
  /-- The operator has let go of the record, for good. -/
  | unmanaged
  deriving DecidableEq, Repr

namespace Phase

def text : Phase → String
  | .created => "Created"
  | .reconciling => "Reconciling"
  | .available => "Available"
  | .reconcileFailed => "ReconcileFailed"
  | .unmanaged => "Unmanaged"

def all : List Phase := [.created, .reconciling, .available, .reconcileFailed, .unmanaged]

def ofText? (s : String) : Option Phase := all.find? fun p => p.text = s

def alternatives : List (String × Phase) := all.map fun p => (p.text, p)

/-- May a record move from a phase, or from none, to another? -/
def permits (source : Option Phase) (target : Phase) : Bool :=
  source ≠ some .unmanaged || target = .unmanaged

end Phase

/-- Phase and error message of a record, kept in its status. -/
structure RecordStatus where
  phase : Option Phase
  errorMessage : String
  deriving DecidableEq, Repr

namespace RecordStatus

/-- An empty error message is left out. -/
def fields (s : RecordStatus) : List (String × Option Json) := [
  ("ErrorMessage", if s.errorMessage = "" then none else some (.str s.errorMessage)),
  ("Status", s.phase.map fun p => .str p.text)]

def toJson (s : RecordStatus) : Json := .present s.fields

/-- Older records carry the empty text for the phase of a record that was never written to. -/
def phase? (s : Option String) : Option (Option Phase) :=
  match s with
  | none | some "" => some none
  | some s => (Phase.ofText? s).map some

def ofJson? (v : Json) : Option RecordStatus := do
  let members ← v.asFields? ["Status", "ErrorMessage"]
  let phase ← Json.optional? Json.asString? (Assoc.find? "Status" members)
  let phase ← phase? phase
  let errorMessage ← Json.orDefault? "" Json.asString? (Assoc.find? "ErrorMessage" members)
  some ⟨phase, errorMessage⟩

end RecordStatus

end MeshOperator
