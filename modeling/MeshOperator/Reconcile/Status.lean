import MeshOperator.Record.Basic
import MeshOperator.Reconcile.Error

/-!
Writing the status of a record.

The status goes through the status subresource, or, where there is none, with the whole record. If
the record has changed since it was read, it is read again and the status written once more.

`updateStatus` ends with its result and the record as the caller then holds it. After a success
that is the record as it was stored, with its new resource version. After a failure it is the last
record that was about to be written, or the one that could not be.
-/

namespace MeshOperator

set_option autoImplicit false

namespace Record

/-- The record with a new phase and message, if it may take on the phase. -/
def stage (phase : Phase) (message : String) (r : Record) : Except StatusError Record :=
  match r.phase with
  | some source =>
    if Phase.permits (some source) phase then .ok { r with status := some ⟨some phase, message⟩ }
    else .error (.forbidden source phase)
  | none => .ok { r with status := some ⟨some phase, message⟩ }

/-- Write the status, or all of a record whose kind has no status subresource. -/
def writeStatus (r : Record) : Procedure (Except StoreError Record) :=
  match r.toObject with
  | .error e => return .error e
  | .ok object => do
    match ← Procedure.ask (.replaceStatus object) with
    | .ok written => return ofObject written
    | .error (.notFound _) =>
      match ← Procedure.ask (.replace object) with
      | .ok written => return ofObject written
      | .error e => return .error e
    | .error e => return .error e

end Record

/-- The second attempt, on a record that was read anew. -/
def retryStatus (phase : Phase) (message : String) (fresh : Record) :
    Procedure (Except StatusError Unit × Record) :=
  match fresh.stage phase message with
  | .error e => return (.error e, fresh)
  | .ok staged => do
    match ← staged.writeStatus with
    | .ok written => return (.ok (), written)
    | .error (.conflict key) => return (.error (.repeatedConflict (.conflict key)), staged)
    | .error e => return (.error (.store e), staged)

def updateStatus (phase : Phase) (message : String) (record : Record) :
    Procedure (Except StatusError Unit × Record) :=
  match record.stage phase message with
  | .error e => return (.error e, record)
  | .ok staged => do
    match ← staged.writeStatus with
    | .ok written => return (.ok (), written)
    | .error (.conflict _) =>
      match ← Procedure.ask (.get staged.key) with
      | .error e => return (.error (.store e), staged)
      | .ok object =>
        match Record.ofObject object with
        | .error e => return (.error (.store e), staged)
        | .ok fresh => retryStatus phase message fresh
    | .error e => return (.error (.store e), staged)

end MeshOperator
