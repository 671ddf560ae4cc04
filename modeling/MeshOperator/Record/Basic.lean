import MeshOperator.Object.Kind
import MeshOperator.Record.Declaration
import MeshOperator.Record.Phase
import MeshOperator.Store.Error

/-!
Records: the declaration of a control plane as an object in the cluster, with the status that the
operator keeps of it.

`Record.ofObject` and `Record.toObject` go through the encoding of both, so an object that became
a record and an object again has only the fields that a record knows.
-/

namespace MeshOperator

set_option autoImplicit false

/-- The finalizer by which the operator holds on to a record. Its spelling stays as it is:
records in clusters carry it. -/
def operatorFinalizer : String := "linkerd2-operator.finializer.linkerd.io"

structure Record where
  metadata : Metadata
  spec : Declaration
  status : Option RecordStatus

namespace Record

def type : TypeName := Kind.record.type

def fields (r : Record) : List (String × Option Json) := [
  ("apiVersion", some (.str type.apiVersion)),
  ("kind", some (.str type.kind)),
  ("metadata", some r.metadata.toJson),
  ("spec", some r.spec.toJson),
  ("status", r.status.map (·.toJson))]

def toJson (r : Record) : Json := .present r.fields

/-- The fields of a record; in a list none may be left out. -/
def fields? : Json → Option Json.Members
  | .arr [metadata, spec, status] =>
    some [("metadata", metadata), ("spec", spec), ("status", status)]
  | .obj members => some members
  | _ => none

def ofJson? (v : Json) : Option Record := do
  let members ← fields? v
  let metadata ← (Assoc.find? "metadata" members).bind Metadata.ofJson?
  let spec ← (Assoc.find? "spec" members).bind Declaration.ofJson?
  let status ← Json.optionalField? members "status" RecordStatus.ofJson?
  some ⟨metadata, spec, status⟩

def toObject (r : Record) : Except StoreError Object :=
  match Object.ofJson? r.toJson with
  | some object => .ok object
  | none => .error (.serialization [])

/-- An object without type may be a record too. -/
def ofObject (object : Object) : Except StoreError Record :=
  match ofJson? object.toJson with
  | some record => .ok record
  | none => .error (.serialization [])

/-- The key of a record; one without a name goes by the start of the name to be generated. -/
def key (r : Record) : ObjectKey where
  apiVersion := type.apiVersion
  kind := type.kind
  ns := r.metadata.ns
  name := (r.metadata.name.or r.metadata.generateName).getD ""

/-- The phase; none while the record was never written to. -/
def phase (r : Record) : Option Phase := r.status.bind (·.phase)

def errorMessage (r : Record) : String := (r.status.map (·.errorMessage)).getD ""

end Record

end MeshOperator
