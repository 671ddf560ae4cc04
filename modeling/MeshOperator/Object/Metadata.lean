import MeshOperator.Json.Canonical
import MeshOperator.ReadAll
import MeshOperator.Timestamp

/-!
Object metadata: name, namespace (`ns`), labels, concurrency token, ownership, finalizers.

`Metadata.ofJson?` drops unknown fields, takes a `null` field for an absent one and fails on a
field of another type. `Metadata.toJson` writes the fields that are set, empty maps and lists
among them.
-/

namespace MeshOperator

set_option autoImplicit false

namespace Json

def textField? (members : Members) (name : String) : Option String :=
  (optionalField? members name asString?).map fun s => s.getD ""

def asTimestamp? (v : Json) : Option Timestamp := v.asString?.bind Timestamp.parse?

end Json

/-- A reference from an object to the object that owns it. The owner is removed first, and the
objects it owns follow. -/
structure OwnerReference where
  apiVersion : String
  blockOwnerDeletion : Option Bool
  controller : Option Bool
  kind : String
  name : String
  uid : String
  deriving DecidableEq

namespace OwnerReference

def fields (o : OwnerReference) : List (String × Option Json) := [
  ("apiVersion", some (.str o.apiVersion)),
  ("blockOwnerDeletion", o.blockOwnerDeletion.map .bool),
  ("controller", o.controller.map .bool),
  ("kind", some (.str o.kind)),
  ("name", some (.str o.name)),
  ("uid", some (.str o.uid))]

def toJson (o : OwnerReference) : Json := .present o.fields

def ofJson? : Json → Option OwnerReference
  | .obj members => do
    let apiVersion ← Json.textField? members "apiVersion"
    let blockOwnerDeletion ← Json.optionalField? members "blockOwnerDeletion" Json.asBool?
    let controller ← Json.optionalField? members "controller" Json.asBool?
    let kind ← Json.textField? members "kind"
    let name ← Json.textField? members "name"
    let uid ← Json.textField? members "uid"
    some ⟨apiVersion, blockOwnerDeletion, controller, kind, name, uid⟩
  | _ => none

theorem ascending_fields (o : OwnerReference) : Assoc.Ascending o.fields :=
  (Assoc.ascending_iff_keys _).2 (by simp +decide [fields])

theorem canonical_toJson (o : OwnerReference) : o.toJson.Canonical := by
  refine Json.canonical_present o.ascending_fields ?_
  simp only [fields, List.forall_mem_cons, Json.canonical_mem_some, Json.canonical_mem_map,
    Json.canonical_bool, Json.canonical_str, implies_true, true_and]
  simp

end OwnerReference

structure ManagedFields where
  apiVersion : Option String
  fieldsType : Option String
  /-- The names of the fields, as the server arranges them. -/
  fieldsV1 : Option Json.Given
  manager : Option String
  operation : Option String
  subresource : Option String
  time : Option Timestamp

namespace ManagedFields

def fields (f : ManagedFields) : List (String × Option Json) := [
  ("apiVersion", f.apiVersion.map .str),
  ("fieldsType", f.fieldsType.map .str),
  ("fieldsV1", f.fieldsV1.map (·.val)),
  ("manager", f.manager.map .str),
  ("operation", f.operation.map .str),
  ("subresource", f.subresource.map .str),
  ("time", f.time.map fun t => .str t.text)]

def toJson (f : ManagedFields) : Json := .present f.fields

def ofJson? : Json → Option ManagedFields
  | .obj members => do
    let apiVersion ← Json.optionalField? members "apiVersion" Json.asString?
    let fieldsType ← Json.optionalField? members "fieldsType" Json.asString?
    let fieldsV1 ← Json.optionalField? members "fieldsV1" Json.asGiven?
    let manager ← Json.optionalField? members "manager" Json.asString?
    let operation ← Json.optionalField? members "operation" Json.asString?
    let subresource ← Json.optionalField? members "subresource" Json.asString?
    let time ← Json.optionalField? members "time" Json.asTimestamp?
    some ⟨apiVersion, fieldsType, fieldsV1, manager, operation, subresource, time⟩
  | _ => none

theorem ascending_fields (f : ManagedFields) : Assoc.Ascending f.fields :=
  (Assoc.ascending_iff_keys _).2 (by simp +decide [fields])

theorem canonical_toJson (f : ManagedFields) : f.toJson.Canonical := by
  refine Json.canonical_present f.ascending_fields ?_
  simp only [fields, List.forall_mem_cons, Json.canonical_mem_map, Json.canonical_str,
    implies_true, true_and, Json.canonical_given]
  simp

end ManagedFields

structure Metadata where
  annotations : Option StringMap := none
  creationTimestamp : Option Timestamp := none
  deletionGracePeriodSeconds : Option Int64 := none
  deletionTimestamp : Option Timestamp := none
  finalizers : Option (List String) := none
  generateName : Option String := none
  generation : Option Int64 := none
  labels : Option StringMap := none
  managedFields : Option (List ManagedFields) := none
  name : Option String := none
  ns : Option String := none
  ownerReferences : Option (List OwnerReference) := none
  resourceVersion : Option String := none
  selfLink : Option String := none
  uid : Option String := none

namespace Metadata

def empty : Metadata := {}

instance : Inhabited Metadata := ⟨empty⟩

def fields (m : Metadata) : List (String × Option Json) := [
  ("annotations", m.annotations.map .ofStringMap),
  ("creationTimestamp", m.creationTimestamp.map fun t => .str t.text),
  ("deletionGracePeriodSeconds", m.deletionGracePeriodSeconds.map fun n => .int n.toInt),
  ("deletionTimestamp", m.deletionTimestamp.map fun t => .str t.text),
  ("finalizers", m.finalizers.map .strings),
  ("generateName", m.generateName.map .str),
  ("generation", m.generation.map fun n => .int n.toInt),
  ("labels", m.labels.map .ofStringMap),
  ("managedFields", m.managedFields.map fun entries => .arr (entries.map (·.toJson))),
  ("name", m.name.map .str),
  ("namespace", m.ns.map .str),
  ("ownerReferences", m.ownerReferences.map fun owners => .arr (owners.map (·.toJson))),
  ("resourceVersion", m.resourceVersion.map .str),
  ("selfLink", m.selfLink.map .str),
  ("uid", m.uid.map .str)]

def toJson (m : Metadata) : Json := .present m.fields

def ofMembers? (members : Json.Members) : Option Metadata := do
  let annotations ← Json.optionalField? members "annotations" Json.asStringMap?
  let creationTimestamp ← Json.optionalField? members "creationTimestamp" Json.asTimestamp?
  let deletionGracePeriodSeconds ←
    Json.optionalField? members "deletionGracePeriodSeconds" Json.asInt64?
  let deletionTimestamp ← Json.optionalField? members "deletionTimestamp" Json.asTimestamp?
  let finalizers ← Json.optionalField? members "finalizers" Json.asStrings?
  let generateName ← Json.optionalField? members "generateName" Json.asString?
  let generation ← Json.optionalField? members "generation" Json.asInt64?
  let labels ← Json.optionalField? members "labels" Json.asStringMap?
  let managedFields ← Json.optionalField? members "managedFields" (Json.asList? ManagedFields.ofJson?)
  let name ← Json.optionalField? members "name" Json.asString?
  let ns ← Json.optionalField? members "namespace" Json.asString?
  let ownerReferences ←
    Json.optionalField? members "ownerReferences" (Json.asList? OwnerReference.ofJson?)
  let resourceVersion ← Json.optionalField? members "resourceVersion" Json.asString?
  let selfLink ← Json.optionalField? members "selfLink" Json.asString?
  let uid ← Json.optionalField? members "uid" Json.asString?
  some ⟨annotations, creationTimestamp, deletionGracePeriodSeconds, deletionTimestamp, finalizers,
    generateName, generation, labels, managedFields, name, ns, ownerReferences,
    resourceVersion, selfLink, uid⟩

def ofJson? : Json → Option Metadata
  | .obj members => ofMembers? members
  | _ => none

theorem ascending_fields (m : Metadata) : Assoc.Ascending m.fields :=
  (Assoc.ascending_iff_keys _).2 (by simp +decide [fields])

theorem canonical_toJson (m : Metadata) : m.toJson.Canonical := by
  refine Json.canonical_present m.ascending_fields ?_
  simp only [fields, List.forall_mem_cons, Json.canonical_mem_map, Json.canonical_ofStringMap,
    Json.canonical_str, Json.canonical_int, Json.canonical_strings, implies_true, true_and]
  simp [ManagedFields.canonical_toJson, OwnerReference.canonical_toJson]

def finalizerList (m : Metadata) : List String := m.finalizers.getD []

end Metadata

end MeshOperator
