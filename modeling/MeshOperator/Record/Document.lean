import MeshOperator.Record.Basic
import MeshOperator.Record.Shape
import MeshOperator.Yaml.Expected
import MeshOperator.Yaml.Reader

/-!
Records as YAML documents.

`Record.expected` says what is expected of each field of a record. The settings of the heartbeat
stand among those of its workload; all but the schedule are taken for what they look like.
-/

namespace MeshOperator

set_option autoImplicit false

namespace Yaml.Expected

mutual

/-- What is expected of a value of a shape. Every member may be missing. -/
def ofShape : Shape → Expected
  | .text => .text
  | .flag => .flag
  | .whole _ _ => .whole
  | .list item => .list (ofShape item)
  | .dict value => .dict (ofShape value)
  | .object fields => .object false (ofFields fields)

def ofFields : List (String × Option Json × Shape) → List (String × Expected)
  | [] => []
  | (name, _, shape) :: rest => (name, .optional (ofShape shape)) :: ofFields rest

end

def optionalText : Expected := .optional .text

def metadata : Expected := .object false [
  ("annotations", .optional (.dict .text)),
  ("creationTimestamp", optionalText),
  ("deletionGracePeriodSeconds", .optional .whole),
  ("deletionTimestamp", optionalText),
  ("finalizers", .optional (.list .text)),
  ("generateName", optionalText),
  ("generation", .optional .whole),
  ("labels", .optional (.dict .text)),
  ("managedFields", .optional (.list (.object false [
    ("apiVersion", optionalText),
    ("fieldsType", optionalText),
    ("fieldsV1", .optional .any),
    ("manager", optionalText),
    ("operation", optionalText),
    ("subresource", optionalText),
    ("time", optionalText)]))),
  ("name", optionalText),
  ("namespace", optionalText),
  ("ownerReferences", .optional (.list (.object false [
    ("apiVersion", optionalText),
    ("blockOwnerDeletion", .optional .flag),
    ("controller", .optional .flag),
    ("kind", optionalText),
    ("name", optionalText),
    ("uid", optionalText)]))),
  ("resourceVersion", optionalText),
  ("selfLink", optionalText),
  ("uid", optionalText)]

def workload : Expected := .object true [
  ("affinity", .optional (ofShape Shape.affinity)),
  ("image", optionalText),
  ("nodeSelector", .dict .text),
  ("podAnnotations", .dict .text),
  ("replicaCount", .optional .whole),
  ("resources", .optional (ofShape Shape.resources)),
  ("securityContext", .optional (ofShape Shape.securityContext)),
  ("tolerations", .list (ofShape Shape.toleration))]

def heartbeat : Expected := .object true [
  ("affinity", .any),
  ("image", .any),
  ("nodeSelector", .any),
  ("podAnnotations", .any),
  ("replicaCount", .any),
  ("resources", .any),
  ("schedule", optionalText),
  ("securityContext", .any),
  ("tolerations", .any)]

def certificates : Expected := .object true [
  ("crtPEM", .text),
  ("keyPEM", .text),
  ("trustAnchorsPEM", .text)]

def declaration : Expected := .object true [
  ("autoInjectionNamespaces", .list .text),
  ("controller", workload),
  ("destination", workload),
  ("heartbeat", heartbeat),
  ("identity", workload),
  ("imagePullPolicy", optionalText),
  ("logLevel", optionalText),
  ("prometheus", workload),
  ("proxyInjector", workload),
  ("selfSignedCerts", .optional certificates),
  ("tap", workload),
  ("version", .text),
  ("web", workload)]

def recordStatus : Expected := .object true [
  ("ErrorMessage", .text),
  ("Status", optionalText)]

end Yaml.Expected

namespace Record

def expected : Yaml.Expected := .object true [
  ("metadata", .metadata),
  ("spec", .declaration),
  ("status", .optional .recordStatus)]

def ofYaml? (text : String) : Option Record := do
  let document ← Yaml.parse text
  let v ← Yaml.value? expected document
  ofJson? v

end Record

end MeshOperator
