import MeshOperator.Object.Metadata
import MeshOperator.Object.PodShapes

/-!
The shape of a record: the names and types of its fields.
-/

namespace MeshOperator

set_option autoImplicit false

namespace Shape

def workload : Shape := .object [
  optional "affinity" affinity,
  optional "image" .text,
  optional "nodeSelector" textMap,
  optional "podAnnotations" textMap,
  optional "replicaCount" int32,
  optional "resources" resources,
  optional "securityContext" securityContext,
  optional "tolerations" (.list toleration)]

def heartbeat : Shape := .object [
  optional "affinity" affinity,
  optional "image" .text,
  optional "nodeSelector" textMap,
  optional "podAnnotations" textMap,
  optional "replicaCount" int32,
  optional "resources" resources,
  optional "schedule" .text,
  optional "securityContext" securityContext,
  optional "tolerations" (.list toleration)]

def certificates : Shape := .object [
  optional "crtPEM" .text,
  optional "keyPEM" .text,
  optional "trustAnchorsPEM" .text]

def declaration : Shape := .object [
  optional "autoInjectionNamespaces" texts,
  optional "controller" workload,
  optional "destination" workload,
  optional "heartbeat" heartbeat,
  optional "identity" workload,
  optional "imagePullPolicy" .text,
  optional "logLevel" .text,
  optional "prometheus" workload,
  optional "proxyInjector" workload,
  optional "selfSignedCerts" certificates,
  optional "tap" workload,
  requiredText "version",
  optional "web" workload]

def recordStatus : Shape := .object [
  optional "ErrorMessage" .text,
  optional "Status" .text]

/-- A record without type and metadata, which are those of every object. -/
def record : Shape := .object [
  ("spec", some (.obj []), declaration),
  optional "status" recordStatus]

/-! ## Schemas -/

def requiredNames (fields : List (String × Option Json × Shape)) : List String :=
  (fields.filter fun f => f.2.1.isSome).map (·.1)

mutual

def schema : Shape → Json
  | .text => .obj [("type", .str "string")]
  | .flag => .obj [("type", .str "boolean")]
  | .whole _ _ => .obj [("type", .str "integer")]
  | .list item => .obj [("items", schema item), ("type", .str "array")]
  | .dict value => .obj [("additionalProperties", schema value), ("type", .str "object")]
  | .object fields => .present [
    ("properties", some (.obj (schemas fields))),
    ("required",
      if (requiredNames fields).isEmpty then none else some (.strings (requiredNames fields))),
    ("type", some (.str "object"))]

def schemas : List (String × Option Json × Shape) → Json.Members
  | [] => []
  | (name, _, shape) :: rest => (name, schema shape) :: schemas rest

end

end Shape

end MeshOperator
