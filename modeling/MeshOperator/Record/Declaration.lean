import MeshOperator.Object.PodShapes

/-!
The declaration of a control plane: which release to install, and settings of each subsystem.

Everything but the version may be left out. Writing leaves out what is not set and what is empty;
the blocks of the subsystems are always written. A structure is read from an object, or from a
list of its fields in the order in which they are declared here.
-/

namespace MeshOperator

set_option autoImplicit false

inductive PullPolicy where
  | always
  | never
  | ifNotPresent
  deriving DecidableEq, Repr

namespace PullPolicy

def text : PullPolicy → String
  | .always => "Always"
  | .never => "Never"
  | .ifNotPresent => "IfNotPresent"

def alternatives : List (String × PullPolicy) :=
  [.always, .never, .ifNotPresent].map fun p => (p.text, p)

end PullPolicy

/-- Trust anchors, and key and certificate of the issuer. An empty text was not given. -/
structure Certificates where
  trustAnchors : String
  key : String
  certificate : String
  deriving DecidableEq, Repr

namespace Certificates

def none : Certificates := ⟨"", "", ""⟩

def unlessEmpty (s : String) : Option Json := if s = "" then Option.none else some (.str s)

def fields (c : Certificates) : List (String × Option Json) := [
  ("crtPEM", unlessEmpty c.certificate),
  ("keyPEM", unlessEmpty c.key),
  ("trustAnchorsPEM", unlessEmpty c.trustAnchors)]

def toJson (c : Certificates) : Json := .present c.fields

def fieldNames : List String := ["trustAnchorsPEM", "keyPEM", "crtPEM"]

def ofJson? (v : Json) : Option Certificates := do
  let members ← v.asFields? fieldNames
  let trustAnchors ← Json.fieldOr? members "trustAnchorsPEM" "" Json.asString?
  let key ← Json.fieldOr? members "keyPEM" "" Json.asString?
  let certificate ← Json.fieldOr? members "crtPEM" "" Json.asString?
  some ⟨trustAnchors, key, certificate⟩

end Certificates

structure WorkloadSettings where
  image : Option String
  resources : Option Resources
  nodeSelector : StringMap
  affinity : Option Affinity
  tolerations : List Toleration
  podAnnotations : StringMap
  securityContext : Option SecurityContext
  replicaCount : Option Int32

namespace WorkloadSettings

def none : WorkloadSettings where
  image := .none
  resources := .none
  nodeSelector := .empty
  affinity := .none
  tolerations := []
  podAnnotations := .empty
  securityContext := .none
  replicaCount := .none

def fields (s : WorkloadSettings) : List (String × Option Json) := [
  ("affinity", s.affinity.map (·.value)),
  ("image", s.image.map .str),
  ("nodeSelector", if s.nodeSelector.isEmpty then .none else some (.ofStringMap s.nodeSelector)),
  ("podAnnotations",
    if s.podAnnotations.isEmpty then .none else some (.ofStringMap s.podAnnotations)),
  ("replicaCount", s.replicaCount.map fun n => .int n.toInt),
  ("resources", s.resources.map (·.value)),
  ("securityContext", s.securityContext.map (·.value)),
  ("tolerations",
    if s.tolerations.isEmpty then .none else some (.arr (s.tolerations.map (·.value))))]

def toJson (s : WorkloadSettings) : Json := .present s.fields

def fieldNames : List String := ["image", "resources", "nodeSelector", "affinity", "tolerations",
  "podAnnotations", "securityContext", "replicaCount"]

def ofMembers? (members : Json.Members) : Option WorkloadSettings := do
  let image ← Json.optionalField? members "image" Json.asString?
  let resources ← Json.optionalField? members "resources" Pruned.ofJson?
  let nodeSelector ← Json.fieldOr? members "nodeSelector" .empty Json.asStringMap?
  let affinity ← Json.optionalField? members "affinity" Pruned.ofJson?
  let tolerations ← Json.fieldOr? members "tolerations" [] (Json.asList? Pruned.ofJson?)
  let podAnnotations ← Json.fieldOr? members "podAnnotations" .empty Json.asStringMap?
  let securityContext ← Json.optionalField? members "securityContext" Pruned.ofJson?
  let replicaCount ← Json.optionalField? members "replicaCount" Json.asInt32?
  some ⟨image, resources, nodeSelector, affinity, tolerations, podAnnotations, securityContext,
    replicaCount⟩

def ofJson? (v : Json) : Option WorkloadSettings := (v.asFields? fieldNames).bind ofMembers?

end WorkloadSettings

/-- Settings of the heartbeat, which runs on a schedule. -/
structure HeartbeatSettings where
  workload : WorkloadSettings
  schedule : Option String

namespace HeartbeatSettings

def none : HeartbeatSettings := ⟨.none, .none⟩

/-- The schedule stands among the settings of the workload. -/
def fields (s : HeartbeatSettings) : List (String × Option Json) := [
  ("affinity", s.workload.affinity.map (·.value)),
  ("image", s.workload.image.map .str),
  ("nodeSelector",
    if s.workload.nodeSelector.isEmpty then .none else some (.ofStringMap s.workload.nodeSelector)),
  ("podAnnotations",
    if s.workload.podAnnotations.isEmpty then .none
    else some (.ofStringMap s.workload.podAnnotations)),
  ("replicaCount", s.workload.replicaCount.map fun n => .int n.toInt),
  ("resources", s.workload.resources.map (·.value)),
  ("schedule", s.schedule.map .str),
  ("securityContext", s.workload.securityContext.map (·.value)),
  ("tolerations",
    if s.workload.tolerations.isEmpty then .none
    else some (.arr (s.workload.tolerations.map (·.value))))]

def toJson (s : HeartbeatSettings) : Json := .present s.fields

/-- Only an object will do here. -/
def ofJson? : Json → Option HeartbeatSettings
  | .obj members => do
    let schedule ← Json.optionalField? members "schedule" Json.asString?
    let workload ← WorkloadSettings.ofMembers? members
    some ⟨workload, schedule⟩
  | _ => .none

end HeartbeatSettings

structure Declaration where
  version : String
  logLevel : Option String
  certificates : Option Certificates
  autoInjectionNamespaces : List String
  imagePullPolicy : Option PullPolicy
  controller : WorkloadSettings
  destination : WorkloadSettings
  heartbeat : HeartbeatSettings
  identity : WorkloadSettings
  prometheus : WorkloadSettings
  proxyInjector : WorkloadSettings
  tap : WorkloadSettings
  web : WorkloadSettings

namespace Declaration

def fields (d : Declaration) : List (String × Option Json) := [
  ("autoInjectionNamespaces",
    if d.autoInjectionNamespaces.isEmpty then none else some (.strings d.autoInjectionNamespaces)),
  ("controller", some d.controller.toJson),
  ("destination", some d.destination.toJson),
  ("heartbeat", some d.heartbeat.toJson),
  ("identity", some d.identity.toJson),
  ("imagePullPolicy", d.imagePullPolicy.map fun p => .str p.text),
  ("logLevel", d.logLevel.map .str),
  ("prometheus", some d.prometheus.toJson),
  ("proxyInjector", some d.proxyInjector.toJson),
  ("selfSignedCerts", d.certificates.map (·.toJson)),
  ("tap", some d.tap.toJson),
  ("version", some (.str d.version)),
  ("web", some d.web.toJson)]

def toJson (d : Declaration) : Json := .present d.fields

def fieldNames : List String := ["version", "logLevel", "selfSignedCerts",
  "autoInjectionNamespaces", "imagePullPolicy", "controller", "destination", "heartbeat",
  "identity", "prometheus", "proxyInjector", "tap", "web"]

def ofJson? (v : Json) : Option Declaration := do
  let members ← v.asFields? fieldNames
  let version ← (Assoc.find? "version" members).bind Json.asString?
  let logLevel ← Json.optionalField? members "logLevel" Json.asString?
  let certificates ← Json.optionalField? members "selfSignedCerts" Certificates.ofJson?
  let namespaces ← Json.fieldOr? members "autoInjectionNamespaces" [] Json.asStrings?
  let imagePullPolicy ←
    Json.optionalField? members "imagePullPolicy" (Json.asChoice? PullPolicy.alternatives)
  let controller ← Json.fieldOr? members "controller" .none WorkloadSettings.ofJson?
  let destination ← Json.fieldOr? members "destination" .none WorkloadSettings.ofJson?
  let heartbeat ← Json.fieldOr? members "heartbeat" .none HeartbeatSettings.ofJson?
  let identity ← Json.fieldOr? members "identity" .none WorkloadSettings.ofJson?
  let prometheus ← Json.fieldOr? members "prometheus" .none WorkloadSettings.ofJson?
  let proxyInjector ← Json.fieldOr? members "proxyInjector" .none WorkloadSettings.ofJson?
  let tap ← Json.fieldOr? members "tap" .none WorkloadSettings.ofJson?
  let web ← Json.fieldOr? members "web" .none WorkloadSettings.ofJson?
  some ⟨version, logLevel, certificates, namespaces, imagePullPolicy, controller, destination,
    heartbeat, identity, prometheus, proxyInjector, tap, web⟩

end Declaration

end MeshOperator
