import MeshOperator.Catalogue.Parts
import MeshOperator.Catalogue.Subsystem

/-!
The destination service: tells proxies where services are and how to reach them.
-/

namespace MeshOperator

set_option autoImplicit false

namespace Catalogue

namespace Destination

def component : String := "destination"

def account : String := "linkerd-destination"

def roleName : String := "linkerd-linkerd-destination"

def rules : List PolicyRule := [
  { apiGroups := ["apps"], resources := ["replicasets"], verbs := ["list", "get", "watch"] },
  { apiGroups := ["batch"], resources := ["jobs"], verbs := ["list", "get", "watch"] },
  { apiGroups := [""]
    resources := ["pods", "endpoints", "services"]
    verbs := ["list", "get", "watch"] },
  { apiGroups := ["linkerd.io"]
    resources := ["serviceprofiles"]
    verbs := ["list", "get", "watch"] },
  { apiGroups := ["split.smi-spec.io"]
    resources := ["trafficsplits"]
    verbs := ["list", "get", "watch"] }]

def container (c : Configuration) : Container :=
  { controlContainer "destination" c.destination [
      "destination",
      "-addr=:8086",
      controllerNamespaceArg c,
      "-enable-h2-upgrade=true",
      logLevelArg c] c with
    ports := [⟨"grpc", 8086⟩, ⟨"admin-http", 9996⟩]
    liveness := some (livenessOn "9996")
    readiness := some (readinessOn "9996") }

def deployment (c : Configuration) : Manifest :=
  Workload.deployment {
    name := "linkerd-destination"
    component := component
    serviceAccount := account
    settings := c.destination
    container := container c
    volumes := [] } c

def subsystem : Subsystem where
  name := component
  productions := [
    .always "service-account" (serviceAccount account component),
    .always "cluster-role" (clusterRole roleName component rules),
    .always "cluster-role-binding" (clusterRoleBinding roleName roleName account component),
    .always "deployment" deployment,
    .always "service" (service "linkerd-dst" component [⟨"grpc", 8086, .number 8086⟩])]

end Destination

end Catalogue

end MeshOperator
