import MeshOperator.Catalogue.Parts
import MeshOperator.Catalogue.Subsystem

/-!
The identity service: issues the certificates of proxies with the key pair of the record.
-/

namespace MeshOperator

set_option autoImplicit false

namespace Catalogue

namespace Identity

def component : String := "identity"

def account : String := "linkerd-identity"

def roleName : String := "linkerd-linkerd-identity"

def secretName : String := "linkerd-identity-issuer"

def rules : List PolicyRule := [
  { apiGroups := ["authentication.k8s.io"], resources := ["tokenreviews"], verbs := ["create"] },
  { apiGroups := ["apps"], resources := ["deployments"], verbs := ["get"] },
  { apiGroups := [""], resources := ["events"], verbs := ["create", "patch"] }]

/-- Key pair of the issuer. -/
def secret (c : Configuration) : Manifest :=
  namespaced secretName (labels component c) (.secret {
    type := none
    entries := .ofList [
      ("crt.pem", c.certificates.certificate),
      ("key.pem", c.certificates.key)] }) c

def ownPods : Json := .obj [
  ("matchExpressions", .arr [.obj [
    ("key", .str componentLabel),
    ("operator", .str "In"),
    ("values", .strings [component])]])]

/-- Never two pods on one node, and preferably not in one zone. -/
def spreadAcrossNodes : Affinity :=
  let value : Json := .obj [
    ("podAntiAffinity", .obj [
      ("preferredDuringSchedulingIgnoredDuringExecution", .arr [.obj [
        ("podAffinityTerm", .obj [
          ("labelSelector", ownPods),
          ("topologyKey", .str "failure-domain.beta.kubernetes.io/zone")]),
        ("weight", .int 100)]]),
      ("requiredDuringSchedulingIgnoredDuringExecution", .arr [.obj [
        ("labelSelector", ownPods),
        ("topologyKey", .str "kubernetes.io/hostname")]])])]
  ⟨value, value, rfl⟩

/-- The settings, with a rule for spreading the pods unless there is some rule. -/
def settings (c : Configuration) : WorkloadConfiguration :=
  { c.identity with affinity := c.identity.affinity.or (some spreadAcrossNodes) }

def container (c : Configuration) : Container :=
  { controlContainer "identity" (settings c) ["identity", logLevelArg c] c with
    ports := [⟨"grpc", 8080⟩, ⟨"admin-http", 9990⟩]
    liveness := some (livenessOn "9990")
    readiness := some (readinessOn "9990")
    mounts := [
      configMount,
      { volume := "identity-issuer", path := "/var/run/linkerd/identity/issuer" }] }

def deployment (c : Configuration) : Manifest :=
  Workload.deployment {
    name := "linkerd-identity"
    component := component
    serviceAccount := account
    settings := settings c
    container := container c
    volumes := [⟨"identity-issuer", .secret secretName⟩] } c

def subsystem : Subsystem where
  name := component
  productions := [
    .always "service-account" (serviceAccount account component),
    .always "cluster-role" (clusterRole roleName component rules),
    .always "cluster-role-binding" (clusterRoleBinding roleName roleName account component),
    .always "secret" secret,
    .always "deployment" deployment,
    .always "service" (service "linkerd-identity" component [⟨"grpc", 8080, .number 8080⟩])]

end Identity

end Catalogue

end MeshOperator
