import MeshOperator.Catalogue.Parts
import MeshOperator.Catalogue.Subsystem
import MeshOperator.Catalogue.Tap
import MeshOperator.Json.Printer

/-!
The web dashboard.
-/

namespace MeshOperator

set_option autoImplicit false

namespace Catalogue

namespace Web

def component : String := "web"

def account : String := "linkerd-web"

def roleName : String := "linkerd-web"

def checkRoleName : String := "linkerd-web-check"

def rules : List PolicyRule := [
  { apiGroups := [""]
    resources := ["configmaps"]
    verbs := ["get"]
    resourceNames := [configMapName] },
  { apiGroups := [""], resources := ["namespaces", "configmaps"], verbs := ["get"] },
  { apiGroups := [""], resources := ["serviceaccounts", "pods"], verbs := ["list"] },
  { apiGroups := ["apps"], resources := ["replicasets"], verbs := ["list"] }]

/-- What the checks of the dashboard read. -/
def checkRules : List PolicyRule := [
  { apiGroups := [Kind.role.type.group]
    resources := ["clusterroles", "clusterrolebindings"]
    verbs := ["list"] },
  { apiGroups := ["apiextensions.k8s.io"]
    resources := ["customresourcedefinitions"]
    verbs := ["list"] },
  { apiGroups := ["admissionregistration.k8s.io"]
    resources := ["mutatingwebhookconfigurations", "validatingwebhookconfigurations"]
    verbs := ["list"] },
  { apiGroups := ["policy"], resources := ["podsecuritypolicies"], verbs := ["list"] },
  { apiGroups := ["linkerd.io"], resources := ["serviceprofiles"], verbs := ["list"] },
  { apiGroups := ["apiregistration.k8s.io"], resources := ["apiservices"], verbs := ["get"] }]

def networkSettings : Json := .obj [
  ("cniVersion", .str "0.3.1"),
  ("kubernetes", .obj [("kubeconfig", .str "__KUBECONFIG_FILEPATH__")]),
  ("name", .str "linkerd-cni"),
  ("type", .str "linkerd-cni")]

def configMap (c : Configuration) : Manifest :=
  namespaced "linkerd-web-config" (labels component c)
    (.configMap (.ofList [("cni_network_config", networkSettings.text)])) c

/-- A text as part of a pattern: points stand for themselves. -/
def escapePoints (s : String) : String :=
  String.ofList (s.toList.flatMap fun c => if c = '.' then ['\\', '.'] else [c])

def enforcedHostArg (c : Configuration) : String :=
  let host := "linkerd-web\\." ++ escapePoints c.ns ++ "\\.svc"
  "-enforced-host=^(localhost|127\\.0\\.0\\.1|" ++ host ++ "\\."
    ++ escapePoints Defaults.clusterDomain ++ "|" ++ host ++ "|\\[::1\\])(:\\d+)?$"

def container (c : Configuration) : Container :=
  { controlContainer "web" c.web [
      "-api-addr=" ++ serviceHost "linkerd-controller-api" c ++ ":8085",
      "-grafana-addr=" ++ serviceHost "linkerd-grafana" c ++ ":3000",
      controllerNamespaceArg c,
      logLevelArg c,
      enforcedHostArg c] c with
    ports := [⟨"http", 8084⟩, ⟨"admin-http", 9994⟩]
    liveness := some (livenessOn "9994")
    readiness := some (readinessOn "9994") }

def deployment (c : Configuration) : Manifest :=
  Workload.deployment {
    name := "linkerd-web"
    component := component
    serviceAccount := account
    settings := c.web
    container := container c
    volumes := [] } c

def subsystem : Subsystem where
  name := component
  productions := [
    .always "service-account" (serviceAccount account component),
    .always "role" (role roleName component rules),
    .always "role-binding" (roleBinding roleName roleName account component),
    .always "check-cluster-role" (clusterRole checkRoleName component checkRules),
    .always "check-cluster-role-binding"
      (clusterRoleBinding checkRoleName checkRoleName account component),
    .always "admin-cluster-role-binding"
      (clusterRoleBinding "linkerd-web-admin" Tap.adminRoleName account component),
    .always "config-map" configMap,
    .always "deployment" deployment,
    .always "service" (service "linkerd-web" component [
      ⟨"http", 8084, .number 8084⟩,
      ⟨"admin-http", 9994, .number 9994⟩])]

end Web

end Catalogue

end MeshOperator
