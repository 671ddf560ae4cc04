import MeshOperator.Catalogue.Parts
import MeshOperator.Catalogue.Subsystem
import MeshOperator.Json.Printer

/-!
The controller: the public interface of the control plane, and the configuration that all
components share.
-/

namespace MeshOperator

set_option autoImplicit false

namespace Catalogue

namespace Controller

def component : String := "controller"

def account : String := "linkerd-controller"

def roleName : String := "linkerd-linkerd-controller"

def rules : List PolicyRule := [
  { apiGroups := ["extensions", "apps"]
    resources := ["daemonsets", "deployments", "replicasets", "statefulsets"]
    verbs := ["list", "get", "watch"] },
  { apiGroups := ["extensions", "batch"]
    resources := ["cronjobs", "jobs"]
    verbs := ["list", "get", "watch"] },
  { apiGroups := [""]
    resources := ["pods", "endpoints", "services", "replicationcontrollers", "namespaces"]
    verbs := ["list", "get", "watch"] },
  { apiGroups := ["linkerd.io"]
    resources := ["serviceprofiles"]
    verbs := ["list", "get", "watch"] },
  { apiGroups := ["split.smi-spec.io"]
    resources := ["trafficsplits"]
    verbs := ["list", "get", "watch"] }]

/-! ## The shared configuration -/

def globalSettings (c : Configuration) : Json := .obj [
  ("autoInjectContext", .null),
  ("clusterDomain", .str Defaults.clusterDomain),
  ("cniEnabled", .bool false),
  ("identityContext", .obj [
    ("clockSkewAllowance", .str "20s"),
    ("issuanceLifetime", .str "86400s"),
    ("scheme", .str "linkerd.io/tls"),
    ("trustAnchorsPem", .str c.certificates.trustAnchors),
    ("trustDomain", .str Defaults.clusterDomain)]),
  ("linkerdNamespace", .str c.ns),
  ("omitWebhookSideEffects", .bool false),
  ("version", .str Defaults.release)]

def imageSettings (name : String) (c : Configuration) : Json := .obj [
  ("imageName", .str name),
  ("pullPolicy", .str c.imagePullPolicy.text)]

def portSettings (n : Nat) : Json := .obj [("port", .int n)]

def proxySettings (c : Configuration) : Json := .obj [
  ("adminPort", portSettings 4191),
  ("controlPort", portSettings 4190),
  ("debugImage", imageSettings "gcr.io/linkerd-io/debug" c),
  ("debugImageVersion", .str Defaults.release),
  ("destinationGetNetworks", .str "10.0.0.0/8,172.16.0.0/12,192.168.0.0/16"),
  ("disableExternalProfiles", .bool true),
  ("ignoreInboundPorts", .arr []),
  ("ignoreOutboundPorts", .arr []),
  ("inboundPort", portSettings 4143),
  ("logLevel", .obj [("level", .str "warn,linkerd=info")]),
  ("outboundPort", portSettings 4140),
  ("proxyImage", imageSettings "gcr.io/linkerd-io/proxy" c),
  ("proxyInitImage", imageSettings "gcr.io/linkerd-io/proxy-init" c),
  ("proxyInitImageVersion", .str "v1.3.3"),
  ("proxyUid", .str "2102"),
  ("proxyVersion", .str Defaults.release),
  ("resource", .obj [
    ("limitCpu", .str "1"),
    ("limitMemory", .str "250Mi"),
    ("requestCpu", .str "100m"),
    ("requestMemory", .str "20Mi")])]

def flag (name value : String) : Json := .obj [("name", .str name), ("value", .str value)]

/-- Namespaces with automatic injection are a flag of the installation, if there are any. -/
def installFlags (c : Configuration) : List Json :=
  flag "ha" "false" ::
    if c.autoInjectionNamespaces.isEmpty then []
    else [flag "auto-injection-namespaces" (",".intercalate c.autoInjectionNamespaces)]

def installSettings (c : Configuration) : Json := .obj [
  ("cliVersion", .str Defaults.release),
  ("flags", .arr (installFlags c))]

def configMap (c : Configuration) : Manifest :=
  namespaced configMapName (labels component c) (.configMap (.ofList [
    ("global", (globalSettings c).text),
    ("proxy", (proxySettings c).text),
    ("install", (installSettings c).text)])) c

/-! ## Workload -/

def container (c : Configuration) : Container :=
  { controlContainer "public-api" c.controller [
      "public-api",
      prometheusUrlArg c,
      "-destination-addr=" ++ serviceHost "linkerd-dst" c ++ ":8086",
      controllerNamespaceArg c,
      logLevelArg c] c with
    ports := [⟨"http", 8085⟩, ⟨"admin-http", 9995⟩]
    liveness := some (livenessOn "9995")
    readiness := some (readinessOn "9995") }

def deployment (c : Configuration) : Manifest :=
  Workload.deployment {
    name := "linkerd-controller"
    component := component
    serviceAccount := account
    settings := c.controller
    container := container c
    volumes := [] } c

def subsystem : Subsystem where
  name := component
  productions := [
    .always "service-account" (serviceAccount account component),
    .always "cluster-role" (clusterRole roleName component rules),
    .always "cluster-role-binding" (clusterRoleBinding roleName roleName account component),
    .always "config-map" configMap,
    .always "deployment" deployment,
    .always "service" (service "linkerd-controller-api" component [⟨"http", 8085, .number 8085⟩])]

end Controller

end Catalogue

end MeshOperator
