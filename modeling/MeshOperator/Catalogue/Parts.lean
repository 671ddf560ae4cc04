import MeshOperator.Catalogue.Manifest
import MeshOperator.Record.Configuration

/-!
Parts that the subsystems share: labels, metadata, roles, the containers that run beside every
control-plane process, and the deployment around one.
-/

namespace MeshOperator

set_option autoImplicit false

namespace Catalogue

/-! ## Labels and annotations -/

def componentLabel : String := "linkerd.io/control-plane-component"

def namespaceLabel : String := "linkerd.io/control-plane-ns"

def createdByKey : String := "linkerd.io/created-by"

/-- Labels of everything that belongs to a component. -/
def labels (component : String) (c : Configuration) : StringMap :=
  .ofList [(componentLabel, component), (namespaceLabel, c.ns)]

/-- Labels of what belongs to the control plane as a whole. -/
def sharedLabels (c : Configuration) : StringMap := .ofList [(namespaceLabel, c.ns)]

def workloadLabels (component : String) (c : Configuration) : StringMap :=
  (labels component c).merge (.ofList [
    ("app.kubernetes.io/name", component),
    ("app.kubernetes.io/part-of", "Linkerd"),
    ("app.kubernetes.io/version", c.version)])

def createdBy (c : Configuration) : StringMap := .ofList [(createdByKey, c.version)]

/-! ## Manifests -/

/-- An object in the namespace of the record, owned by it. -/
def namespaced (name : String) (labels : StringMap) (content : Content) (c : Configuration) :
    Manifest where
  name := name
  ns := some c.ns
  labels := labels
  annotations := some (createdBy c)
  owner := c.ownerFor (some c.ns)
  content := content

/-- An object outside all namespaces. -/
def clusterWide (name : String) (labels : StringMap) (content : Content) (c : Configuration) :
    Manifest where
  name := name
  ns := none
  labels := labels
  annotations := none
  owner := c.ownerFor none
  content := content

def serviceAccount (name component : String) (c : Configuration) : Manifest :=
  namespaced name (labels component c) .serviceAccount c

def clusterRole (name component : String) (rules : List PolicyRule) (c : Configuration) :
    Manifest :=
  clusterWide name (labels component c) (.clusterRole rules) c

def role (name component : String) (rules : List PolicyRule) (c : Configuration) : Manifest :=
  namespaced name (labels component c) (.role rules) c

def subject (account : String) (c : Configuration) : Subject := ⟨account, c.ns⟩

def clusterRoleBinding (name role account component : String) (c : Configuration) : Manifest :=
  clusterWide name (labels component c) (.clusterRoleBinding ⟨role, [subject account c]⟩) c

def roleBinding (name role account component : String) (c : Configuration) : Manifest :=
  namespaced name (labels component c) (.roleBinding ⟨role, [subject account c]⟩) c

def service (name component : String) (ports : List ServicePort) (c : Configuration) : Manifest :=
  namespaced name (labels component c)
    (.service ⟨.ofList [(componentLabel, component)], ports⟩) c

/-! ## Containers -/

/-- Liveness on `/ping` and readiness on `/ready`, as every control-plane process serves them. -/
def livenessOn (port : String) : Probe := ⟨"/ping", .name port, some 10, none⟩

def readinessOn (port : String) : Probe := ⟨"/ready", .name port, none, some 7⟩

/-- The configuration of the installation, shared by all components. -/
def configMapName : String := "linkerd-config"

def configVolume : Volume := ⟨"config", .configMap configMapName⟩

def configMount : Mount := { volume := "config", path := "/var/run/linkerd/config" }

def tlsMount : Mount := { volume := "tls", path := "/var/run/linkerd/tls", readOnly := true }

def endEntityVolume : String := "linkerd-identity-end-entity"

def endEntityPath : String := "/var/run/linkerd/identity/end-entity"

def controllerUser : SecurityContext := .ofUser 2103 (by decide)

def controlContainer (name : String) (settings : WorkloadConfiguration) (args : List String)
    (c : Configuration) : Container where
  name := name
  image := settings.image
  imagePullPolicy := c.imagePullPolicy.text
  args := args
  environment := []
  ports := []
  liveness := none
  readiness := none
  resources := settings.resources
  securityContext := settings.securityContext.getD controllerUser
  mounts := [configMount]

def logLevelArg (c : Configuration) : String := "-log-level=" ++ c.logLevel

def controllerNamespaceArg (c : Configuration) : String := "-controller-namespace=" ++ c.ns

def serviceHost (name : String) (c : Configuration) : String :=
  name ++ "." ++ c.ns ++ ".svc." ++ Defaults.clusterDomain

def prometheusUrlArg (c : Configuration) : String :=
  "-prometheus-url=http://" ++ serviceHost "linkerd-prometheus" c ++ ":9090"

/-- The proxy setup needs to change the network of the pod, as root but without privileges. -/
def proxyInitSecurity : SecurityContext :=
  let value : Json := .obj [
    ("allowPrivilegeEscalation", .bool false),
    ("capabilities", .obj [("add", .strings ["NET_ADMIN", "NET_RAW"])]),
    ("privileged", .bool false),
    ("readOnlyRootFilesystem", .bool false),
    ("runAsNonRoot", .bool false),
    ("runAsUser", .int 0)]
  ⟨value, value, rfl⟩

def proxySecurity : SecurityContext :=
  let value : Json := .obj [("readOnlyRootFilesystem", .bool true), ("runAsUser", .int 2102)]
  ⟨value, value, rfl⟩

/-- Redirects the traffic of the pod to its proxy. -/
def proxyInitContainer : Container where
  name := "linkerd-init"
  image := Defaults.proxyInitImage
  imagePullPolicy := PullPolicy.ifNotPresent.text
  args := [
    "--incoming-proxy-port", "4143",
    "--outgoing-proxy-port", "4140",
    "--proxy-uid", "2102",
    "--inbound-ports-to-ignore", "4190,4191",
    "--outbound-ports-to-ignore", "443"]
  environment := []
  ports := []
  liveness := none
  readiness := none
  resources := .ofQuantities "100m" "50Mi" "10m" "10Mi"
  securityContext := proxyInitSecurity
  mounts := []

/-- The identity of a component, in terms of the environment of the proxy. -/
def proxyIdentity (account : String) : String :=
  account ++ ".$(_l5d_ns).serviceaccount.identity.$(_l5d_ns).$(_l5d_trustdomain)"

def proxyEnvironment (c : Configuration) : List EnvironmentVariable := [
  ⟨"LINKERD2_PROXY_LOG", .text "warn,linkerd=info"⟩,
  ⟨"LINKERD2_PROXY_DESTINATION_SVC_ADDR", .text (serviceHost "linkerd-dst" c ++ ":8086")⟩,
  ⟨"LINKERD2_PROXY_DESTINATION_GET_NETWORKS", .text "10.0.0.0/8,172.16.0.0/12,192.168.0.0/16"⟩,
  ⟨"LINKERD2_PROXY_CONTROL_LISTEN_ADDR", .text "0.0.0.0:4190"⟩,
  ⟨"LINKERD2_PROXY_ADMIN_LISTEN_ADDR", .text "0.0.0.0:4191"⟩,
  ⟨"LINKERD2_PROXY_OUTBOUND_LISTEN_ADDR", .text "127.0.0.1:4140"⟩,
  ⟨"LINKERD2_PROXY_INBOUND_LISTEN_ADDR", .text "0.0.0.0:4143"⟩,
  ⟨"LINKERD2_PROXY_DESTINATION_GET_SUFFIXES", .text "svc.cluster.local."⟩,
  ⟨"LINKERD2_PROXY_DESTINATION_PROFILE_SUFFIXES", .text "svc.cluster.local."⟩,
  ⟨"LINKERD2_PROXY_INBOUND_ACCEPT_KEEPALIVE", .text "10000ms"⟩,
  ⟨"LINKERD2_PROXY_OUTBOUND_CONNECT_KEEPALIVE", .text "10000ms"⟩,
  ⟨"_pod_ns", .field "metadata.namespace"⟩,
  ⟨"LINKERD2_PROXY_DESTINATION_CONTEXT", .text "ns:$(_pod_ns)"⟩,
  ⟨"LINKERD2_PROXY_IDENTITY_DIR", .text endEntityPath⟩,
  ⟨"LINKERD2_PROXY_IDENTITY_TRUST_ANCHORS", .text c.certificates.trustAnchors⟩,
  ⟨"LINKERD2_PROXY_IDENTITY_TOKEN_FILE",
    .text "/var/run/secrets/kubernetes.io/serviceaccount/token"⟩,
  ⟨"LINKERD2_PROXY_IDENTITY_SVC_ADDR", .text (serviceHost "linkerd-identity" c ++ ":8080")⟩,
  ⟨"_pod_sa", .field "spec.serviceAccountName"⟩,
  ⟨"_l5d_ns", .text c.ns⟩,
  ⟨"_l5d_trustdomain", .text Defaults.clusterDomain⟩,
  ⟨"LINKERD2_PROXY_IDENTITY_LOCAL_NAME",
    .text "$(_pod_sa).$(_pod_ns).serviceaccount.identity.$(_l5d_ns).$(_l5d_trustdomain)"⟩,
  ⟨"LINKERD2_PROXY_IDENTITY_SVC_NAME", .text (proxyIdentity "linkerd-identity")⟩,
  ⟨"LINKERD2_PROXY_DESTINATION_SVC_NAME", .text (proxyIdentity "linkerd-destination")⟩,
  ⟨"LINKERD2_PROXY_TAP_SVC_NAME", .text (proxyIdentity "linkerd-tap")⟩]

/-- The proxy through which the pod talks. -/
def proxyContainer (c : Configuration) : Container where
  name := "linkerd-proxy"
  image := Defaults.proxyImage
  imagePullPolicy := PullPolicy.ifNotPresent.text
  args := []
  environment := proxyEnvironment c
  ports := [⟨"linkerd-proxy", 4143⟩, ⟨"linkerd-admin", 4191⟩]
  liveness := some ⟨"/live", .name "4191", some 10, none⟩
  readiness := some ⟨"/ready", .name "4191", some 2, none⟩
  resources := .ofQuantities "1" "250Mi" "100m" "20Mi"
  securityContext := proxySecurity
  mounts := [{ volume := endEntityVolume, path := endEntityPath }]

/-! ## Workloads -/

/-- A control-plane process that is to run as a deployment, with a proxy beside it. -/
structure Workload where
  name : String
  component : String
  serviceAccount : String
  settings : WorkloadConfiguration
  container : Container
  volumes : List Volume

/-- Annotations of pods: those of the settings win. -/
def podAnnotations (settings : WorkloadConfiguration) (c : Configuration) : StringMap :=
  (createdBy c).merge settings.podAnnotations

def Workload.podSpec (w : Workload) (c : Configuration) : PodSpec where
  serviceAccount := w.serviceAccount
  containers := [w.container, proxyContainer c]
  initContainers := [proxyInitContainer]
  volumes := [configVolume, ⟨endEntityVolume, .emptyDir (some "Memory")⟩] ++ w.volumes
  nodeSelector := w.settings.nodeSelector
  affinity := w.settings.affinity
  tolerations := w.settings.tolerations
  restartPolicy := none

def Workload.deployment (w : Workload) (c : Configuration) : Manifest :=
  namespaced w.name (workloadLabels w.component c) (.deployment {
    replicas := w.settings.replicas
    selector := labels w.component c
    template := {
      labels := workloadLabels w.component c
      annotations := podAnnotations w.settings c
      spec := w.podSpec c } }) c

end Catalogue

end MeshOperator
