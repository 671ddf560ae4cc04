import MeshOperator.Catalogue.Parts
import MeshOperator.Catalogue.Subsystem

/-!
Tap: watches live requests, served as a part of the API of the cluster.
-/

namespace MeshOperator

set_option autoImplicit false

namespace Catalogue

namespace Tap

def component : String := "tap"

def account : String := "linkerd-tap"

def roleName : String := "linkerd-linkerd-tap"

def adminRoleName : String := "linkerd-linkerd-tap-admin"

def secretName : String := "linkerd-tap-tls"

def serviceName : String := "linkerd-tap"

def rules : List PolicyRule := [
  { apiGroups := [""]
    resources := ["pods", "services", "replicationcontrollers", "namespaces", "nodes"]
    verbs := ["list", "get", "watch"] },
  { apiGroups := ["extensions", "apps"]
    resources := ["daemonsets", "deployments", "replicasets", "statefulsets"]
    verbs := ["list", "get", "watch"] },
  { apiGroups := ["extensions", "batch"]
    resources := ["cronjobs", "jobs"]
    verbs := ["list", "get", "watch"] }]

def adminRules : List PolicyRule := [
  { apiGroups := ["tap.linkerd.io"], resources := ["*"], verbs := ["watch"] }]

/-- Lets tap check requests on behalf of the API server. It lives in the system namespace, and so
the record owns it only if it lives there too. -/
def authReaderBinding (c : Configuration) : Manifest where
  name := "linkerd-linkerd-tap-auth-reader"
  ns := some "kube-system"
  labels := labels component c
  annotations := none
  owner := c.ownerFor (some "kube-system")
  content := .roleBinding ⟨"extension-apiserver-authentication-reader", [subject account c]⟩

/-- Key pair that the API is served with. -/
def secret (c : Configuration) : Manifest :=
  namespaced secretName (labels component c) (.secret {
    type := some "kubernetes.io/tls"
    entries := .ofList [
      ("tls.crt", c.certificates.certificate),
      ("tls.key", c.certificates.key)] }) c

def container (c : Configuration) : Container :=
  { controlContainer "tap" c.tap ["tap", controllerNamespaceArg c, logLevelArg c] c with
    ports := [⟨"grpc", 8088⟩, ⟨"apiserver", 8089⟩, ⟨"admin-http", 9998⟩]
    liveness := some (livenessOn "9998")
    readiness := some (readinessOn "9998")
    mounts := [tlsMount, configMount] }

def deployment (c : Configuration) : Manifest :=
  Workload.deployment {
    name := "linkerd-tap"
    component := component
    serviceAccount := account
    settings := c.tap
    container := container c
    volumes := [⟨"tls", .secret secretName⟩] } c

/-- Makes the API server hand requests for the version of the API on to tap. -/
def apiService (c : Configuration) : Manifest :=
  clusterWide "v1alpha1.tap.linkerd.io" (labels component c) (.apiService {
    group := "tap.linkerd.io"
    version := "v1alpha1"
    service := serviceName
    ns := c.ns
    trustAnchors := c.certificates.trustAnchors }) c

def subsystem : Subsystem where
  name := component
  productions := [
    .always "service-account" (serviceAccount account component),
    .always "cluster-role" (clusterRole roleName component rules),
    .always "admin-cluster-role" (clusterRole adminRoleName component adminRules),
    .always "cluster-role-binding" (clusterRoleBinding roleName roleName account component),
    .always "auth-delegator-binding" (clusterRoleBinding "linkerd-linkerd-tap-auth-delegator"
      "system:auth-delegator" account component),
    .always "auth-reader-binding" authReaderBinding,
    .always "secret" secret,
    .always "deployment" deployment,
    .always "service" (service serviceName component [
      ⟨"grpc", 8088, .number 8088⟩,
      ⟨"apiserver", 443, .name "apiserver"⟩]),
    .always "api-service" apiService]

end Tap

end Catalogue

end MeshOperator
