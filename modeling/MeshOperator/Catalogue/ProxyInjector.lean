import MeshOperator.Catalogue.Parts
import MeshOperator.Catalogue.Subsystem

/-!
The proxy injector: a webhook that puts a proxy into new pods.
-/

namespace MeshOperator

set_option autoImplicit false

namespace Catalogue

namespace ProxyInjector

def component : String := "proxy-injector"

def account : String := "linkerd-proxy-injector"

def roleName : String := "linkerd-linkerd-proxy-injector"

def secretName : String := "linkerd-proxy-injector-tls"

def serviceName : String := "linkerd-proxy-injector"

def rules : List PolicyRule := [
  { apiGroups := [""], resources := ["events"], verbs := ["create", "patch"] },
  { apiGroups := [""]
    resources := ["namespaces", "replicationcontrollers"]
    verbs := ["get", "list", "watch"] },
  { apiGroups := [""], resources := ["pods"], verbs := ["list", "watch"] },
  { apiGroups := ["extensions", "apps"]
    resources := ["deployments", "replicasets", "daemonsets", "statefulsets"]
    verbs := ["list", "get", "watch"] },
  { apiGroups := ["extensions", "batch"]
    resources := ["cronjobs", "jobs"]
    verbs := ["list", "get", "watch"] }]

/-- Key pair that the webhook is served with. -/
def secret (c : Configuration) : Manifest :=
  namespaced secretName (labels component c) (.secret {
    type := some "kubernetes.io/tls"
    entries := .ofList [
      ("tls.crt", c.certificates.certificate),
      ("tls.key", c.certificates.key)] }) c

def container (c : Configuration) : Container :=
  { controlContainer "proxy-injector" c.proxyInjector ["proxy-injector", logLevelArg c] c with
    ports := [⟨"proxy-injector", 8443⟩, ⟨"admin-http", 9995⟩]
    mounts := [configMount, tlsMount] }

def deployment (c : Configuration) : Manifest :=
  Workload.deployment {
    name := "linkerd-proxy-injector"
    component := component
    serviceAccount := account
    settings := c.proxyInjector
    container := container c
    volumes := [⟨"tls", .secret secretName⟩] } c

def webhookConfiguration (c : Configuration) : Manifest :=
  clusterWide "linkerd-proxy-injector-webhook-config" (labels component c) (.webhook {
    name := "linkerd-proxy-injector.linkerd.io"
    service := serviceName
    ns := c.ns
    trustAnchors := c.certificates.trustAnchors }) c

def subsystem : Subsystem where
  name := component
  productions := [
    .always "service-account" (serviceAccount account component),
    .always "cluster-role" (clusterRole roleName component rules),
    .always "cluster-role-binding" (clusterRoleBinding roleName roleName account component),
    .always "secret" secret,
    .always "deployment" deployment,
    .always "service"
      (service serviceName component [⟨"proxy-injector", 443, .name "proxy-injector"⟩]),
    .always "mutating-webhook-configuration" webhookConfiguration]

end ProxyInjector

end Catalogue

end MeshOperator
