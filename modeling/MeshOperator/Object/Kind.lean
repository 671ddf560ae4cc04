import MeshOperator.Object.Key

/-!
The kinds of objects that the operator reads or writes: the name of their collection, whether they
live in namespaces, and whether the operator writes their status on its own.
-/

namespace MeshOperator

set_option autoImplicit false

structure Kind where
  type : TypeName
  plural : String
  namespaced : Bool
  /-- Status is written apart from the rest of the object. -/
  statusSubresource : Bool := false
  deriving DecidableEq, Repr

namespace Kind

def serviceAccount : Kind := ⟨⟨"v1", "ServiceAccount"⟩, "serviceaccounts", true, false⟩

def service : Kind := ⟨⟨"v1", "Service"⟩, "services", true, false⟩

def configMap : Kind := ⟨⟨"v1", "ConfigMap"⟩, "configmaps", true, false⟩

def secret : Kind := ⟨⟨"v1", "Secret"⟩, "secrets", true, false⟩

def deployment : Kind := ⟨⟨"apps/v1", "Deployment"⟩, "deployments", true, false⟩

def cronJob : Kind := ⟨⟨"batch/v1", "CronJob"⟩, "cronjobs", true, false⟩

def role : Kind := ⟨⟨"rbac.authorization.k8s.io/v1", "Role"⟩, "roles", true, false⟩

def roleBinding : Kind :=
  ⟨⟨"rbac.authorization.k8s.io/v1", "RoleBinding"⟩, "rolebindings", true, false⟩

def clusterRole : Kind :=
  ⟨⟨"rbac.authorization.k8s.io/v1", "ClusterRole"⟩, "clusterroles", false, false⟩

def clusterRoleBinding : Kind :=
  ⟨⟨"rbac.authorization.k8s.io/v1", "ClusterRoleBinding"⟩, "clusterrolebindings", false, false⟩

def mutatingWebhookConfiguration : Kind :=
  ⟨⟨"admissionregistration.k8s.io/v1", "MutatingWebhookConfiguration"⟩,
    "mutatingwebhookconfigurations", false, false⟩

def apiService : Kind :=
  ⟨⟨"apiregistration.k8s.io/v1", "APIService"⟩, "apiservices", false, false⟩

def podSecurityPolicy : Kind :=
  ⟨⟨"policy/v1beta1", "PodSecurityPolicy"⟩, "podsecuritypolicies", false, false⟩

def customResourceDefinition : Kind :=
  ⟨⟨"apiextensions.k8s.io/v1", "CustomResourceDefinition"⟩, "customresourcedefinitions", false,
    false⟩

/-- The record: the declaration of a control plane. -/
def record : Kind := ⟨⟨"linkerd.linkerd.io/v1alpha1", "Linkerd"⟩, "linkerds", true, true⟩

def registry : List Kind := [
  serviceAccount, service, configMap, secret, deployment, cronJob, role, roleBinding, clusterRole,
  clusterRoleBinding, mutatingWebhookConfiguration, apiService, podSecurityPolicy,
  customResourceDefinition, record]

def find? (type : TypeName) : Option Kind := registry.find? fun k => k.type = type

end Kind

end MeshOperator
