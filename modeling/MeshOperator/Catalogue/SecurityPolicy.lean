import MeshOperator.Catalogue.Controller
import MeshOperator.Catalogue.Destination
import MeshOperator.Catalogue.Heartbeat
import MeshOperator.Catalogue.Identity
import MeshOperator.Catalogue.Prometheus
import MeshOperator.Catalogue.ProxyInjector
import MeshOperator.Catalogue.Tap
import MeshOperator.Catalogue.Web

/-!
The security policy of the pods of the control plane, and the right of all its service accounts to
use it.
-/

namespace MeshOperator

set_option autoImplicit false

namespace Catalogue

namespace SecurityPolicy

def policyName : String := "linkerd-control-plane"

def roleName : String := "linkerd-psp"

def accounts : List String := [
  Controller.account, Destination.account, Heartbeat.account, Identity.account,
  Prometheus.account, ProxyInjector.account, Tap.account, Web.account]

def policy (c : Configuration) : Manifest :=
  clusterWide policyName (sharedLabels c) .podSecurityPolicy c

def policyRole (c : Configuration) : Manifest :=
  namespaced roleName (sharedLabels c) (.role [
    { apiGroups := ["policy", "extensions"]
      resources := ["podsecuritypolicies"]
      verbs := ["use"]
      resourceNames := [policyName] }]) c

def policyRoleBinding (c : Configuration) : Manifest :=
  namespaced roleName (sharedLabels c)
    (.roleBinding ⟨roleName, accounts.map fun account => subject account c⟩) c

def subsystem : Subsystem where
  name := "psp"
  productions := [
    .always "pod-security-policy" policy,
    .always "role" policyRole,
    .always "role-binding" policyRoleBinding]

end SecurityPolicy

end Catalogue

end MeshOperator
