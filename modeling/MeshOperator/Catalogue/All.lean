import MeshOperator.Catalogue.Controller
import MeshOperator.Catalogue.Destination
import MeshOperator.Catalogue.Extensions
import MeshOperator.Catalogue.Heartbeat
import MeshOperator.Catalogue.Identity
import MeshOperator.Catalogue.Prometheus
import MeshOperator.Catalogue.ProxyInjector
import MeshOperator.Catalogue.SecurityPolicy
import MeshOperator.Catalogue.Tap
import MeshOperator.Catalogue.Web

/-!
All subsystems, in the order in which they are installed.
-/

namespace MeshOperator

set_option autoImplicit false

namespace Catalogue

/-- The subsystems of the control plane. Later ones may need what earlier ones make: the shared
configuration comes first. -/
def controlPlane : List Subsystem := [
  Controller.subsystem, Destination.subsystem, Heartbeat.subsystem, Identity.subsystem,
  Prometheus.subsystem, ProxyInjector.subsystem, Web.subsystem, Tap.subsystem,
  SecurityPolicy.subsystem]

/-- Subsystems that are known but not installed by default. -/
def reserved : List Subsystem := [ServiceProfile.subsystem, TrafficSplit.subsystem]

def find? (name : String) : Option Subsystem :=
  (controlPlane ++ reserved).find? fun s => s.name = name

theorem fromManifest_controlPlane :
    ∀ s ∈ controlPlane, ∀ p ∈ s.productions, p.FromManifest := by
  simp only [controlPlane, List.forall_mem_cons, Controller.subsystem, Destination.subsystem,
    Heartbeat.subsystem, Identity.subsystem, Prometheus.subsystem, ProxyInjector.subsystem,
    Web.subsystem, Tap.subsystem, SecurityPolicy.subsystem, Production.fromManifest_always,
    Production.fromManifest_present, List.not_mem_nil, false_implies, implies_true, and_self]

end Catalogue

end MeshOperator
