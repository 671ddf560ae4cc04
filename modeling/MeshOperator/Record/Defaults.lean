import MeshOperator.Record.Declaration

/-!
Defaults of a declaration.

`Declaration.withDefaults` gives every field that has a default and is not set its default, and
leaves the others alone; of log level and schedule the empty text is not set either.
-/

namespace MeshOperator

set_option autoImplicit false

namespace Defaults

def release : String := "stable-2.8.1"

def controllerImage : String := "gcr.io/linkerd-io/controller:stable-2.8.1"

def webImage : String := "gcr.io/linkerd-io/web:stable-2.8.1"

def prometheusImage : String := "prom/prometheus:v2.15.2"

def proxyImage : String := "gcr.io/linkerd-io/proxy:stable-2.8.1"

def proxyInitImage : String := "gcr.io/linkerd-io/proxy-init:v1.3.3"

def logLevel : String := "info"

def replicaCount : Int32 := 1

def schedule : String := "0 0 * * *"

def clusterDomain : String := "cluster.local"

def resources : Resources := .ofQuantities "1" "250Mi" "100m" "50Mi"

def prometheusResources : Resources := .ofQuantities "4" "8Gi" "300m" "300Mi"

/-- A text, or the default where there is none or an empty one. -/
def textOr (default : String) : Option String → Option String
  | none | some "" => some default
  | some s => some s

theorem textOr_default (default : String) (s : Option String) :
    ∃ t, textOr default s = some t := by
  unfold textOr
  split <;> exact ⟨_, rfl⟩

end Defaults

/-- Image, resources and replica count where they are not set. -/
def WorkloadSettings.withDefaults (image : String) (resources : Resources) (s : WorkloadSettings) :
    WorkloadSettings :=
  { s with
    image := s.image.or (some image)
    resources := s.resources.or (some resources)
    replicaCount := s.replicaCount.or (some Defaults.replicaCount) }

def Declaration.withDefaults (d : Declaration) : Declaration :=
  let controlled := WorkloadSettings.withDefaults Defaults.controllerImage Defaults.resources
  { d with
    logLevel := Defaults.textOr Defaults.logLevel d.logLevel
    imagePullPolicy := d.imagePullPolicy.or (some .ifNotPresent)
    certificates := d.certificates.or (some .none)
    controller := controlled d.controller
    destination := controlled d.destination
    heartbeat := {
      workload := controlled d.heartbeat.workload
      schedule := Defaults.textOr Defaults.schedule d.heartbeat.schedule }
    identity := controlled d.identity
    prometheus := d.prometheus.withDefaults Defaults.prometheusImage Defaults.prometheusResources
    proxyInjector := controlled d.proxyInjector
    tap := controlled d.tap
    web := d.web.withDefaults Defaults.webImage Defaults.resources }

end MeshOperator
