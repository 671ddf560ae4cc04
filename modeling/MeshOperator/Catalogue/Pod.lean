import MeshOperator.Object.PodShapes
import MeshOperator.Object.Metadata

/-!
Pods as the operator writes them: containers with their ports, probes, environment and mounts,
and the volumes of the pod.
-/

namespace MeshOperator

set_option autoImplicit false

/-- A list member that is left out when it is empty. -/
def Json.unlessNone {α : Type} (items : List α) (toJson : α → Json) : Option Json :=
  if items.isEmpty then none else some (.arr (items.map toJson))

/-- A port, by number or by name. A name is looked up among the ports of the container. -/
inductive PortRef where
  | number (n : Nat)
  | name (s : String)
  deriving DecidableEq, Repr

def PortRef.toJson : PortRef → Json
  | .number n => .int n
  | .name s => .str s

structure ContainerPort where
  name : String
  number : Nat
  deriving DecidableEq, Repr

def ContainerPort.toJson (p : ContainerPort) : Json := .obj [
  ("containerPort", .int p.number),
  ("name", .str p.name)]

/-- A request that tells whether a container is well. -/
structure Probe where
  path : String
  port : PortRef
  initialDelaySeconds : Option Nat
  failureThreshold : Option Nat
  deriving DecidableEq, Repr

def Probe.toJson (p : Probe) : Json := .present [
  ("failureThreshold", p.failureThreshold.map fun n => .int n),
  ("httpGet", some (.obj [("path", .str p.path), ("port", p.port.toJson)])),
  ("initialDelaySeconds", p.initialDelaySeconds.map fun n => .int n)]

/-- The value of an environment variable: a text, or a field of the pod. -/
inductive EnvironmentValue where
  | text (s : String)
  | field (path : String)
  deriving DecidableEq, Repr

structure EnvironmentVariable where
  name : String
  value : EnvironmentValue
  deriving DecidableEq, Repr

def EnvironmentVariable.toJson (e : EnvironmentVariable) : Json :=
  match e.value with
  | .text s => .obj [("name", .str e.name), ("value", .str s)]
  | .field path => .obj [
    ("name", .str e.name),
    ("valueFrom", .obj [("fieldRef", .obj [("fieldPath", .str path)])])]

structure Mount where
  volume : String
  path : String
  subPath : Option String := none
  readOnly : Bool := false
  deriving DecidableEq, Repr

def Mount.toJson (m : Mount) : Json := .present [
  ("mountPath", some (.str m.path)),
  ("name", some (.str m.volume)),
  ("readOnly", if m.readOnly then some (.bool true) else none),
  ("subPath", m.subPath.map .str)]

structure Container where
  name : String
  image : String
  imagePullPolicy : String
  args : List String
  environment : List EnvironmentVariable
  ports : List ContainerPort
  liveness : Option Probe
  readiness : Option Probe
  resources : Resources
  securityContext : SecurityContext
  mounts : List Mount

def Container.toJson (c : Container) : Json := .present [
  ("args", Json.unlessNone c.args .str),
  ("env", Json.unlessNone c.environment (·.toJson)),
  ("image", some (.str c.image)),
  ("imagePullPolicy", some (.str c.imagePullPolicy)),
  ("livenessProbe", c.liveness.map (·.toJson)),
  ("name", some (.str c.name)),
  ("ports", Json.unlessNone c.ports (·.toJson)),
  ("readinessProbe", c.readiness.map (·.toJson)),
  ("resources", some c.resources.value),
  ("securityContext", some c.securityContext.value),
  ("terminationMessagePath", some (.str "/dev/termination-log")),
  ("terminationMessagePolicy", some (.str "File")),
  ("volumeMounts", Json.unlessNone c.mounts (·.toJson))]

inductive VolumeSource where
  | configMap (name : String)
  | secret (name : String)
  /-- An empty directory, on disk unless a medium is given. -/
  | emptyDir (medium : Option String)
  deriving DecidableEq, Repr

structure Volume where
  name : String
  source : VolumeSource
  deriving DecidableEq, Repr

def Volume.toJson (v : Volume) : Json :=
  match v.source with
  | .configMap name => .obj [("configMap", .obj [("name", .str name)]), ("name", .str v.name)]
  | .secret name => .obj [("name", .str v.name), ("secret", .obj [("secretName", .str name)])]
  | .emptyDir medium => .obj [
    ("emptyDir", .present [("medium", medium.map .str)]),
    ("name", .str v.name)]

structure PodSpec where
  serviceAccount : String
  containers : List Container
  initContainers : List Container
  volumes : List Volume
  nodeSelector : StringMap
  affinity : Option Affinity
  tolerations : List Toleration
  restartPolicy : Option String

/-- An empty node selector and empty tolerations are left out. -/
def PodSpec.toJson (p : PodSpec) : Json := .present [
  ("affinity", p.affinity.map (·.value)),
  ("containers", some (.arr (p.containers.map (·.toJson)))),
  ("initContainers", Json.unlessNone p.initContainers (·.toJson)),
  ("nodeSelector", if p.nodeSelector.isEmpty then none else some (.ofStringMap p.nodeSelector)),
  ("restartPolicy", p.restartPolicy.map .str),
  ("serviceAccountName", some (.str p.serviceAccount)),
  ("tolerations", Json.unlessNone p.tolerations (·.value)),
  ("volumes", Json.unlessNone p.volumes (·.toJson))]

structure PodTemplate where
  labels : StringMap
  annotations : StringMap
  spec : PodSpec

def PodTemplate.toJson (t : PodTemplate) : Json := .obj [
  ("metadata", .obj [
    ("annotations", .ofStringMap t.annotations),
    ("labels", .ofStringMap t.labels)]),
  ("spec", t.spec.toJson)]

/-! ## Encodings are canonical -/

theorem Json.canonical_mem_unlessNone {α : Type} (items : List α) (toJson : α → Json) :
    (∀ v ∈ Json.unlessNone items toJson, v.Canonical) ↔ ∀ a ∈ items, (toJson a).Canonical := by
  cases items <;> simp [Json.unlessNone]

theorem PortRef.canonical_toJson (p : PortRef) : p.toJson.Canonical := by
  cases p <;> simp [PortRef.toJson]

theorem ContainerPort.canonical_toJson (p : ContainerPort) : p.toJson.Canonical := by
  simp +decide [ContainerPort.toJson, Assoc.ascending_iff_keys]

theorem Probe.canonical_toJson (p : Probe) : p.toJson.Canonical := by
  refine Json.canonical_present ?_ ?_
  · exact (Assoc.ascending_iff_keys _).2 (by simp +decide)
  · simp only [List.forall_mem_cons, Json.canonical_mem_map, Json.canonical_mem_some]
    simp +decide [Assoc.ascending_iff_keys, PortRef.canonical_toJson]

theorem EnvironmentVariable.canonical_toJson (e : EnvironmentVariable) : e.toJson.Canonical := by
  unfold EnvironmentVariable.toJson
  split <;> simp +decide [Assoc.ascending_iff_keys]

theorem Mount.canonical_toJson (m : Mount) : m.toJson.Canonical := by
  refine Json.canonical_present ?_ ?_
  · exact (Assoc.ascending_iff_keys _).2 (by simp +decide)
  · simp only [List.forall_mem_cons, Json.canonical_mem_map, Json.canonical_mem_some]
    cases m.readOnly <;> simp

theorem Container.canonical_toJson (c : Container) : c.toJson.Canonical := by
  refine Json.canonical_present ?_ ?_
  · exact (Assoc.ascending_iff_keys _).2 (by simp +decide)
  · simp only [List.forall_mem_cons, Json.canonical_mem_map, Json.canonical_mem_some,
      Json.canonical_mem_unlessNone]
    simp [EnvironmentVariable.canonical_toJson, Probe.canonical_toJson,
      ContainerPort.canonical_toJson, Mount.canonical_toJson,
      Pruned.canonical Shape.wellFormed_resources, Pruned.canonical Shape.wellFormed_securityContext]

theorem Volume.canonical_toJson (v : Volume) : v.toJson.Canonical := by
  have hmedium (m : Option String) : (Json.present [("medium", m.map .str)]).Canonical :=
    Json.canonical_present ((Assoc.ascending_iff_keys _).2 (by simp)) (by
      simp only [List.forall_mem_cons, Json.canonical_mem_map]
      simp)
  unfold Volume.toJson
  split <;> simp +decide [Assoc.ascending_iff_keys, hmedium]

theorem PodSpec.canonical_toJson (p : PodSpec) : p.toJson.Canonical := by
  refine Json.canonical_present ?_ ?_
  · exact (Assoc.ascending_iff_keys _).2 (by simp +decide)
  · simp only [List.forall_mem_cons, Json.canonical_mem_map, Json.canonical_mem_some,
      Json.canonical_mem_unlessNone]
    cases p.nodeSelector.isEmpty <;>
      simp [Container.canonical_toJson, Volume.canonical_toJson,
        Pruned.canonical Shape.wellFormed_affinity, Pruned.canonical Shape.wellFormed_toleration]

theorem PodTemplate.canonical_toJson (t : PodTemplate) : t.toJson.Canonical := by
  simp +decide [PodTemplate.toJson, Assoc.ascending_iff_keys, PodSpec.canonical_toJson]

end MeshOperator
