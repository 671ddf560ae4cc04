import MeshOperator.Catalogue.Pod
import MeshOperator.Object.Kind
import MeshOperator.Object.Basic
import MeshOperator.Text.Base64

/-!
Manifests: the objects that the operator can make.

A `Manifest` has a name, a place, labels, annotations, an owner and a content; the content decides
the kind. `Manifest.managed` is the object that goes to the cluster.
-/

namespace MeshOperator

set_option autoImplicit false

structure PolicyRule where
  apiGroups : List String
  resources : List String
  verbs : List String
  /-- Only resources with these names, if any are given. -/
  resourceNames : List String := []
  deriving DecidableEq, Repr

def PolicyRule.toJson (r : PolicyRule) : Json := .present [
  ("apiGroups", some (.strings r.apiGroups)),
  ("resourceNames", Json.unlessNone r.resourceNames .str),
  ("resources", some (.strings r.resources)),
  ("verbs", some (.strings r.verbs))]

structure Subject where
  name : String
  ns : String
  deriving DecidableEq, Repr

def Subject.toJson (s : Subject) : Json := .obj [
  ("kind", .str "ServiceAccount"),
  ("name", .str s.name),
  ("namespace", .str s.ns)]

structure Binding where
  role : String
  subjects : List Subject
  deriving DecidableEq, Repr

def Binding.members (roleKind : Kind) (b : Binding) : Json.Members := [
  ("roleRef", .obj [
    ("apiGroup", .str roleKind.type.group),
    ("kind", .str roleKind.type.kind),
    ("name", .str b.role)]),
  ("subjects", .arr (b.subjects.map (·.toJson)))]

structure Deployment where
  replicas : Int32
  selector : StringMap
  template : PodTemplate

def Deployment.toJson (d : Deployment) : Json := .obj [
  ("replicas", .int d.replicas.toInt),
  ("selector", .obj [("matchLabels", .ofStringMap d.selector)]),
  ("strategy", .obj [("rollingUpdate", .obj [("maxUnavailable", .int 1)])]),
  ("template", d.template.toJson)]

/-- A job on a schedule; successful runs are not kept. -/
structure CronJob where
  schedule : String
  labels : StringMap
  template : PodTemplate

def CronJob.toJson (c : CronJob) : Json := .obj [
  ("jobTemplate", .obj [
    ("metadata", .obj [("labels", .ofStringMap c.labels)]),
    ("spec", .obj [("template", c.template.toJson)])]),
  ("schedule", .str c.schedule),
  ("successfulJobsHistoryLimit", .int 0)]

structure ServicePort where
  name : String
  port : Nat
  target : PortRef
  deriving DecidableEq, Repr

def ServicePort.toJson (p : ServicePort) : Json := .obj [
  ("name", .str p.name),
  ("port", .int p.port),
  ("targetPort", p.target.toJson)]

structure Service where
  selector : StringMap
  ports : List ServicePort
  deriving DecidableEq

def Service.toJson (s : Service) : Json := .obj [
  ("ports", .arr (s.ports.map (·.toJson))),
  ("selector", .ofStringMap s.selector),
  ("type", .str "ClusterIP")]

/-- A secret: texts, written as encoded bytes. -/
structure SecretData where
  type : Option String
  entries : StringMap
  deriving DecidableEq

def SecretData.members (s : SecretData) : Json.Members :=
  ("data", .obj (s.entries.entries.map fun e => (e.1, .str (Base64.ofText e.2))))
    :: s.type.toList.map fun t => ("type", .str t)

/-- A webhook that is asked about new pods, served by a service. -/
structure Webhook where
  name : String
  service : String
  ns : String
  trustAnchors : String
  deriving DecidableEq, Repr

/-- Namespaces can opt out with a label, and a failing webhook is ignored. -/
def Webhook.toJson (w : Webhook) : Json := .obj [
  ("admissionReviewVersions", .strings ["v1", "v1beta1"]),
  ("clientConfig", .obj [
    ("caBundle", .str (Base64.ofText w.trustAnchors)),
    ("service", .obj [
      ("name", .str w.service),
      ("namespace", .str w.ns),
      ("path", .str "/")])]),
  ("failurePolicy", .str "Ignore"),
  ("name", .str w.name),
  ("namespaceSelector", .obj [
    ("matchExpressions", .arr [.obj [
      ("key", .str "config.linkerd.io/admission-webhooks"),
      ("operator", .str "NotIn"),
      ("values", .strings ["disabled"])]])]),
  ("rules", .arr [.obj [
    ("apiGroups", .strings [""]),
    ("apiVersions", .strings ["v1"]),
    ("operations", .strings ["CREATE"]),
    ("resources", .strings ["pods"])]]),
  ("sideEffects", .str "None")]

/-- A version of an API that a service serves. -/
structure ApiService where
  group : String
  version : String
  service : String
  ns : String
  trustAnchors : String
  deriving DecidableEq, Repr

def ApiService.toJson (a : ApiService) : Json := .obj [
  ("caBundle", .str (Base64.ofText a.trustAnchors)),
  ("group", .str a.group),
  ("groupPriorityMinimum", .int 1000),
  ("service", .obj [("name", .str a.service), ("namespace", .str a.ns)]),
  ("version", .str a.version),
  ("versionPriority", .int 100)]

structure Column where
  name : String
  type : String
  description : String
  path : String
  deriving DecidableEq, Repr

def Column.toJson (c : Column) : Json := .obj [
  ("description", .str c.description),
  ("jsonPath", .str c.path),
  ("name", .str c.name),
  ("type", .str c.type)]

/-- A served version of a kind; its schema accepts any object. -/
structure KindVersion where
  name : String
  storage : Bool
  columns : List Column := []
  deriving DecidableEq, Repr

def KindVersion.toJson (v : KindVersion) : Json := .present [
  ("additionalPrinterColumns", Json.unlessNone v.columns (·.toJson)),
  ("name", some (.str v.name)),
  ("schema", some (.obj [
    ("openAPIV3Schema", .obj [
      ("type", .str "object"),
      ("x-kubernetes-preserve-unknown-fields", .bool true)])])),
  ("served", some (.bool true)),
  ("storage", some (.bool v.storage))]

structure KindDefinition where
  group : String
  kind : String
  plural : String
  singular : String
  shortName : String
  versions : List KindVersion
  deriving DecidableEq, Repr

def KindDefinition.toJson (d : KindDefinition) : Json := .obj [
  ("group", .str d.group),
  ("names", .obj [
    ("kind", .str d.kind),
    ("plural", .str d.plural),
    ("shortNames", .strings [d.shortName]),
    ("singular", .str d.singular)]),
  ("scope", .str "Namespaced"),
  ("versions", .arr (d.versions.map (·.toJson)))]

/-- What the pods of the control plane may do: no privileges beyond what setting up the proxy
takes. -/
def podSecurityPolicy : Json :=
  let anyButRoot : Json := .obj [
    ("ranges", .arr [.obj [("max", .int 65535), ("min", .int 1)]]),
    ("rule", .str "MustRunAs")]
  .obj [
    ("allowPrivilegeEscalation", .bool false),
    ("allowedCapabilities", .strings ["NET_ADMIN", "NET_RAW"]),
    ("fsGroup", anyButRoot),
    ("hostIPC", .bool false),
    ("hostNetwork", .bool false),
    ("hostPID", .bool false),
    ("readOnlyRootFilesystem", .bool true),
    ("requiredDropCapabilities", .strings ["ALL"]),
    ("runAsUser", .obj [("rule", .str "RunAsAny")]),
    ("seLinux", .obj [("rule", .str "RunAsAny")]),
    ("supplementalGroups", anyButRoot),
    ("volumes", .strings ["configMap", "emptyDir", "secret", "projected", "downwardAPI",
      "persistentVolumeClaim"])]

/-! ## Encodings are canonical -/

theorem PolicyRule.canonical_toJson (r : PolicyRule) : r.toJson.Canonical := by
  refine Json.canonical_present ?_ ?_
  · exact (Assoc.ascending_iff_keys _).2 (by simp +decide)
  · simp only [List.forall_mem_cons, Json.canonical_mem_some, Json.canonical_mem_unlessNone]
    simp

theorem Subject.canonical_toJson (s : Subject) : s.toJson.Canonical := by
  simp +decide [Subject.toJson, Assoc.ascending_iff_keys]

theorem Binding.canonical_members (roleKind : Kind) (b : Binding) :
    (Json.obj (b.members roleKind)).Canonical := by
  simp +decide [Binding.members, Assoc.ascending_iff_keys, Subject.canonical_toJson]

theorem Deployment.canonical_toJson (d : Deployment) : d.toJson.Canonical := by
  simp +decide [Deployment.toJson, Assoc.ascending_iff_keys, PodTemplate.canonical_toJson]

theorem CronJob.canonical_toJson (c : CronJob) : c.toJson.Canonical := by
  simp +decide [CronJob.toJson, Assoc.ascending_iff_keys, PodTemplate.canonical_toJson]

theorem ServicePort.canonical_toJson (p : ServicePort) : p.toJson.Canonical := by
  simp +decide [ServicePort.toJson, Assoc.ascending_iff_keys, PortRef.canonical_toJson]

theorem Service.canonical_toJson (s : Service) : s.toJson.Canonical := by
  simp +decide [Service.toJson, Assoc.ascending_iff_keys, ServicePort.canonical_toJson]

theorem SecretData.canonical_members (s : SecretData) : (Json.obj s.members).Canonical := by
  have hdata := Json.canonical_texts s.entries.ascending Base64.ofText
  rw [SecretData.members, Json.canonical_obj, Assoc.ascending_iff_keys]
  cases s.type <;> simp +decide [-Json.canonical_obj, hdata]

theorem Webhook.canonical_toJson (w : Webhook) : w.toJson.Canonical := by
  simp +decide [Webhook.toJson, Assoc.ascending_iff_keys]

theorem ApiService.canonical_toJson (a : ApiService) : a.toJson.Canonical := by
  simp +decide [ApiService.toJson, Assoc.ascending_iff_keys]

theorem Column.canonical_toJson (c : Column) : c.toJson.Canonical := by
  simp +decide [Column.toJson, Assoc.ascending_iff_keys]

theorem KindVersion.canonical_toJson (v : KindVersion) : v.toJson.Canonical := by
  refine Json.canonical_present ?_ ?_
  · exact (Assoc.ascending_iff_keys _).2 (by simp +decide)
  · simp only [List.forall_mem_cons, Json.canonical_mem_some, Json.canonical_mem_unlessNone]
    simp +decide [Column.canonical_toJson]

theorem KindDefinition.canonical_toJson (d : KindDefinition) : d.toJson.Canonical := by
  simp +decide [KindDefinition.toJson, Assoc.ascending_iff_keys, KindVersion.canonical_toJson]

theorem canonical_podSecurityPolicy : podSecurityPolicy.Canonical := by decide

/-! ## Objects -/

inductive Content where
  | serviceAccount
  | role (rules : List PolicyRule)
  | clusterRole (rules : List PolicyRule)
  | roleBinding (binding : Binding)
  | clusterRoleBinding (binding : Binding)
  | configMap (data : StringMap)
  | secret (data : SecretData)
  | deployment (deployment : Deployment)
  | cronJob (job : CronJob)
  | service (service : Service)
  | webhook (webhook : Webhook)
  | apiService (service : ApiService)
  | podSecurityPolicy
  | kindDefinition (definition : KindDefinition)

namespace Content

def kind : Content → Kind
  | .serviceAccount => .serviceAccount
  | .role _ => .role
  | .clusterRole _ => .clusterRole
  | .roleBinding _ => .roleBinding
  | .clusterRoleBinding _ => .clusterRoleBinding
  | .configMap _ => .configMap
  | .secret _ => .secret
  | .deployment _ => .deployment
  | .cronJob _ => .cronJob
  | .service _ => .service
  | .webhook _ => .mutatingWebhookConfiguration
  | .apiService _ => .apiService
  | .podSecurityPolicy => .podSecurityPolicy
  | .kindDefinition _ => .customResourceDefinition

/-- No manifest makes a record. -/
theorem kind_ne_record (c : Content) : c.kind.type ≠ Kind.record.type := by
  have hversion : c.kind.type.apiVersion ≠ "linkerd.linkerd.io/v1alpha1" := by
    cases c <;> exact ne_of_beq_false rfl
  exact fun h => hversion (congrArg TypeName.apiVersion h)

def members : Content → Json.Members
  | .serviceAccount => []
  | .role rules | .clusterRole rules => [("rules", .arr (rules.map (·.toJson)))]
  | .roleBinding b => b.members .role
  | .clusterRoleBinding b => b.members .clusterRole
  | .configMap data => [("data", .ofStringMap data)]
  | .secret data => data.members
  | .deployment d => [("spec", d.toJson)]
  | .cronJob c => [("spec", c.toJson)]
  | .service s => [("spec", s.toJson)]
  | .webhook w => [("webhooks", .arr [w.toJson])]
  | .apiService a => [("spec", a.toJson)]
  | .podSecurityPolicy => [("spec", MeshOperator.podSecurityPolicy)]
  | .kindDefinition d => [("spec", d.toJson)]

theorem canonical_members (c : Content) : (Json.obj c.members).Canonical := by
  cases c with
  | roleBinding b => exact b.canonical_members _
  | clusterRoleBinding b => exact b.canonical_members _
  | secret data => exact data.canonical_members
  | _ =>
    simp [members, Assoc.ascending_iff_keys, PolicyRule.canonical_toJson,
      Deployment.canonical_toJson, CronJob.canonical_toJson, Service.canonical_toJson,
      Webhook.canonical_toJson, ApiService.canonical_toJson, canonical_podSecurityPolicy,
      KindDefinition.canonical_toJson]

theorem unreserved_members (c : Content) : ∀ m ∈ c.members, m.1 ≠ "metadata" := by
  cases c <;> simp [members, Binding.members, SecretData.members]

def body (c : Content) : Body := ⟨c.members, c.canonical_members, c.unreserved_members⟩

end Content

structure Manifest where
  name : String
  ns : Option String
  labels : StringMap
  annotations : Option StringMap
  owner : Option OwnerReference
  content : Content

namespace Manifest

def metadata (m : Manifest) : Metadata := { Metadata.empty with
  name := some m.name
  ns := m.ns
  labels := some m.labels
  annotations := m.annotations
  ownerReferences := m.owner.map fun o => [o] }

def key (m : Manifest) : ObjectKey where
  apiVersion := m.content.kind.type.apiVersion
  kind := m.content.kind.type.kind
  ns := m.ns
  name := m.name

def managed (m : Manifest) : Managed where
  object := ⟨some m.content.kind.type, m.metadata, m.content.body⟩
  key := m.key
  keyed := rfl

end Manifest

end MeshOperator
