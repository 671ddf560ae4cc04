import MeshOperator.Proofs.ResourceKeys

/-!
What objects refer to.

An object names others: a binding its role and its subjects, a workload the account and the
volumes of its pods, a service the pods behind it, and what extends the API the service that
answers. Here these names are read from any object. For the objects that manifests make, the lemmas
say what is read.
-/

namespace MeshOperator

set_option autoImplicit false

/-! ## Names -/

namespace Json

/-- The account that is meant by a subject of a binding. -/
def accountKey (subject : Json) : ObjectKey where
  apiVersion := "v1"
  kind := subject.textAt ["kind"]
  ns := some (subject.textAt ["namespace"])
  name := subject.textAt ["name"]

def serviceKey (reference : Json) : ObjectKey :=
  Kind.service.keyIn (some (reference.textAt ["namespace"])) (reference.textAt ["name"])

/-- The secret or the data that a volume is made from. -/
def sourceKeys (ns : Option String) (volume : Json) : List ObjectKey :=
  ((volume.member? "secret").toList.map fun s =>
      Kind.secret.keyIn ns (s.textAt ["secretName"]))
    ++ (volume.member? "configMap").toList.map fun s =>
      Kind.configMap.keyIn ns (s.textAt ["name"])

section Pods

variable (pods : Json)

def podVolumes : List Json := pods.itemsAt ["spec", "volumes"]

def podContainers : List Json := pods.itemsAt ["spec", "containers"]

def podInitContainers : List Json := pods.itemsAt ["spec", "initContainers"]

/-- All that pods use from their namespace: their account, and what their volumes are made from. -/
def podKeys (ns : Option String) : List ObjectKey :=
  Kind.serviceAccount.keyIn ns (pods.textAt ["spec", "serviceAccountName"])
    :: pods.podVolumes.flatMap (sourceKeys ns)

/-- Volumes have names of their own, and no container mounts any other. -/
structure MountsOwn : Prop where
  nodup : (pods.podVolumes.map (textAt ["name"])).Nodup
  mounts : ∀ container ∈ pods.podContainers ++ pods.podInitContainers,
    ∀ mount ∈ container.itemsAt ["volumeMounts"],
      mount.textAt ["name"] ∈ pods.podVolumes.map (textAt ["name"])

/-- A container of the pods declares this port, by number or by name. -/
def DeclaresPort (target : Json) : Prop :=
  ∃ container ∈ pods.podContainers, ∃ port ∈ container.itemsAt ["ports"],
    port.member? "containerPort" = some target ∨ port.member? "name" = some target

/-- The labels of the pods have whatever the selector asks for. -/
def Selects (selector : Json) : Prop :=
  ∀ name value, selector.member? name = some value →
    pods.at? ["metadata", "labels", name] = some value

end Pods

end Json

namespace Object

variable (o : Object)

/-- The role that a binding refers to. A binding in a namespace finds roles there. -/
def roleKey : ObjectKey :=
  let role := (o.at? ["roleRef"]).getD .null
  { apiVersion := role.textAt ["apiGroup"] ++ "/v1"
    kind := role.textAt ["kind"]
    ns := if role.textAt ["kind"] = "ClusterRole" then none else o.metadata.ns
    name := role.textAt ["name"] }

def subjectKeys : List ObjectKey := (Json.items (o.at? ["subjects"])).map Json.accountKey

end Object

/-! ## Kinds -/

namespace Managed

def IsBinding (d : Managed) : Prop := d.key.kind = "RoleBinding" ∨ d.key.kind = "ClusterRoleBinding"

def IsWorkload (d : Managed) : Prop := d.key.kind = "Deployment" ∨ d.key.kind = "CronJob"

end Managed

namespace Content

variable {x : Content}

theorem binding_of_kind
    (h : x.kind.type.kind = "RoleBinding" ∨ x.kind.type.kind = "ClusterRoleBinding") :
    ∃ b, x = .roleBinding b ∨ x = .clusterRoleBinding b := by
  cases x with
  | roleBinding b => exact ⟨b, .inl rfl⟩
  | clusterRoleBinding b => exact ⟨b, .inr rfl⟩
  | _ => exact absurd h (not_or.2 ⟨ne_of_beq_false rfl, ne_of_beq_false rfl⟩)

theorem workload_of_kind (h : x.kind.type.kind = "Deployment" ∨ x.kind.type.kind = "CronJob") :
    (∃ d, x = .deployment d) ∨ ∃ j, x = .cronJob j := by
  cases x with
  | deployment d => exact .inl ⟨d, rfl⟩
  | cronJob j => exact .inr ⟨j, rfl⟩
  | _ => exact absurd h (not_or.2 ⟨ne_of_beq_false rfl, ne_of_beq_false rfl⟩)

theorem service_of_kind (h : x.kind.type.kind = "Service") : ∃ service, x = .service service := by
  cases x with
  | service service => exact ⟨service, rfl⟩
  | _ => exact absurd h (ne_of_beq_false rfl)

theorem webhook_of_kind (h : x.kind.type.kind = "MutatingWebhookConfiguration") :
    ∃ w, x = .webhook w := by
  cases x with
  | webhook w => exact ⟨w, rfl⟩
  | _ => exact absurd h (ne_of_beq_false rfl)

theorem apiService_of_kind (h : x.kind.type.kind = "APIService") : ∃ a, x = .apiService a := by
  cases x with
  | apiService a => exact ⟨a, rfl⟩
  | _ => exact absurd h (ne_of_beq_false rfl)

end Content

/-! ## What manifests refer to -/

/-- The resource that a volume is made from. -/
def VolumeSource.resource? : VolumeSource → Option (Kind × String)
  | .configMap name => some (.configMap, name)
  | .secret name => some (.secret, name)
  | .emptyDir _ => none

@[simp] theorem Volume.sourceKeys_toJson (v : Volume) (ns : Option String) :
    v.toJson.sourceKeys ns = v.source.resource?.toList.map fun r => r.1.keyIn ns r.2 := by
  obtain ⟨name, source⟩ := v
  cases source <;>
    simp +decide [toJson, Json.sourceKeys, VolumeSource.resource?, Json.textAt, Json.asString?]

@[simp] theorem Subject.accountKey_toJson (s : Subject) :
    s.toJson.accountKey = Kind.serviceAccount.keyIn (some s.ns) s.name := by
  simp [toJson, Json.accountKey, Kind.keyIn, Kind.serviceAccount, Json.textAt, Json.asString?]

namespace PodTemplate

variable (t : PodTemplate)

@[simp] theorem podVolumes_toJson :
    t.toJson.podVolumes = t.spec.volumes.map (·.toJson) := by
  simp [Json.podVolumes, Json.itemsAt]

@[simp] theorem podContainers_toJson :
    t.toJson.podContainers = t.spec.containers.map (·.toJson) := by
  simp [Json.podContainers, Json.itemsAt]

@[simp] theorem podInitContainers_toJson :
    t.toJson.podInitContainers = t.spec.initContainers.map (·.toJson) := by
  simp [Json.podInitContainers, Json.itemsAt]

theorem podKeys_toJson (ns : Option String) :
    t.toJson.podKeys ns = Kind.serviceAccount.keyIn ns t.spec.serviceAccount ::
      (t.spec.volumes.filterMap (·.source.resource?)).map fun r => r.1.keyIn ns r.2 := by
  simp [Json.podKeys, List.flatMap_map, List.filterMap_eq_flatMap_toList, List.map_flatMap,
    Json.textAt, Json.asString?]

theorem selects_iff (selector : StringMap) : t.toJson.Selects (.ofStringMap selector) ↔
    ∀ name value, selector.get? name = some value → t.labels.get? name = some value := by
  simp [Json.Selects, Json.member?_ofStringMap]

theorem mountsOwn_toJson (hnodup : (t.spec.volumes.map (·.name)).Nodup)
    (hmounts : ∀ mount ∈ (t.spec.containers ++ t.spec.initContainers).flatMap (·.mounts),
      mount.volume ∈ t.spec.volumes.map (·.name)) : t.toJson.MountsOwn := by
  have hnames : t.toJson.podVolumes.map (Json.textAt ["name"]) = t.spec.volumes.map (·.name) := by
    simp [Function.comp_def]
  refine ⟨hnames ▸ hnodup, fun container hcontainer mount hmount => ?_⟩
  rw [podContainers_toJson, podInitContainers_toJson, ← List.map_append] at hcontainer
  obtain ⟨c, hc, rfl⟩ := List.mem_map.1 hcontainer
  have hitems : c.toJson.itemsAt ["volumeMounts"] = c.mounts.map (·.toJson) := by
    simp [Json.itemsAt]
  rw [hitems] at hmount
  obtain ⟨m, hm, rfl⟩ := List.mem_map.1 hmount
  rw [hnames, Mount.textAt_name]
  exact hmounts m (List.mem_flatMap.2 ⟨c, hc, hm⟩)

theorem declaresPort_toJson {target : PortRef} {port : ContainerPort}
    (hport : port ∈ t.spec.containers.flatMap (·.ports))
    (htarget : target = .number port.number ∨ target = .name port.name) :
    t.toJson.DeclaresPort target.toJson := by
  obtain ⟨c, hc, hcport⟩ := List.mem_flatMap.1 hport
  have hitems : c.toJson.itemsAt ["ports"] = c.ports.map (·.toJson) := by simp [Json.itemsAt]
  refine ⟨c.toJson, by rw [podContainers_toJson]; exact List.mem_map_of_mem hc, port.toJson,
    by rw [hitems]; exact List.mem_map_of_mem hcport, ?_⟩
  rcases htarget with rfl | rfl <;> simp

end PodTemplate

namespace ServicePort

variable (p : ServicePort)

@[simp] theorem member?_port : p.toJson.member? "port" = some (.int p.port) := by simp [toJson]

@[simp] theorem member?_target : p.toJson.member? "targetPort" = some p.target.toJson := by
  simp [toJson]

end ServicePort

namespace Manifest

variable {m : Manifest}

theorem at?_role {b : Binding} {kind : Kind} (h : m.content.members = b.members kind) :
    m.managed.object.at? ["roleRef"] = some (.obj [
      ("apiGroup", .str kind.type.group),
      ("kind", .str kind.type.kind),
      ("name", .str b.role)]) := by
  simp [at?_object, h, Binding.members]

theorem roleKey_managed {b : Binding} {kind : Kind} (h : m.content.members = b.members kind) :
    m.managed.object.roleKey = {
      apiVersion := kind.type.group ++ "/v1"
      kind := kind.type.kind
      ns := if kind.type.kind = "ClusterRole" then none else m.ns
      name := b.role } := by
  have hns : m.managed.object.metadata.ns = m.ns := rfl
  simp [Object.roleKey, at?_role h, hns, Json.textAt, Json.asString?]

/-- Roles of a namespace are looked up in that of the binding. -/
theorem roleKey_eq {b : Binding} {kind : Kind} (hkind : kind = .role ∨ kind = .clusterRole)
    (h : m.content.members = b.members kind) : m.managed.object.roleKey =
      kind.keyIn (if kind.namespaced then m.ns else none) b.role := by
  rw [roleKey_managed h]
  rcases hkind with rfl | rfl <;> rfl

theorem subjectKeys_managed {b : Binding} {kind : Kind} (h : m.content.members = b.members kind) :
    m.managed.object.subjectKeys =
      b.subjects.map fun s => Kind.serviceAccount.keyIn (some s.ns) s.name := by
  simp [Object.subjectKeys, at?_object, h, Binding.members]

theorem at?_selector {service : Service} (h : m.content = .service service) :
    m.managed.object.at? ["spec", "selector"] = some (.ofStringMap service.selector) := by
  have hspec : m.content.members = [("spec", service.toJson)] := congrArg Content.members h
  simp [m.at?_spec hspec, Service.toJson]

theorem at?_ports {service : Service} (h : m.content = .service service) :
    m.managed.object.at? ["spec", "ports"] = some (.arr (service.ports.map (·.toJson))) := by
  have hspec : m.content.members = [("spec", service.toJson)] := congrArg Content.members h
  simp [m.at?_spec hspec, Service.toJson]

theorem at?_webhooks {w : Webhook} (h : m.content = .webhook w) :
    m.managed.object.at? ["webhooks"] = some (.arr [w.toJson]) := by
  simp [at?_object, h, Content.members]

theorem at?_apiService {a : ApiService} (h : m.content = .apiService a) :
    m.managed.object.at? ["spec", "service"] =
      some (.obj [("name", .str a.service), ("namespace", .str a.ns)]) := by
  have hspec : m.content.members = [("spec", a.toJson)] := congrArg Content.members h
  simp [m.at?_spec hspec, ApiService.toJson]

end Manifest

theorem Catalogue.Workload.at?_matchLabels (w : Catalogue.Workload) (c : Configuration) :
    (w.deployment c).managed.object.at? ["spec", "selector", "matchLabels"] =
      some (.ofStringMap (Catalogue.labels w.component c)) := by
  rw [Manifest.at?_spec _ rfl]
  simp

theorem Webhook.at?_service (w : Webhook) :
    w.toJson.at? ["clientConfig", "service"] = some (.obj [
      ("name", .str w.service),
      ("namespace", .str w.ns),
      ("path", .str "/")]) := by simp [toJson]

end MeshOperator
