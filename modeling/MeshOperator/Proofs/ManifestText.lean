import MeshOperator.Catalogue.Manifest
import MeshOperator.Proofs.Containment

/-!
Reading objects that were made from manifests.

`Json.at?` follows a path of member names, and `Object.template?` finds the pods of a workload. The
lemmas say what is found in the objects that the manifests of the catalogue make: what was written,
under the names that it was written with.
-/

namespace MeshOperator

set_option autoImplicit false

/-! ## Paths -/

namespace Json

/-- The value at the end of a path of member names. -/
def at? : List String → Json → Option Json
  | [], v => some v
  | name :: rest, v => (v.member? name).bind (at? rest)

/-- The items of a list; nothing has no items. -/
def items : Option Json → List Json
  | some (.arr items) => items
  | _ => []

def itemsAt (path : List String) (v : Json) : List Json := items (v.at? path)

/-- The text at the end of a path, empty if there is none. -/
def textAt (path : List String) (v : Json) : String := ((v.at? path).bind asString?).getD ""

section Paths

variable {members : Members} {fields : List (String × Option Json)} {name : String}

@[simp] theorem at?_nil (v : Json) : v.at? [] = some v := rfl

@[simp] theorem at?_cons (name : String) (rest : List String) (v : Json) :
    v.at? (name :: rest) = (v.member? name).bind (at? rest) := rfl

@[simp] theorem bind_at?_nil (v : Option Json) : v.bind (at? []) = v := by
  cases v <;> rfl

@[simp] theorem member?_nil : (obj []).member? name = none := rfl

@[simp] theorem member?_cons (other : String) (v : Json) (rest : Members) :
    (obj ((other, v) :: rest)).member? name =
      if name = other then some v else (obj rest).member? name := by
  simp [member?, Assoc.find?]

theorem member?_present (h : (fields.map (·.1)).Pairwise fun a b => compare a b = .lt)
    {v : Option Json} (hv : (name, v) ∈ fields) : (present fields).member? name = v :=
  find?_presentMembers ((Assoc.ascending_iff_keys _).2 h) hv

@[simp] theorem items_arr (vs : List Json) : items (some (.arr vs)) = vs := rfl

@[simp] theorem items_unlessNone {α : Type} (as : List α) (toJson : α → Json) :
    items (Json.unlessNone as toJson) = as.map toJson := by
  cases as <;> rfl

end Paths

end Json

namespace Object

/-- The value at the end of a path into the body. -/
def at? (path : List String) (o : Object) : Option Json := (Json.obj o.body.members).at? path

/-- What the pods of a workload are made from, for one that keeps running or for a job. -/
def template? (o : Object) : Option Json :=
  (o.at? ["spec", "template"]).or (o.at? ["spec", "jobTemplate", "spec", "template"])

end Object

/-! ## Pods -/

section Pods

@[simp] theorem PortRef.toJson_number (n : Nat) : (PortRef.number n).toJson = .int n := rfl

@[simp] theorem PortRef.toJson_name (s : String) : (PortRef.name s).toJson = .str s := rfl

@[simp] theorem ContainerPort.member?_number (p : ContainerPort) :
    p.toJson.member? "containerPort" = some (.int p.number) := by simp [toJson]

@[simp] theorem ContainerPort.member?_name (p : ContainerPort) :
    p.toJson.member? "name" = some (.str p.name) := by simp [toJson]

@[simp] theorem Mount.textAt_name (m : Mount) : m.toJson.textAt ["name"] = m.volume := by
  have hname : m.toJson.member? "name" = some (.str m.volume) :=
    Json.member?_present (by simp +decide) (by simp)
  simp [Json.textAt, hname, Json.asString?]

@[simp] theorem Volume.textAt_name (v : Volume) : v.toJson.textAt ["name"] = v.name := by
  unfold toJson
  split <;> simp [Json.textAt, Json.asString?]

namespace Container

variable (c : Container)

@[simp] theorem member?_image : c.toJson.member? "image" = some (.str c.image) :=
  Json.member?_present (by simp +decide) (by simp)

@[simp] theorem member?_resources :
    c.toJson.member? "resources" = some c.resources.value :=
  Json.member?_present (by simp +decide) (by simp)

@[simp] theorem member?_securityContext :
    c.toJson.member? "securityContext" = some c.securityContext.value :=
  Json.member?_present (by simp +decide) (by simp)

@[simp] theorem member?_ports :
    c.toJson.member? "ports" = Json.unlessNone c.ports (·.toJson) :=
  Json.member?_present (by simp +decide) (by simp)

@[simp] theorem member?_mounts :
    c.toJson.member? "volumeMounts" = Json.unlessNone c.mounts (·.toJson) :=
  Json.member?_present (by simp +decide) (by simp)

end Container

namespace PodSpec

variable (p : PodSpec)

@[simp] theorem member?_affinity : p.toJson.member? "affinity" = p.affinity.map (·.value) :=
  Json.member?_present (by simp +decide) (by simp)

@[simp] theorem member?_containers :
    p.toJson.member? "containers" = some (.arr (p.containers.map (·.toJson))) :=
  Json.member?_present (by simp +decide) (by simp)

@[simp] theorem member?_initContainers :
    p.toJson.member? "initContainers" = Json.unlessNone p.initContainers (·.toJson) :=
  Json.member?_present (by simp +decide) (by simp)

@[simp] theorem member?_nodeSelector :
    p.toJson.member? "nodeSelector" =
      if p.nodeSelector.isEmpty then none else some (.ofStringMap p.nodeSelector) :=
  Json.member?_present (by simp +decide) (by simp)

@[simp] theorem member?_serviceAccount :
    p.toJson.member? "serviceAccountName" = some (.str p.serviceAccount) :=
  Json.member?_present (by simp +decide) (by simp)

@[simp] theorem member?_tolerations :
    p.toJson.member? "tolerations" = Json.unlessNone p.tolerations (·.value) :=
  Json.member?_present (by simp +decide) (by simp)

@[simp] theorem member?_volumes :
    p.toJson.member? "volumes" = Json.unlessNone p.volumes (·.toJson) :=
  Json.member?_present (by simp +decide) (by simp)

end PodSpec

namespace PodTemplate

variable (t : PodTemplate)

@[simp] theorem member?_metadata : t.toJson.member? "metadata" = some (.obj [
    ("annotations", .ofStringMap t.annotations),
    ("labels", .ofStringMap t.labels)]) := by simp [toJson]

@[simp] theorem member?_spec : t.toJson.member? "spec" = some t.spec.toJson := by simp [toJson]

end PodTemplate

end Pods

/-! ## Workloads -/

section Workloads

namespace Deployment

variable (d : Deployment)

@[simp] theorem member?_replicas :
    d.toJson.member? "replicas" = some (.int d.replicas.toInt) := by simp [toJson]

@[simp] theorem member?_selector :
    d.toJson.member? "selector" = some (.obj [("matchLabels", .ofStringMap d.selector)]) := by
  simp [toJson]

@[simp] theorem member?_template :
    d.toJson.member? "template" = some d.template.toJson := by simp [toJson]

end Deployment

namespace CronJob

variable (j : CronJob)

@[simp] theorem member?_schedule : j.toJson.member? "schedule" = some (.str j.schedule) := by
  simp [toJson]

@[simp] theorem member?_template : j.toJson.member? "template" = none := by simp [toJson]

@[simp] theorem at?_jobTemplate :
    (j.toJson.member? "jobTemplate").bind (Json.at? ["spec", "template"]) =
      some j.template.toJson := by simp [toJson]

end CronJob

variable (m : Manifest)

theorem Manifest.at?_object (path : List String) :
    m.managed.object.at? path = (Json.obj m.content.members).at? path := rfl

/-- Most contents have nothing but a specification. -/
theorem Manifest.at?_spec {v : Json} (h : m.content.members = [("spec", v)])
    (rest : List String) : m.managed.object.at? ("spec" :: rest) = v.at? rest := by
  simp [Manifest.at?_object, h]

theorem Manifest.template?_deployment {d : Deployment} (h : m.content = .deployment d) :
    m.managed.object.template? = some d.template.toJson := by
  have hspec : m.content.members = [("spec", d.toJson)] := congrArg Content.members h
  simp [Object.template?, m.at?_spec hspec]

theorem Manifest.template?_cronJob {j : CronJob} (h : m.content = .cronJob j) :
    m.managed.object.template? = some j.template.toJson := by
  have hspec : m.content.members = [("spec", j.toJson)] := congrArg Content.members h
  simp [Object.template?, m.at?_spec hspec]

end Workloads

end MeshOperator
