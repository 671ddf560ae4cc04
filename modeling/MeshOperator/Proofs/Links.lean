import MeshOperator.Proofs.References

/-!
What the manifests of the catalogue refer to.

All of it is there: what a manifest names is in the table of resources, a service belongs to the
part whose workload it selects, and whoever extends the API has its service beside it. `Linked` says
so for one manifest, and `links_controlPlane` goes through all productions. What the pods of a part
use and offer is listed part by part.
-/

namespace MeshOperator

set_option autoImplicit false

/-- The roles that a cluster has without the operator. -/
def builtInRoles : List ObjectKey := [
  Kind.clusterRole.keyIn none "system:auth-delegator",
  Kind.role.keyIn (some "kube-system") "extension-apiserver-authentication-reader"]

open Catalogue

/-! ## Pods of parts -/

namespace Part

def component : Part → String
  | .controller => Controller.component
  | .destination => Destination.component
  | .heartbeat => Heartbeat.component
  | .identity => Identity.component
  | .prometheus => Prometheus.component
  | .proxyInjector => ProxyInjector.component
  | .tap => Tap.component
  | .web => Web.component

def account : Part → String
  | .controller => Controller.account
  | .destination => Destination.account
  | .heartbeat => Heartbeat.account
  | .identity => Identity.account
  | .prometheus => Prometheus.account
  | .proxyInjector => ProxyInjector.account
  | .tap => Tap.account
  | .web => Web.account

/-- The volumes of the pods of a part. All that keep running share the first two. -/
def volumes : Part → List Volume
  | .heartbeat => []
  | part => [configVolume, ⟨endEntityVolume, .emptyDir (some "Memory")⟩] ++
    match part with
    | .identity => [⟨"identity-issuer", .secret Identity.secretName⟩]
    | .prometheus =>
      [⟨"data", .emptyDir none⟩, ⟨"prometheus-config", .configMap Prometheus.configName⟩]
    | .proxyInjector => [⟨"tls", .secret ProxyInjector.secretName⟩]
    | .tap => [⟨"tls", .secret Tap.secretName⟩]
    | _ => []

/-- The names of the volumes that its containers mount. -/
def mounted : Part → List String
  | .heartbeat => []
  | .identity => ["config", "identity-issuer", endEntityVolume]
  | .prometheus => ["data", "prometheus-config", endEntityVolume]
  | .proxyInjector => ["config", "tls", endEntityVolume]
  | .tap => ["tls", "config", endEntityVolume]
  | _ => ["config", endEntityVolume]

/-- The ports of its first container. -/
def ports : Part → List ContainerPort
  | .controller => [⟨"http", 8085⟩, ⟨"admin-http", 9995⟩]
  | .destination => [⟨"grpc", 8086⟩, ⟨"admin-http", 9996⟩]
  | .heartbeat => []
  | .identity => [⟨"grpc", 8080⟩, ⟨"admin-http", 9990⟩]
  | .prometheus => [⟨"admin-http", 9090⟩]
  | .proxyInjector => [⟨"proxy-injector", 8443⟩, ⟨"admin-http", 9995⟩]
  | .tap => [⟨"grpc", 8088⟩, ⟨"apiserver", 8089⟩, ⟨"admin-http", 9998⟩]
  | .web => [⟨"http", 8084⟩, ⟨"admin-http", 9994⟩]

/-- The pods of this template are those of the part. -/
structure Runs (part : Part) (c : Configuration) (t : PodTemplate) : Prop where
  labels : t.labels = workloadLabels part.component c
  account : t.spec.serviceAccount = part.account
  volumes : t.spec.volumes = part.volumes
  mounted : ((t.spec.containers ++ t.spec.initContainers).flatMap (·.mounts)).map (·.volume) =
    part.mounted
  ports : ∃ container ∈ t.spec.containers, container.ports = part.ports

variable {part : Part} {c : Configuration}

theorem runs_workload {d : Managed} (h : part.workload.build c = .ok d) :
    d.IsWorkload ∧ d.key.ns = some c.ns ∧ ∃ t : PodTemplate, d.object.template? = some t.toJson ∧
      part.Runs c t ∧ (d.key.kind = "Deployment" →
        d.object.at? ["spec", "selector", "matchLabels"] =
          some (.ofStringMap (labels part.component c))) := by
  cases part with
  | heartbeat =>
    obtain ⟨m, hm, rfl⟩ := map_ok_inv h
    obtain rfl := cronJob_eq_of_ok hm
    exact ⟨.inr rfl, rfl, _, Manifest.template?_cronJob _ rfl,
      ⟨rfl, rfl, rfl, rfl, _, List.mem_cons_self, rfl⟩,
      fun hkind => absurd hkind (ne_of_beq_false rfl)⟩
  | _ =>
    cases h
    exact ⟨.inl rfl, rfl, _, Manifest.template?_deployment _ rfl,
      ⟨rfl, rfl, rfl, rfl, _, List.mem_cons_self, rfl⟩, fun _ => Workload.at?_matchLabels _ c⟩

variable (part)

theorem account_mem : (Kind.serviceAccount, part.account) ∈ table.flatten := by
  cases part <;> decide +kernel

theorem sources_mem : ∀ r ∈ part.volumes.filterMap (·.source.resource?),
    r ∈ table.flatten ∧ r.1.namespaced ∧ r ≠ authReader := by
  cases part <;> decide +kernel

theorem nodup_volumes : (part.volumes.map (·.name)).Nodup := by cases part <;> decide

theorem component_injective : Function.Injective component := by
  intro part other h
  cases part <;> cases other <;> first
    | rfl
    | exact absurd h (by decide)

theorem mounted_mem : ∀ name ∈ part.mounted, name ∈ part.volumes.map (·.name) := by
  cases part <;> decide

end Part

/-! ## Links -/

/-- A binding of accounts that there are to a role that there is. -/
structure Binds (c : Configuration) (m : Manifest) (kind : Kind) (b : Binding) : Prop where
  role : kind.keyIn (if kind.namespaced then m.ns else none) b.role ∈ builtInRoles ∨
    (kind, b.role) ∈ table.flatten ∧ (kind.namespaced → m.ns = some c.ns)
  nonempty : b.subjects ≠ []
  subjects : ∀ s ∈ b.subjects, s.ns = c.ns ∧ (Kind.serviceAccount, s.name) ∈ table.flatten

/-- The subsystem makes this service with the port for secure requests. -/
def Publishes (s : Subsystem) (name : String) : Prop :=
  ∃ label component ports, .always label (service name component ports) ∈ s.productions ∧
    ∃ port ∈ ports, port.port = 443

/-- What a manifest of the subsystem refers to is there. -/
def Linked (s : Subsystem) (c : Configuration) (m : Manifest) : Prop :=
  match m.content with
  | .roleBinding b => Binds c m .role b
  | .clusterRoleBinding b => Binds c m .clusterRole b
  | .deployment _ | .cronJob _ => ∃ part : Part, part.workload.build c = .ok m.managed
  | .service service => ∃ part : Part, s = part.subsystem ∧ m.ns = some c.ns ∧
    service.selector = .ofList [(componentLabel, part.component)] ∧
    ∀ port ∈ service.ports, ∃ declared ∈ part.ports,
      port.target = .number declared.number ∨ port.target = .name declared.name
  | .webhook w => w.ns = c.ns ∧ Publishes s w.service
  | .apiService a => a.ns = c.ns ∧ Publishes s a.service
  | _ => True

def Subsystem.Links (s : Subsystem) (p : Production) : Prop :=
  ∀ c d, p.build c = .ok d → ∃ m : Manifest, d = m.managed ∧ Linked s c m

section Links

variable {s : Subsystem} {c : Configuration} {label name role account component : String}

theorem links_always {build : Configuration → Manifest} (h : ∀ c, Linked s c (build c)) :
    s.Links (.always label build) := by
  intro c d hd
  cases hd
  exact ⟨_, rfl, h c⟩

theorem links_workload (part : Part) : part.subsystem.Links part.workload := by
  intro c d hd
  cases part with
  | heartbeat =>
    obtain ⟨m, hm, rfl⟩ := map_ok_inv hd
    obtain rfl := cronJob_eq_of_ok hm
    exact ⟨_, rfl, .heartbeat, hd⟩
  | _ =>
    have hbuilt := hd
    cases hd
    exact ⟨_, rfl, _, hbuilt⟩

theorem linked_clusterRoleBinding (hrole : (Kind.clusterRole, role) ∈ table.flatten)
    (haccount : (Kind.serviceAccount, account) ∈ table.flatten) :
    Linked s c (clusterRoleBinding name role account component c) where
  role := .inr ⟨hrole, nofun⟩
  nonempty := nofun
  subjects := List.forall_mem_singleton.2 ⟨rfl, haccount⟩

theorem linked_delegator (haccount : (Kind.serviceAccount, account) ∈ table.flatten) :
    Linked s c (clusterRoleBinding name "system:auth-delegator" account component c) where
  role := .inl List.mem_cons_self
  nonempty := nofun
  subjects := List.forall_mem_singleton.2 ⟨rfl, haccount⟩

theorem linked_roleBinding (hrole : (Kind.role, role) ∈ table.flatten)
    (haccount : (Kind.serviceAccount, account) ∈ table.flatten) :
    Linked s c (roleBinding name role account component c) where
  role := .inr ⟨hrole, fun _ => rfl⟩
  nonempty := nofun
  subjects := List.forall_mem_singleton.2 ⟨rfl, haccount⟩

theorem linked_authReader : Linked s c (Tap.authReaderBinding c) where
  role := .inl (List.mem_cons_of_mem _ List.mem_cons_self)
  nonempty := nofun
  subjects := List.forall_mem_singleton.2 ⟨rfl, Part.tap.account_mem⟩

theorem linked_policyRoleBinding : Linked s c (SecurityPolicy.policyRoleBinding c) := by
  have hrole : (Kind.role, SecurityPolicy.roleName) ∈ table.flatten := by decide +kernel
  have haccounts : ∀ account ∈ SecurityPolicy.accounts,
      (Kind.serviceAccount, account) ∈ table.flatten := by decide +kernel
  exact ⟨.inr ⟨hrole, fun _ => rfl⟩, nofun,
    List.forall_mem_map.2 fun account haccount => ⟨rfl, haccounts account haccount⟩⟩

theorem linked_service {part : Part} {ports : List ServicePort}
    (hports : ∀ port ∈ ports, ∃ declared ∈ part.ports,
      port.target = .number declared.number ∨ port.target = .name declared.name) :
    Linked part.subsystem c (service name part.component ports c) :=
  ⟨part, rfl, rfl, rfl, hports⟩

theorem linked_webhook :
    Linked ProxyInjector.subsystem c (ProxyInjector.webhookConfiguration c) := by
  have hservice : .always "service" (service ProxyInjector.serviceName ProxyInjector.component
      [⟨"proxy-injector", 443, .name "proxy-injector"⟩]) ∈ ProxyInjector.subsystem.productions := by
    simp [ProxyInjector.subsystem]
  exact ⟨rfl, _, _, _, hservice, _, List.mem_cons_self, rfl⟩

theorem linked_apiService : Linked Tap.subsystem c (Tap.apiService c) := by
  have hservice : .always "service" (service Tap.serviceName Tap.component
      [⟨"grpc", 8088, .number 8088⟩, ⟨"apiserver", 443, .name "apiserver"⟩]) ∈
      Tap.subsystem.productions := by simp [Tap.subsystem]
  exact ⟨rfl, _, _, _, hservice, _, List.mem_cons_of_mem _ List.mem_cons_self, rfl⟩

theorem links_part (part : Part) : ∀ p ∈ part.subsystem.productions, part.subsystem.Links p := by
  cases part
  all_goals repeat' refine List.forall_mem_cons.2 ⟨?_, ?_⟩
  all_goals first
    | exact List.forall_mem_nil _
    | exact links_workload _
    | exact links_always fun _ => trivial
    | exact links_always fun _ => linked_service (by decide)
    | exact links_always fun _ => linked_authReader
    | exact links_always fun _ => linked_webhook
    | exact links_always fun _ => linked_apiService
    | exact links_always fun _ => linked_roleBinding (by decide +kernel) (by decide +kernel)
    | exact links_always fun _ => linked_delegator (by decide +kernel)
    | exact links_always fun _ => linked_clusterRoleBinding (by decide +kernel) (by decide +kernel)

theorem links_securityPolicy :
    ∀ p ∈ SecurityPolicy.subsystem.productions, SecurityPolicy.subsystem.Links p := by
  repeat' refine List.forall_mem_cons.2 ⟨?_, ?_⟩
  all_goals first
    | exact List.forall_mem_nil _
    | exact links_always fun _ => trivial
    | exact links_always fun _ => linked_policyRoleBinding

theorem links_controlPlane : ∀ s ∈ controlPlane, ∀ p ∈ s.productions, s.Links p := by
  intro s hs
  simp only [controlPlane, List.mem_cons, List.not_mem_nil, or_false] at hs
  rcases hs with rfl | rfl | rfl | rfl | rfl | rfl | rfl | rfl | rfl
  · exact links_part .controller
  · exact links_part .destination
  · exact links_part .heartbeat
  · exact links_part .identity
  · exact links_part .prometheus
  · exact links_part .proxyInjector
  · exact links_part .web
  · exact links_part .tap
  · exact links_securityPolicy

end Links

theorem Linked.binds {s : Subsystem} {c : Configuration} {m : Manifest} (h : Linked s c m)
    (hkind : m.managed.IsBinding) : ∃ kind b, (kind = .role ∨ kind = .clusterRole) ∧
      m.content.members = b.members kind ∧ Binds c m kind b := by
  obtain ⟨b, hcontent | hcontent⟩ := Content.binding_of_kind hkind
  · simp only [Linked, hcontent] at h
    exact ⟨.role, b, .inl rfl, congrArg Content.members hcontent, h⟩
  · simp only [Linked, hcontent] at h
    exact ⟨.clusterRole, b, .inr rfl, congrArg Content.members hcontent, h⟩

theorem Linked.workload {s : Subsystem} {c : Configuration} {m : Manifest} (h : Linked s c m)
    (hkind : m.managed.IsWorkload) : ∃ part : Part, part.workload.build c = .ok m.managed := by
  obtain ⟨d, hcontent⟩ | ⟨j, hcontent⟩ := Content.workload_of_kind hkind
  · simp only [Linked, hcontent] at h
    exact h
  · simp only [Linked, hcontent] at h
    exact h

end MeshOperator
