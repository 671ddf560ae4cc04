import MeshOperator.Proofs.Links
import MeshOperator.Proofs.RenderedPass

/-!
All names resolve.

Whatever an object of the control plane names is in the control plane, apart from two roles that
every cluster has. `Closed` spells this out for what is read off the rendered objects. They are made
from manifests that are linked, and links lead to resources of the table, all of which are rendered.
-/

namespace MeshOperator

set_option autoImplicit false

/-! ## Closed sets of objects -/

namespace Managed

/-- The selector of a service fits the pods of a workload. -/
def Selects (service workload : Managed) : Prop :=
  workload.IsWorkload ∧ ∃ selector pods,
    service.object.at? ["spec", "selector"] = some selector ∧
    workload.object.template? = some pods ∧ pods.Selects selector

def servicePorts (d : Managed) : List Json := Json.items (d.object.at? ["spec", "ports"])

/-- One of the objects is the service that is referred to, and has the port for secure requests.
That port is meant where a reference names none. -/
def Serve (objects : List Managed) (reference : Option Json) : Prop :=
  ∃ r, reference = some r ∧ r.member? "port" = none ∧
    ∃ d ∈ objects, d.key = r.serviceKey ∧
      ∃ port ∈ d.servicePorts, port.member? "port" = some (.int 443)

end Managed

/-- What the objects of a record in this namespace name is among them. They are given subsystem by
subsystem. -/
structure Closed (ns : String) (rendered : List (List Managed)) : Prop where
  roles : ∀ d ∈ rendered.flatten, d.IsBinding →
    (d.object.roleKey.kind = "Role" ∨ d.object.roleKey.kind = "ClusterRole") ∧
    (d.object.roleKey ∈ builtInRoles ∨ d.object.roleKey ∈ rendered.flatten.map (·.key))
  subjects : ∀ d ∈ rendered.flatten, d.IsBinding → d.object.subjectKeys ≠ [] ∧
    ∀ key ∈ d.object.subjectKeys, key.kind = "ServiceAccount" ∧ key.ns = some ns ∧
      key ∈ rendered.flatten.map (·.key)
  pods : ∀ d ∈ rendered.flatten, d.IsWorkload → ∃ pods, d.object.template? = some pods ∧
    pods.MountsOwn ∧ ∀ key ∈ pods.podKeys d.key.ns, key ∈ rendered.flatten.map (·.key)
  selectors : ∀ d ∈ rendered.flatten, d.key.kind = "Deployment" → ∃ selector pods,
    d.object.at? ["spec", "selector", "matchLabels"] = some selector ∧
    d.object.template? = some pods ∧ pods.Selects selector
  services : ∀ subsystem ∈ rendered, ∀ d ∈ subsystem, d.key.kind = "Service" →
    ∃ w ∈ subsystem, d.Selects w ∧ w.key.ns = d.key.ns ∧
      (∀ other ∈ rendered.flatten, d.Selects other → other = w) ∧
      ∃ pods, w.object.template? = some pods ∧
        ∀ port ∈ d.servicePorts, ∃ target, port.member? "targetPort" = some target ∧
          pods.DeclaresPort target
  webhooks : ∀ d ∈ rendered.flatten, d.key.kind = "MutatingWebhookConfiguration" →
    Json.items (d.object.at? ["webhooks"]) ≠ [] ∧
    ∀ webhook ∈ Json.items (d.object.at? ["webhooks"]),
      Managed.Serve rendered.flatten (webhook.at? ["clientConfig", "service"])
  apis : ∀ d ∈ rendered.flatten, d.key.kind = "APIService" →
    Managed.Serve rendered.flatten (d.object.at? ["spec", "service"])

open Catalogue

/-! ## The control plane is closed -/

section Labels

variable (component : String) (c : Configuration)

/-- What the labels of a workload say beyond those of its component has names of its own. -/
theorem get?_workloadLabels {name value : String}
    (h : (labels component c).get? name = some value) :
    (workloadLabels component c).get? name = some value := by
  have hname : name = componentLabel ∨ name = namespaceLabel := by
    have hmem : (name, value) ∈ (labels component c).entries := Assoc.mem_of_find? h
    rw [entries_labels] at hmem
    rcases List.mem_pair.1 hmem with heq | heq
    · exact .inl (congrArg Prod.fst heq)
    · exact .inr (congrArg Prod.fst heq)
  rw [workloadLabels, SortedMap.get?_merge, h, Option.or_eq_some_iff]
  refine .inr ⟨(Assoc.find?_eq_none_iff _ _).2 ?_, rfl⟩
  rw [SortedMap.entries_ofList ((Assoc.ascending_iff_keys _).2 (by simp +decide))]
  rcases hname with rfl | rfl <;> simp +decide

theorem get?_componentLabel :
    (workloadLabels component c).get? componentLabel = some component := by
  refine get?_workloadLabels component c ?_
  rw [SortedMap.get?, entries_labels]
  rfl

theorem get?_selector {name value : String} :
    (SortedMap.ofList [(componentLabel, component)]).get? name = some value ↔
      name = componentLabel ∧ component = value := by
  show Assoc.find? name [(componentLabel, component)] = some value ↔ _
  simp [Assoc.find?]

end Labels

section Rendered

/-- The objects of the subsystem, production by production. -/
def Renders (c : Configuration) (s : Subsystem) (objects : List Managed) : Prop :=
  List.Forall₂ (fun p d => p.build c = .ok d) s.productions objects

variable {c : Configuration} {rendered : List (List Managed)}

/-- A reference to a service that the subsystem publishes is served. -/
theorem serve_of_publishes {objects : List Managed} (hobjects : objects ∈ rendered)
    {s : Subsystem} (hrenders : Renders c s objects) {name : String} (hs : Publishes s name)
    {reference : Option Json} {r : Json} (hreference : reference = some r)
    (hport : r.member? "port" = none)
    (hkey : r.serviceKey = Kind.service.keyIn (some c.ns) name) :
    Managed.Serve rendered.flatten reference := by
  obtain ⟨label, component, ports, hp, port, hmem, hsecure⟩ := hs
  obtain ⟨d, hd, hbuild⟩ := exists_of_forall₂ hrenders hp
  cases hbuild
  refine ⟨r, hreference, hport, _, List.mem_flatten.2 ⟨objects, hobjects, hd⟩, hkey.symm,
    port.toJson, ?_, by rw [port.member?_port, hsecure]; rfl⟩
  rw [Managed.servicePorts, Manifest.at?_ports rfl, Json.items_arr]
  exact List.mem_map_of_mem hmem

variable (h : List.Forall₂ (Renders c) controlPlane rendered)

include h

theorem exists_linked {objects : List Managed} (hobjects : objects ∈ rendered) {d : Managed}
    (hd : d ∈ objects) :
    ∃ s, Renders c s objects ∧ ∃ m : Manifest, d = m.managed ∧ Linked s c m := by
  obtain ⟨s, hs, hrenders⟩ := exists_of_forall₂ h.flip hobjects
  obtain ⟨p, hp, hbuild⟩ := exists_of_forall₂ hrenders.flip hd
  exact ⟨s, hrenders, links_controlPlane s hs p hp c d hbuild⟩

theorem exists_linked_flatten {d : Managed} (hd : d ∈ rendered.flatten) :
    ∃ s, ∃ m : Manifest, d = m.managed ∧ Linked s c m := by
  obtain ⟨objects, hobjects, hd⟩ := List.mem_flatten.1 hd
  obtain ⟨s, -, hlinked⟩ := exists_linked h hobjects hd
  exact ⟨s, hlinked⟩

theorem exists_binds {d : Managed} (hd : d ∈ rendered.flatten) (hkind : d.IsBinding) :
    ∃ (m : Manifest) (kind : Kind) (b : Binding), d = m.managed ∧
      (kind = .role ∨ kind = .clusterRole) ∧ m.content.members = b.members kind ∧
      Binds c m kind b := by
  obtain ⟨s, m, rfl, hlinked⟩ := exists_linked_flatten h hd
  obtain ⟨kind, b, hbinds⟩ := hlinked.binds hkind
  exact ⟨m, kind, b, rfl, hbinds⟩

theorem exists_part {d : Managed} (hd : d ∈ rendered.flatten) (hkind : d.IsWorkload) :
    ∃ part : Part, part.workload.build c = .ok d := by
  obtain ⟨s, m, rfl, hlinked⟩ := exists_linked_flatten h hd
  exact hlinked.workload hkind

theorem address_mem {r : Kind × String} (hr : r ∈ table.flatten) :
    address c.ns r ∈ rendered.flatten.map (·.key) := by
  obtain ⟨row, hrow, hr⟩ := List.mem_flatten.1 hr
  obtain ⟨s, hs, hidentifies⟩ := exists_of_forall₂ identifies_controlPlane.flip hrow
  obtain ⟨p, hp, hidentified⟩ := exists_of_forall₂ hidentifies.flip hr
  obtain ⟨objects, hobjects, hrenders⟩ := exists_of_forall₂ h hs
  obtain ⟨d, hd, hbuild⟩ := exists_of_forall₂ hrenders hp
  exact List.mem_map.2
    ⟨d, List.mem_flatten.2 ⟨objects, hobjects, hd⟩, hidentified.key c d hbuild⟩

/-- Kinds and names of the table are found in the namespace of the record, or in none. -/
theorem keyIn_mem {kind : Kind} {name : String} (hr : (kind, name) ∈ table.flatten)
    (hkind : kind ≠ .roleBinding) :
    kind.keyIn (if kind.namespaced then some c.ns else none) name ∈
      rendered.flatten.map (·.key) := by
  have hne : (kind, name) ≠ authReader := fun heq => hkind (congrArg Prod.fst heq)
  exact address_of_ne c.ns _ hne ▸ address_mem h hr

theorem roles_resolve {d : Managed} (hd : d ∈ rendered.flatten) (hkind : d.IsBinding) :
    (d.object.roleKey.kind = "Role" ∨ d.object.roleKey.kind = "ClusterRole") ∧
      (d.object.roleKey ∈ builtInRoles ∨ d.object.roleKey ∈ rendered.flatten.map (·.key)) := by
  obtain ⟨m, kind, b, rfl, hrole, hmembers, hbinds⟩ := exists_binds h hd hkind
  rw [Manifest.roleKey_eq hrole hmembers]
  refine ⟨?_, hbinds.role.imp_right fun ⟨hmem, hns⟩ => ?_⟩
  · rcases hrole with rfl | rfl
    · exact .inl rfl
    · exact .inr rfl
  · have hresolved := keyIn_mem h hmem (by rcases hrole with rfl | rfl <;> decide)
    cases hnamespaced : kind.namespaced with
    | false => rwa [hnamespaced] at hresolved
    | true =>
      rw [hnamespaced] at hresolved
      rwa [if_pos rfl, hns hnamespaced]

theorem subjects_resolve {d : Managed} (hd : d ∈ rendered.flatten) (hkind : d.IsBinding) :
    d.object.subjectKeys ≠ [] ∧ ∀ key ∈ d.object.subjectKeys,
      key.kind = "ServiceAccount" ∧ key.ns = some c.ns ∧ key ∈ rendered.flatten.map (·.key) := by
  obtain ⟨m, kind, b, rfl, -, hmembers, hbinds⟩ := exists_binds h hd hkind
  rw [Manifest.subjectKeys_managed hmembers]
  refine ⟨fun hnil => hbinds.nonempty (List.map_eq_nil_iff.1 hnil), ?_⟩
  refine List.forall_mem_map.2 fun subject hsubject => ?_
  obtain ⟨hns, hmem⟩ := hbinds.subjects subject hsubject
  exact ⟨rfl, congrArg some hns, hns ▸ keyIn_mem h hmem (by decide)⟩

theorem pods_resolve {d : Managed} (hd : d ∈ rendered.flatten) (hkind : d.IsWorkload) :
    ∃ pods, d.object.template? = some pods ∧ pods.MountsOwn ∧
      ∀ key ∈ pods.podKeys d.key.ns, key ∈ rendered.flatten.map (·.key) := by
  obtain ⟨part, hbuild⟩ := exists_part h hd hkind
  obtain ⟨-, hns, t, htemplate, hruns, -⟩ := Part.runs_workload hbuild
  refine ⟨t.toJson, htemplate, t.mountsOwn_toJson ?_ fun mount hmount => ?_, ?_⟩
  · rw [hruns.volumes]
    exact part.nodup_volumes
  · rw [hruns.volumes]
    exact part.mounted_mem _ (hruns.mounted ▸ List.mem_map_of_mem hmount)
  · rw [PodTemplate.podKeys_toJson, hns, hruns.account, hruns.volumes]
    refine List.forall_mem_cons.2 ⟨keyIn_mem h part.account_mem (by decide), ?_⟩
    refine List.forall_mem_map.2 fun r hr => ?_
    obtain ⟨hmem, hnamespaced, hne⟩ := part.sources_mem r hr
    have hresolved := address_mem h hmem
    rwa [address_of_ne c.ns r hne, if_pos hnamespaced] at hresolved

theorem deployment_selects {d : Managed} (hd : d ∈ rendered.flatten)
    (hkind : d.key.kind = "Deployment") : ∃ selector pods,
      d.object.at? ["spec", "selector", "matchLabels"] = some selector ∧
      d.object.template? = some pods ∧ pods.Selects selector := by
  obtain ⟨part, hbuild⟩ := exists_part h hd (.inl hkind)
  obtain ⟨-, -, t, htemplate, hruns, hselector⟩ := Part.runs_workload hbuild
  refine ⟨_, t.toJson, hselector hkind, htemplate, (t.selects_iff _).2 fun name value hvalue => ?_⟩
  rw [hruns.labels]
  exact get?_workloadLabels part.component c hvalue

/-- Selecting by the component of a part is selecting its workload. -/
theorem selects_iff_part {d : Managed} {part : Part}
    (hread : d.object.at? ["spec", "selector"] =
      some (.ofStringMap (.ofList [(componentLabel, part.component)])))
    {w : Managed} (hw : w ∈ rendered.flatten) :
    d.Selects w ↔ part.workload.build c = .ok w := by
  constructor
  · intro ⟨hkind, selector, pods, hread', htemplate, hselects⟩
    obtain ⟨other, hbuild⟩ := exists_part h hw hkind
    obtain ⟨-, -, t, ht, hruns, -⟩ := Part.runs_workload hbuild
    cases hread.symm.trans hread'
    cases ht.symm.trans htemplate
    -- the component tells which part it is
    have hlabel := (t.selects_iff _).1 hselects _ _ ((get?_selector part.component).2 ⟨rfl, rfl⟩)
    rw [hruns.labels, get?_componentLabel] at hlabel
    cases Part.component_injective (Option.some.inj hlabel)
    exact hbuild
  · intro hbuild
    obtain ⟨hworkload, -, t, htemplate, hruns, -⟩ := Part.runs_workload hbuild
    refine ⟨hworkload, _, _, hread, htemplate, (t.selects_iff _).2 fun name value hvalue => ?_⟩
    obtain ⟨rfl, rfl⟩ := (get?_selector part.component).1 hvalue
    rw [hruns.labels]
    exact get?_componentLabel part.component c

theorem service_selects {objects : List Managed} (hobjects : objects ∈ rendered) {d : Managed}
    (hd : d ∈ objects) (hkind : d.key.kind = "Service") :
    ∃ w ∈ objects, d.Selects w ∧ w.key.ns = d.key.ns ∧
      (∀ other ∈ rendered.flatten, d.Selects other → other = w) ∧
      ∃ pods, w.object.template? = some pods ∧
        ∀ port ∈ d.servicePorts, ∃ target, port.member? "targetPort" = some target ∧
          pods.DeclaresPort target := by
  obtain ⟨s, hrenders, m, rfl, hlinked⟩ := exists_linked h hobjects hd
  obtain ⟨service, hcontent⟩ := Content.service_of_kind hkind
  simp only [Linked, hcontent] at hlinked
  obtain ⟨part, rfl, hns, hselector, hports⟩ := hlinked
  have hread : m.managed.object.at? ["spec", "selector"] =
      some (.ofStringMap (.ofList [(componentLabel, part.component)])) :=
    hselector ▸ Manifest.at?_selector hcontent
  obtain ⟨w, hw, hbuild⟩ := exists_of_forall₂ hrenders part.mem_productions
  obtain ⟨-, hwns, t, htemplate, hruns, -⟩ := Part.runs_workload hbuild
  have hselects := selects_iff_part h hread (List.mem_flatten.2 ⟨objects, hobjects, hw⟩)
  refine ⟨w, hw, hselects.2 hbuild, hwns.trans hns.symm, fun other hother hother' => ?_,
    t.toJson, htemplate, ?_⟩
  · have hbuild' := (selects_iff_part h hread hother).1 hother'
    exact Except.ok.inj (hbuild'.symm.trans hbuild)
  · have hlisted : m.managed.servicePorts = service.ports.map (·.toJson) := by
      rw [Managed.servicePorts, Manifest.at?_ports hcontent, Json.items_arr]
    rw [hlisted]
    refine List.forall_mem_map.2 fun port hport => ⟨_, port.member?_target, ?_⟩
    obtain ⟨declared, hdeclared, htarget⟩ := hports port hport
    obtain ⟨container, hcontainer, hown⟩ := hruns.ports
    exact t.declaresPort_toJson
      (List.mem_flatMap.2 ⟨container, hcontainer, hown ▸ hdeclared⟩) htarget

theorem webhooks_served {d : Managed} (hd : d ∈ rendered.flatten)
    (hkind : d.key.kind = "MutatingWebhookConfiguration") :
    Json.items (d.object.at? ["webhooks"]) ≠ [] ∧
    ∀ webhook ∈ Json.items (d.object.at? ["webhooks"]),
      Managed.Serve rendered.flatten (webhook.at? ["clientConfig", "service"]) := by
  obtain ⟨objects, hobjects, hd⟩ := List.mem_flatten.1 hd
  obtain ⟨s, hrenders, m, rfl, hlinked⟩ := exists_linked h hobjects hd
  obtain ⟨w, hcontent⟩ := Content.webhook_of_kind hkind
  simp only [Linked, hcontent] at hlinked
  obtain ⟨hns, hpublishes⟩ := hlinked
  rw [Manifest.at?_webhooks hcontent, Json.items_arr]
  refine ⟨List.cons_ne_nil _ _, List.forall_mem_singleton.2 ?_⟩
  refine serve_of_publishes hobjects hrenders hpublishes w.at?_service (by simp) ?_
  simp [Json.serviceKey, Json.textAt, Json.asString?, hns]

theorem api_served {d : Managed} (hd : d ∈ rendered.flatten) (hkind : d.key.kind = "APIService") :
    Managed.Serve rendered.flatten (d.object.at? ["spec", "service"]) := by
  obtain ⟨objects, hobjects, hd⟩ := List.mem_flatten.1 hd
  obtain ⟨s, hrenders, m, rfl, hlinked⟩ := exists_linked h hobjects hd
  obtain ⟨a, hcontent⟩ := Content.apiService_of_kind hkind
  simp only [Linked, hcontent] at hlinked
  obtain ⟨hns, hpublishes⟩ := hlinked
  refine serve_of_publishes hobjects hrenders hpublishes (Manifest.at?_apiService hcontent)
    (by simp) ?_
  simp [Json.serviceKey, Json.textAt, Json.asString?, hns]

end Rendered

/-! ## Rendering -/

/-- What a subsystem renders is what its productions make. -/
theorem renders_of_render {s : Subsystem} {c : Configuration} {row : List (Managed × Existence)}
    (h : s.render c = .ok row) : Renders c s (row.map (·.1)) := by
  refine List.forall₂_map_right_iff.2 ((forall₂_of_mapM h).imp fun p e he => ?_)
  obtain ⟨d, hd, rfl⟩ := map_ok_inv he
  exact hd

/-- Whenever the subsystems of the control plane render, all that they render is to exist, and
every name in it is that of something in it, apart from the two roles that every cluster has. -/
theorem rendered_closed {c : Configuration} {rows : List (List (Managed × Existence))}
    (h : controlPlane.mapM (·.render c) = .ok rows) :
    (∀ e ∈ rows.flatten, e.2 = .present) ∧ Closed c.ns (rows.map fun row => row.map (·.1)) := by
  have hrows := forall₂_of_mapM h
  have hrendered : List.Forall₂ (Renders c) controlPlane (rows.map fun row => row.map (·.1)) :=
    List.forall₂_map_right_iff.2 (hrows.imp fun _ _ => renders_of_render)
  refine ⟨fun e he => ?_, {
    roles := fun _ => roles_resolve hrendered
    subjects := fun _ => subjects_resolve hrendered
    pods := fun _ => pods_resolve hrendered
    selectors := fun _ => deployment_selects hrendered
    services := fun _ hobjects _ => service_selects hrendered hobjects
    webhooks := fun _ => webhooks_served hrendered
    apis := fun _ => api_served hrendered }⟩
  obtain ⟨row, hrow, he⟩ := List.mem_flatten.1 he
  obtain ⟨s, hs, hrender⟩ := exists_of_forall₂ hrows.flip hrow
  obtain ⟨p, hp, hbuild⟩ := exists_of_forall₂ (forall₂_of_mapM hrender).flip he
  obtain ⟨d, -, rfl⟩ := map_ok_inv hbuild
  exact present_controlPlane s hs p hp

/-- The dashboard's accounts may use a role of tap, which is rendered for every plain record. -/
theorem rendered_closed_plain : ∃ c rows, Configuration.resolve (.plain none) = .ok c ∧
    controlPlane.mapM (·.render c) = .ok rows ∧
    Closed "linkerd" (rows.map fun row => row.map (·.1)) ∧
    ∃ d ∈ (rows.map fun row => row.map (·.1)).flatten,
      d.object.roleKey = Kind.clusterRole.keyIn none "linkerd-linkerd-tap-admin" ∧
      d.object.roleKey ∈ (rows.map fun row => row.map (·.1)).flatten.map (·.key) := by
  obtain ⟨c, hc, hns, hschedule⟩ : ∃ c, Configuration.resolve (.plain none) = .ok c ∧
      c.ns = "linkerd" ∧ Heartbeat.isSchedule c.heartbeat.schedule = true :=
    ⟨_, rfl, rfl, by decide⟩
  obtain ⟨rows, hrows⟩ := render_controlPlane hschedule
  obtain ⟨-, hclosed⟩ := rendered_closed hrows
  have hadmin : .always "admin-cluster-role-binding"
      (clusterRoleBinding "linkerd-web-admin" Tap.adminRoleName Web.account Web.component) ∈
      Web.subsystem.productions := by simp [Web.subsystem]
  obtain ⟨row, hrow, hrender⟩ := exists_of_forall₂ (forall₂_of_mapM hrows) Part.web.mem_controlPlane
  obtain ⟨d, hd, hbuild⟩ := exists_of_forall₂ (renders_of_render hrender) hadmin
  have hmem := List.mem_flatten.2 ⟨_, List.mem_map_of_mem hrow, hd⟩
  cases hbuild
  have hcontent : (clusterRoleBinding "linkerd-web-admin" Tap.adminRoleName Web.account
      Web.component c).content.members =
        Binding.members .clusterRole ⟨Tap.adminRoleName, [subject Web.account c]⟩ := rfl
  have hrole : (clusterRoleBinding "linkerd-web-admin" Tap.adminRoleName Web.account
      Web.component c).managed.object.roleKey =
        Kind.clusterRole.keyIn none "linkerd-linkerd-tap-admin" :=
    Manifest.roleKey_eq (.inr rfl) hcontent
  obtain ⟨-, hresolves⟩ := hclosed.roles _ hmem (.inr rfl)
  exact ⟨c, rows, hc, hrows, hns ▸ hclosed, _, hmem, hrole,
    hresolves.resolve_left (hrole ▸ by decide)⟩

end MeshOperator
