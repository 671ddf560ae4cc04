import MeshOperator.Proofs.Links

/-!
The ports on which containers are asked how they are.

A probe has a port of the container in mind, by number or by name. The probes of the catalogue give
the number of a declared port, but as a text, and a text is looked up among the names. None of the
containers has a port of that name, so no probe finds its port. It would if the same number were
given as a number.
-/

namespace MeshOperator

set_option autoImplicit false

open Catalogue

namespace Json

/-- The ports that the probes of a container ask, the one for liveness first. -/
def probePorts (container : Json) : List Json :=
  (container.at? ["livenessProbe", "httpGet", "port"]).toList
    ++ (container.at? ["readinessProbe", "httpGet", "port"]).toList

/-- The container declares this port: a number is the number of one, a text the name of one. -/
def ResolvesPort (container : Json) : Json → Prop
  | .int n => ∃ port ∈ container.itemsAt ["ports"], port.member? "containerPort" = some (.int n)
  | .str s => ∃ port ∈ container.itemsAt ["ports"], port.member? "name" = some (.str s)
  | _ => False

end Json

/-! ## Containers -/

theorem Probe.at?_port (p : Probe) : p.toJson.at? ["httpGet", "port"] = some p.port.toJson := by
  have hget : p.toJson.member? "httpGet" =
      some (.obj [("path", .str p.path), ("port", p.port.toJson)]) :=
    Json.member?_present (by simp +decide) (by simp)
  simp [hget]

namespace Container

variable (c : Container)

def probes : List Probe := c.liveness.toList ++ c.readiness.toList

@[simp] theorem member?_liveness :
    c.toJson.member? "livenessProbe" = c.liveness.map (·.toJson) :=
  Json.member?_present (by simp +decide) (by simp)

@[simp] theorem member?_readiness :
    c.toJson.member? "readinessProbe" = c.readiness.map (·.toJson) :=
  Json.member?_present (by simp +decide) (by simp)

theorem probePorts_toJson : c.toJson.probePorts = c.probes.map (·.port.toJson) := by
  unfold Json.probePorts probes
  rw [Json.at?_cons, Json.at?_cons, member?_liveness, member?_readiness]
  cases c.liveness <;> cases c.readiness <;> simp only [Option.map_none, Option.map_some,
    Option.bind_none, Option.bind_some, Probe.at?_port] <;> rfl

theorem resolvesPort_number (n : Nat) :
    c.toJson.ResolvesPort (.int n) ↔ ∃ port ∈ c.ports, port.number = n := by
  have hcast : c.toJson.ResolvesPort (.int n) ↔ ∃ port ∈ c.ports, (port.number : Int) = n := by
    simp [Json.ResolvesPort, Json.itemsAt]
  simpa only [Int.natCast_inj] using hcast

theorem resolvesPort_name (s : String) :
    c.toJson.ResolvesPort (.str s) ↔ ∃ port ∈ c.ports, port.name = s := by
  simp [Json.ResolvesPort, Json.itemsAt]

end Container

/-- These ports are asked by the text of their numbers, which is the name of none of them. -/
def AskedByText (ports : List ContainerPort) (asked : List PortRef) : Prop :=
  ∀ port ∈ asked, ∃ declared ∈ ports, port = .name (toString declared.number) ∧
    ∀ other ∈ ports, other.name ≠ toString declared.number

instance (ports : List ContainerPort) (asked : List PortRef) :
    Decidable (AskedByText ports asked) := by
  unfold AskedByText
  infer_instance

theorem AskedByText.toJson {c : Container} (h : AskedByText c.ports (c.probes.map (·.port))) :
    ∀ port ∈ c.toJson.probePorts, ∃ n : Nat, port = .str (toString n) ∧
      c.toJson.ResolvesPort (.int n) ∧ ¬c.toJson.ResolvesPort port := by
  intro port hport
  rw [c.probePorts_toJson] at hport
  obtain ⟨probe, hprobe, rfl⟩ := List.mem_map.1 hport
  obtain ⟨declared, hdeclared, hasked, hnames⟩ := h _ (List.mem_map_of_mem hprobe)
  refine ⟨declared.number, by rw [hasked, PortRef.toJson_name],
    (c.resolvesPort_number _).2 ⟨declared, hdeclared, rfl⟩, ?_⟩
  rw [hasked, PortRef.toJson_name, c.resolvesPort_name]
  rintro ⟨other, hother, hname⟩
  exact hnames other hother hname

/-! ## The pods of the parts -/

namespace Part

/-- What the probes of its first container ask. -/
def asked : Part → List PortRef
  | .controller => [.name "9995", .name "9995"]
  | .destination => [.name "9996", .name "9996"]
  | .heartbeat => []
  | .identity => [.name "9990", .name "9990"]
  | .prometheus => [.name "9090", .name "9090"]
  | .proxyInjector => []
  | .tap => [.name "9998", .name "9998"]
  | .web => [.name "9994", .name "9994"]

theorem askedByText (part : Part) : AskedByText part.ports part.asked := by
  cases part <;> decide +kernel

variable {part : Part} {c : Configuration} {d : Managed}

/-- Beside the container of the part there are the proxy and what sets it up. -/
theorem runs_beside_proxy (hpart : part ≠ .heartbeat) (h : part.workload.build c = .ok d) :
    ∃ t container, d.object.template? = some (PodTemplate.toJson t) ∧
      t.spec.containers = [container, proxyContainer c] ∧
      t.spec.initContainers = [proxyInitContainer] ∧
      container.ports = part.ports ∧ container.probes.map (·.port) = part.asked := by
  cases part with
  | heartbeat => exact absurd rfl hpart
  | _ =>
    cases h
    exact ⟨_, _, Manifest.template?_deployment _ rfl, rfl, rfl, rfl, rfl⟩

end Part

theorem askedByText_proxy (c : Configuration) :
    AskedByText (proxyContainer c).ports ((proxyContainer c).probes.map (·.port)) := by
  show AskedByText [⟨"linkerd-proxy", 4143⟩, ⟨"linkerd-admin", 4191⟩] [.name "4191", .name "4191"]
  decide +kernel

theorem Part.kind_of_heartbeat {c : Configuration} {d : Managed}
    (h : Part.heartbeat.workload.build c = .ok d) : d.key.kind = "CronJob" :=
  congrArg (fun resource => resource.1.kind) (Part.heartbeat.makes_workload c d h)

/-- Whatever keeps running is a part of the control plane. -/
theorem part_of_deployment {c : Configuration} {p : Production} (hp : p ∈ allProductions)
    {d : Managed} (hd : p.build c = .ok d) (hkind : d.key.kind = "Deployment") :
    ∃ part : Part, part ≠ .heartbeat ∧ part.workload.build c = .ok d := by
  obtain ⟨s, hs, hp⟩ := List.mem_flatMap.1 hp
  rcases List.mem_append.1 hs with hs | hs
  · obtain ⟨m, rfl, hlinked⟩ := links_controlPlane s hs p hp c d hd
    obtain ⟨part, hpart⟩ := hlinked.workload (.inl hkind)
    refine ⟨part, ?_, hpart⟩
    rintro rfl
    exact absurd (hkind.symm.trans (Part.kind_of_heartbeat hpart)) (by decide)
  · have hextensions : ∀ resource ∈ reservedTable.flatten,
        resource.1.type.kind ≠ "Deployment" := by decide +kernel
    obtain ⟨resource, hresource, hkey⟩ := exists_address identifies_reserved hs hp hd
    rw [hkey] at hkind
    exact absurd hkind (hextensions resource hresource)

/-- No probe of a workload that keeps running finds its port: what it asks for is the number of a
port that its container declares, but as a text, and the container has no port of that name. There
are such probes in every one of these workloads. -/
theorem probe_ports_as_text (c : Configuration) {p : Production} (hp : p ∈ allProductions)
    {d : Managed} (hd : p.build c = .ok d) (hkind : d.key.kind = "Deployment") :
    ∃ pods, d.object.template? = some pods ∧
      (∃ container ∈ pods.podContainers, container.probePorts.length = 2) ∧
      ∀ container ∈ pods.podContainers ++ pods.podInitContainers, ∀ port ∈ container.probePorts,
        ∃ n : Nat, port = .str (toString n) ∧ container.ResolvesPort (.int n) ∧
          ¬container.ResolvesPort port := by
  obtain ⟨part, hpart, hbuild⟩ := part_of_deployment hp hd hkind
  obtain ⟨t, container, htemplate, hcontainers, hinit, hports, hasked⟩ :=
    Part.runs_beside_proxy hpart hbuild
  have hall : t.toJson.podContainers ++ t.toJson.podInitContainers =
      [container.toJson, (proxyContainer c).toJson, proxyInitContainer.toJson] := by
    rw [t.podContainers_toJson, t.podInitContainers_toJson, hcontainers, hinit]
    rfl
  refine ⟨_, htemplate, ⟨(proxyContainer c).toJson, ?_, ?_⟩, ?_⟩
  · rw [t.podContainers_toJson, hcontainers]
    simp
  · rw [Container.probePorts_toJson]
    rfl
  · rw [hall, List.forall_mem_cons, List.forall_mem_cons, List.forall_mem_singleton]
    have hmain : AskedByText container.ports (container.probes.map (·.port)) := by
      rw [hports, hasked]
      exact part.askedByText
    exact ⟨hmain.toJson, (askedByText_proxy c).toJson, AskedByText.toJson nofun⟩

/-- In the pods of the controller there is a container that is asked twice, both times in vain. -/
theorem probe_ports_as_text_controller :
    ∃ c d pods container, Configuration.resolve (.plain none) = .ok c ∧
      Part.controller.workload.build c = .ok d ∧ d.object.template? = some pods ∧
      container ∈ pods.podContainers ∧ container.probePorts.length = 2 ∧
      ∀ port ∈ container.probePorts, ¬container.ResolvesPort port := by
  obtain ⟨c, hc⟩ : ∃ c, Configuration.resolve (.plain none) = .ok c := ⟨_, rfl⟩
  have hmem : Part.controller.workload ∈ allProductions := List.mem_flatMap.2
    ⟨_, List.mem_append_left _ Part.controller.mem_controlPlane, Part.controller.mem_productions⟩
  obtain ⟨pods, hpods, ⟨container, hcontainer, hlength⟩, hports⟩ :=
    probe_ports_as_text c hmem rfl rfl
  refine ⟨c, _, pods, container, hc, rfl, hpods, hcontainer, hlength, fun port hport => ?_⟩
  obtain ⟨n, -, -, hunresolved⟩ := hports container (List.mem_append_left _ hcontainer) port hport
  exact hunresolved

/-- The first container of the controller is asked on a port with the name 9995. It has no such
port, but one with that number. -/
theorem controller_port_unresolved :
    ∃ c d pods container, Configuration.resolve (.plain none) = .ok c ∧
      Part.controller.workload.build c = .ok d ∧ d.object.template? = some pods ∧
      container ∈ pods.podContainers ∧ container.probePorts = [.str "9995", .str "9995"] ∧
      ¬container.ResolvesPort (.str "9995") ∧ container.ResolvesPort (.int 9995) := by
  obtain ⟨c, hc⟩ : ∃ c, Configuration.resolve (.plain none) = .ok c := ⟨_, rfl⟩
  have hports : (Controller.container c).ports = Part.controller.ports := rfl
  refine ⟨c, _, _, (Controller.container c).toJson, hc, rfl, Manifest.template?_deployment _ rfl,
    ?_, (Controller.container c).probePorts_toJson, ?_, ?_⟩
  · rw [PodTemplate.podContainers_toJson]
    exact List.mem_cons_self
  · rw [Container.resolvesPort_name, hports]
    decide
  · exact (Container.resolvesPort_number _ 9995).2 (hports ▸ by decide)

end MeshOperator
