import MeshOperator.Proofs.ManifestText
import MeshOperator.Proofs.Sources

/-!
Settings reach their own workload and nothing else.

Each part of a control plane has a block of settings. `build_taking` says that only the workload of
the part changes with it; here is what becomes of the block there. `Carries` lists it, read off the
object that is made.
-/

namespace MeshOperator

set_option autoImplicit false

/-! ## Blocks -/

namespace Part

open Catalogue

def settings (c : Configuration) : Part → WorkloadConfiguration
  | .controller => c.controller
  | .destination => c.destination
  | .heartbeat => c.heartbeat.workload
  | .identity => c.identity
  | .prometheus => c.prometheus
  | .proxyInjector => c.proxyInjector
  | .tap => c.tap
  | .web => c.web

/-- The rules about nodes that the pods of a part get. Those of identity are to be spread unless
the settings say something else. -/
def affinity (c : Configuration) : Part → Option Affinity
  | .identity => c.identity.affinity.or (some Identity.spreadAcrossNodes)
  | part => (part.settings c).affinity

def resource : Part → Kind × String
  | .controller => (.deployment, "linkerd-controller")
  | .destination => (.deployment, "linkerd-destination")
  | .heartbeat => (.cronJob, "linkerd-heartbeat")
  | .identity => (.deployment, "linkerd-identity")
  | .prometheus => (.deployment, "linkerd-prometheus")
  | .proxyInjector => (.deployment, "linkerd-proxy-injector")
  | .tap => (.deployment, "linkerd-tap")
  | .web => (.deployment, "linkerd-web")

variable (part : Part) (c : Configuration)

theorem mem_controlPlane : part.subsystem ∈ controlPlane := by
  cases part <;> simp [controlPlane, subsystem]

theorem mem_productions : part.workload ∈ part.subsystem.productions := by
  cases part <;> simp [subsystem, workload, Controller.subsystem, Destination.subsystem,
    Heartbeat.subsystem, Identity.subsystem, Prometheus.subsystem, ProxyInjector.subsystem,
    Tap.subsystem, Web.subsystem]

theorem makes_workload : part.workload.Makes part.resource := by
  cases part with
  | heartbeat => exact makes_heartbeat
  | _ => exact Production.makes_always fun _ => ⟨rfl, rfl⟩

/-- Workloads can be built, except for a job without a schedule. -/
theorem buildable_iff : (∃ d, part.workload.build c = .ok d) ↔
    (part = .heartbeat → Heartbeat.isSchedule c.heartbeat.schedule = true) := by
  cases part with
  | heartbeat =>
    have hbuild : heartbeat.workload.build c = (Heartbeat.cronJob c).map (·.managed) := rfl
    rw [hbuild, Heartbeat.cronJob]
    by_cases h : Heartbeat.isSchedule c.heartbeat.schedule = true
    · simp [h, Except.map]
    · simp [h, Except.map]
  | _ => exact ⟨fun _ => nofun, fun _ => ⟨_, rfl⟩⟩

end Part

/-! ## What workloads carry -/

/-- The part of a container that does the work: the first one. -/
def Json.mainContainer? (template : Json) : Option Json :=
  (template.itemsAt ["spec", "containers"]).head?

def Json.ofContainer? (name : String) (template : Json) : Option Json :=
  template.mainContainer?.bind (·.member? name)

/-- The pods of this template have these settings. -/
structure Carries (settings : WorkloadConfiguration) (affinity : Option Affinity)
    (version : String) (template : Json) : Prop where
  image : template.ofContainer? "image" = some (.str settings.image)
  resources : template.ofContainer? "resources" = some settings.resources.value
  securityContext : template.ofContainer? "securityContext" =
    some ((settings.securityContext.map (·.value)).getD (.obj [("runAsUser", .int 2103)]))
  nodeSelector : template.at? ["spec", "nodeSelector"] =
    if settings.nodeSelector.isEmpty then none else some (.ofStringMap settings.nodeSelector)
  tolerations : template.at? ["spec", "tolerations"] =
    if settings.tolerations.isEmpty then none
    else some (.arr (settings.tolerations.map (·.value)))
  affinity : template.at? ["spec", "affinity"] = affinity.map (·.value)
  /-- The version in the annotation of the operator gives way to an annotation of the settings. -/
  annotations : ∃ annotations : StringMap,
    template.at? ["metadata", "annotations"] = some (.ofStringMap annotations) ∧
    ∀ key, annotations.get? key = (settings.podAnnotations.get? key).or
      (if key = "linkerd.io/created-by" then some version else none)

section Carries

variable {settings : WorkloadConfiguration} {c : Configuration} {t : PodTemplate}
  {container : Container} {rest : List Container} {affinity : Option Affinity}

theorem get?_podAnnotations (key : String) :
    (Catalogue.podAnnotations settings c).get? key = (settings.podAnnotations.get? key).or
      (if key = "linkerd.io/created-by" then some c.version else none) := by
  rw [Catalogue.podAnnotations, SortedMap.get?_merge]
  congr 1
  show Assoc.find? key [("linkerd.io/created-by", c.version)] = _
  simp [Assoc.find?]

theorem carries_toJson (hcontainers : t.spec.containers = container :: rest)
    (himage : container.image = settings.image)
    (hresources : container.resources = settings.resources)
    (hsecurity : container.securityContext =
      settings.securityContext.getD Catalogue.controllerUser)
    (hnodes : t.spec.nodeSelector = settings.nodeSelector)
    (htolerations : t.spec.tolerations = settings.tolerations)
    (haffinity : t.spec.affinity = affinity)
    (hannotations : t.annotations = Catalogue.podAnnotations settings c) :
    Carries settings affinity c.version t.toJson where
  image := by simp [Json.ofContainer?, Json.mainContainer?, Json.itemsAt, hcontainers, himage]
  resources := by
    simp [Json.ofContainer?, Json.mainContainer?, Json.itemsAt, hcontainers, hresources]
  securityContext := by
    simp [Json.ofContainer?, Json.mainContainer?, Json.itemsAt, hcontainers, hsecurity]
    cases settings.securityContext <;> rfl
  nodeSelector := by simp [hnodes]
  tolerations := by simp [htolerations, Json.unlessNone]
  affinity := by simp [haffinity]
  annotations := ⟨t.annotations, by simp, fun key => by rw [hannotations, get?_podAnnotations]⟩

end Carries

/-! ## The workloads of the parts -/

section Parts

variable {part : Part} (c : Configuration)

/-- All parts but the heartbeat keep a process running, which has the settings of the part. -/
theorem Part.deployed (h : part ≠ .heartbeat) :
    ∃ w : Catalogue.Workload, part.workload.build c = .ok (w.deployment c).managed ∧
      w.settings = { part.settings c with affinity := part.affinity c } ∧
      w.container.image = (part.settings c).image ∧
      w.container.resources = (part.settings c).resources ∧
      w.container.securityContext =
        (part.settings c).securityContext.getD Catalogue.controllerUser := by
  cases part with
  | heartbeat => exact absurd rfl h
  | _ => exact ⟨_, rfl, rfl, rfl, rfl, rfl⟩

theorem carries_deployment (h : part ≠ .heartbeat) {d : Managed}
    (hd : part.workload.build c = .ok d) :
    (∃ template, d.object.template? = some template ∧
      Carries (part.settings c) (part.affinity c) c.version template) ∧
    d.object.at? ["spec", "replicas"] = some (.int (part.settings c).replicas.toInt) := by
  obtain ⟨w, hw, hsettings, himage, hresources, hsecurity⟩ := Part.deployed c h
  cases hd.symm.trans hw
  refine ⟨⟨_, Manifest.template?_deployment _ rfl,
    carries_toJson rfl himage hresources hsecurity ?_ ?_ ?_ ?_⟩, ?_⟩
  · exact (congrArg WorkloadConfiguration.nodeSelector hsettings :)
  · exact (congrArg WorkloadConfiguration.tolerations hsettings :)
  · exact (congrArg WorkloadConfiguration.affinity hsettings :)
  · exact (congrArg (Catalogue.podAnnotations · c) hsettings :)
  · rw [Manifest.at?_spec _ rfl]
    simp [hsettings]

theorem carries_cronJob {d : Managed} (hd : Part.heartbeat.workload.build c = .ok d) :
    (∃ template, d.object.template? = some template ∧
      Carries c.heartbeat.workload c.heartbeat.workload.affinity c.version template) ∧
    d.object.at? ["spec", "schedule"] = some (.str c.heartbeat.schedule) := by
  obtain ⟨m, hm, rfl⟩ := map_ok_inv hd
  obtain rfl := Catalogue.cronJob_eq_of_ok hm
  refine ⟨⟨_, Manifest.template?_cronJob _ rfl,
    carries_toJson rfl rfl rfl rfl rfl rfl rfl rfl⟩, ?_⟩
  rw [Manifest.at?_spec _ rfl]
  simp [Catalogue.Heartbeat.job]

end Parts

/-- The settings of a part go into its own workload and nowhere else:

* with another block for the part, all productions of all subsystems come to the same, except for
  the workload of the part;
* that is a production of the part's own subsystem. It can be built whenever a job has a schedule,
  and has the kind and the name that belong to the part;
* its pods carry the block, as `Carries` lists it, and it has its number of pods or its schedule. -/
theorem settings_reach_own_workload (part : Part) (c : Configuration) :
    (∀ other, ∀ s ∈ Catalogue.controlPlane ++ Catalogue.reserved, ∀ p ∈ s.productions,
      p.build (c.taking part other) = p.build c ∨ s = part.subsystem ∧ p = part.workload) ∧
    part.subsystem ∈ Catalogue.controlPlane ∧ part.workload ∈ part.subsystem.productions ∧
    ((∃ d, part.workload.build c = .ok d) ↔
      (part = .heartbeat → Catalogue.Heartbeat.isSchedule c.heartbeat.schedule = true)) ∧
    ∀ d, part.workload.build c = .ok d →
      (d.key.type, d.key.name) = (part.resource.1.type, part.resource.2) ∧
      (∃ template, d.object.template? = some template ∧
        Carries (part.settings c) (part.affinity c) c.version template) ∧
      (part ≠ .heartbeat →
        d.object.at? ["spec", "replicas"] = some (.int (part.settings c).replicas.toInt)) ∧
      (part = .heartbeat →
        d.object.at? ["spec", "schedule"] = some (.str c.heartbeat.schedule)) := by
  refine ⟨fun other s hs p hp => Catalogue.build_taking hs hp part c other, part.mem_controlPlane,
    part.mem_productions, part.buildable_iff c, fun d hd => ⟨part.makes_workload c d hd, ?_⟩⟩
  by_cases h : part = .heartbeat
  · subst h
    obtain ⟨hcarries, hschedule⟩ := carries_cronJob c hd
    exact ⟨hcarries, fun hne => absurd rfl hne, fun _ => hschedule⟩
  · obtain ⟨hcarries, hreplicas⟩ := carries_deployment c h hd
    exact ⟨hcarries, fun _ => hreplicas, fun heq => absurd heq h⟩

/-- A record whose dashboard has settings of its own. -/
def Record.customised : Record :=
  { plain none with spec := { (plain none).spec with
      web := { WorkloadSettings.none with
        image := some "web:test"
        nodeSelector := .ofList [("disk", "ssd")]
        podAnnotations := .ofList [("linkerd.io/created-by", "me")] } } }

/-- The dashboard has them, and without them tap is still the same. -/
theorem settings_reach_own_workload_customised :
    ∃ c other d template, Configuration.resolve .customised = .ok c ∧
      Configuration.resolve (.plain none) = .ok other ∧
      Part.tap.workload.build (c.taking .web other) = Part.tap.workload.build c ∧
      Part.web.workload.build c = .ok d ∧ d.object.template? = some template ∧
      template.ofContainer? "image" = some (.str "web:test") ∧
      template.at? ["spec", "nodeSelector"] = some (.obj [("disk", .str "ssd")]) ∧
      ∃ annotations : StringMap,
        template.at? ["metadata", "annotations"] = some (.ofStringMap annotations) ∧
        annotations.get? "linkerd.io/created-by" = some "me" := by
  obtain ⟨c, other, hc, hother, hweb⟩ : ∃ c other, Configuration.resolve .customised = .ok c ∧
      Configuration.resolve (.plain none) = .ok other ∧
      c.web.image = "web:test" ∧ c.web.nodeSelector = .ofList [("disk", "ssd")] ∧
      c.web.podAnnotations = .ofList [("linkerd.io/created-by", "me")] :=
    ⟨_, _, rfl, rfl, rfl, rfl, rfl⟩
  obtain ⟨himage, hnodes, hannotation⟩ := hweb
  obtain ⟨hothers, -, -, hbuildable, hcarries⟩ := settings_reach_own_workload .web c
  obtain ⟨d, hd⟩ := hbuildable.2 nofun
  obtain ⟨-, ⟨template, htemplate, hblock⟩, -, -⟩ := hcarries d hd
  refine ⟨c, other, d, template, hc, hother, ?_, hd, htemplate, ?_, ?_, ?_⟩
  · rcases hothers other _ (List.mem_append_left _ Part.tap.mem_controlPlane) _
      Part.tap.mem_productions with hsame | ⟨hsubsystem, -⟩
    · exact hsame
    · exact absurd (congrArg Subsystem.name hsubsystem) (by decide)
  · exact hblock.image.trans (congrArg (fun image => some (Json.str image)) himage)
  · have hnode := hblock.nodeSelector
    rw [show Part.web.settings c = c.web from rfl, hnodes] at hnode
    exact hnode
  · obtain ⟨annotations, hread, hvalues⟩ := hblock.annotations
    have hown : (Part.web.settings c).podAnnotations.get? "linkerd.io/created-by" = some "me" :=
      congrArg (fun own : StringMap => own.get? "linkerd.io/created-by") hannotation
    exact ⟨annotations, hread, by rw [hvalues, hown, Option.some_or]⟩

end MeshOperator
