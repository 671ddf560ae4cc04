import MeshOperator.Record.Basic
import MeshOperator.Record.Defaults

/-!
Configurations: everything that the objects of a control plane are made from.

`Configuration.resolve` derives the configuration of a record from its name, its namespace and its
declaration with all defaults. The record stays as it is.
-/

namespace MeshOperator

set_option autoImplicit false

inductive ResolveError where
  | missingMetadata (field : String)
  | undefaulted (field : String)
  deriving DecidableEq, Repr

namespace ResolveError

def text : ResolveError → String
  | .missingMetadata field => "Linkerd record is missing metadata." ++ field
  | .undefaulted field => "spec." ++ field ++ " is unset after defaulting"

end ResolveError

/-- Settings of the workload of a subsystem, all of them set. -/
structure WorkloadConfiguration where
  image : String
  resources : Resources
  replicas : Int32
  nodeSelector : StringMap
  affinity : Option Affinity
  tolerations : List Toleration
  podAnnotations : StringMap
  securityContext : Option SecurityContext

structure HeartbeatConfiguration where
  workload : WorkloadConfiguration
  schedule : String

structure Configuration where
  name : String
  ns : String
  version : String
  logLevel : String
  imagePullPolicy : PullPolicy
  certificates : Certificates
  autoInjectionNamespaces : List String
  controller : WorkloadConfiguration
  destination : WorkloadConfiguration
  heartbeat : HeartbeatConfiguration
  identity : WorkloadConfiguration
  prometheus : WorkloadConfiguration
  proxyInjector : WorkloadConfiguration
  tap : WorkloadConfiguration
  web : WorkloadConfiguration
  /-- The record as controlling owner; none while the record has no unique identifier. -/
  owner : Option OwnerReference

def defaulted {α : Type} (field : String) : Option α → Except ResolveError α
  | some v => .ok v
  | none => .error (.undefaulted field)

def WorkloadConfiguration.ofSettings (field : String) (s : WorkloadSettings) :
    Except ResolveError WorkloadConfiguration := do
  let image ← defaulted field s.image
  let resources ← defaulted field s.resources
  let replicas ← defaulted field s.replicaCount
  return ⟨image, resources, replicas, s.nodeSelector, s.affinity, s.tolerations, s.podAnnotations,
    s.securityContext⟩

theorem WorkloadConfiguration.ofSettings_withDefaults (field image : String)
    (resources : Resources) (s : WorkloadSettings) :
    ∃ w, ofSettings field (s.withDefaults image resources) = .ok w := by
  simp only [ofSettings, WorkloadSettings.withDefaults, Option.or_some, defaulted]
  exact ⟨_, rfl⟩

/-- A reference to the record as controlling owner. -/
def Record.asOwner (r : Record) : Option OwnerReference := do
  let name ← r.metadata.name
  let uid ← r.metadata.uid
  return {
    apiVersion := Record.type.apiVersion
    blockOwnerDeletion := none
    controller := some true
    kind := Record.type.kind
    name := name
    uid := uid }

namespace Configuration

open WorkloadConfiguration in
/-- The configuration of a declaration that has its defaults. -/
def ofDeclaration (name ns : String) (owner : Option OwnerReference) (d : Declaration) :
    Except ResolveError Configuration := do
  let logLevel ← defaulted "logLevel" d.logLevel
  let imagePullPolicy ← defaulted "imagePullPolicy" d.imagePullPolicy
  let certificates ← defaulted "selfSignedCertificates" d.certificates
  let controller ← ofSettings "controller" d.controller
  let destination ← ofSettings "destination" d.destination
  let heartbeat ← ofSettings "heartbeat" d.heartbeat.workload
  let schedule ← defaulted "heartbeat.schedule" d.heartbeat.schedule
  let identity ← ofSettings "identity" d.identity
  let prometheus ← ofSettings "prometheus" d.prometheus
  let proxyInjector ← ofSettings "proxyInjector" d.proxyInjector
  let tap ← ofSettings "tap" d.tap
  let web ← ofSettings "web" d.web
  return ⟨name, ns, d.version, logLevel, imagePullPolicy, certificates, d.autoInjectionNamespaces,
    controller, destination, ⟨heartbeat, schedule⟩, identity, prometheus, proxyInjector, tap, web,
    owner⟩

def resolve (r : Record) : Except ResolveError Configuration :=
  match r.metadata.name with
  | none => .error (.missingMetadata "name")
  | some name =>
    match r.metadata.ns with
    | none => .error (.missingMetadata "namespace")
    | some ns => ofDeclaration name ns r.asOwner r.spec.withDefaults

open WorkloadConfiguration in
/-- A record with name and namespace has a configuration: every field that is needed has a
default. -/
theorem resolve_ok {r : Record} (hname : r.metadata.name.isSome) (hns : r.metadata.ns.isSome) :
    ∃ c, resolve r = .ok c := by
  obtain ⟨name, hname⟩ := Option.isSome_iff_exists.1 hname
  obtain ⟨ns, hns⟩ := Option.isSome_iff_exists.1 hns
  have hcontrolled := fun field => ofSettings_withDefaults field Defaults.controllerImage
    Defaults.resources
  obtain ⟨logLevel, h₁⟩ := Defaults.textOr_default Defaults.logLevel r.spec.logLevel
  obtain ⟨schedule, h₂⟩ := Defaults.textOr_default Defaults.schedule r.spec.heartbeat.schedule
  obtain ⟨controller, h₃⟩ := hcontrolled "controller" r.spec.controller
  obtain ⟨destination, h₄⟩ := hcontrolled "destination" r.spec.destination
  obtain ⟨heartbeat, h₅⟩ := hcontrolled "heartbeat" r.spec.heartbeat.workload
  obtain ⟨identity, h₆⟩ := hcontrolled "identity" r.spec.identity
  obtain ⟨prometheus, h₇⟩ := ofSettings_withDefaults "prometheus" Defaults.prometheusImage
    Defaults.prometheusResources r.spec.prometheus
  obtain ⟨proxyInjector, h₈⟩ := hcontrolled "proxyInjector" r.spec.proxyInjector
  obtain ⟨tap, h₉⟩ := hcontrolled "tap" r.spec.tap
  obtain ⟨web, h₁₀⟩ := ofSettings_withDefaults "web" Defaults.webImage Defaults.resources r.spec.web
  simp only [resolve, hname, hns, ofDeclaration, Declaration.withDefaults, h₁, h₂, h₃, h₄, h₅, h₆,
    h₇, h₈, h₉, h₁₀, Option.or_some, defaulted]
  exact ⟨_, rfl⟩

theorem named_of_resolve {r : Record} {c : Configuration} (h : resolve r = .ok c) :
    r.metadata.name.isSome ∧ r.metadata.ns.isSome := by
  cases hname : r.metadata.name with
  | none =>
    simp only [resolve, hname] at h
    cases h
  | some name =>
    cases hns : r.metadata.ns with
    | none =>
      simp only [resolve, hname, hns] at h
      cases h
    | some ns => exact ⟨rfl, rfl⟩

/-- The parts of the identity of a record that its configuration has, too. -/
theorem identity_of_resolve {r : Record} {c : Configuration} (h : resolve r = .ok c) :
    r.metadata.name = some c.name ∧ r.metadata.ns = some c.ns ∧ c.owner = r.asOwner := by
  obtain ⟨hname, hns⟩ := named_of_resolve h
  obtain ⟨name, hname⟩ := Option.isSome_iff_exists.1 hname
  obtain ⟨ns, hns⟩ := Option.isSome_iff_exists.1 hns
  simp only [resolve, hname, hns] at h
  have hsame : ofDeclaration name ns r.asOwner r.spec.withDefaults =
      (fun c => { c with name := name, ns := ns, owner := r.asOwner }) <$>
        ofDeclaration name ns r.asOwner r.spec.withDefaults := by
    simp only [ofDeclaration, map_bind, map_pure]
  rw [h] at hsame
  have hc := Except.ok.inj hsame
  rw [hname, hns]
  exact ⟨congrArg (some ·.name) hc.symm, congrArg (some ·.ns) hc.symm, congrArg owner hc⟩

/-- The configuration of a record is about its namespace. -/
theorem ns_of_resolve {r : Record} {c : Configuration} (h : resolve r = .ok c) :
    r.metadata.ns = some c.ns := (identity_of_resolve h).2.1

theorem resolve_of_ns_none {r : Record} (hname : r.metadata.name.isSome)
    (hns : r.metadata.ns = none) : resolve r = .error (.missingMetadata "namespace") := by
  obtain ⟨name, hname⟩ := Option.isSome_iff_exists.1 hname
  simp only [resolve, hname, hns]

/-- The owner of an object in this namespace. Neither an object without namespace nor one in
another namespace than the record can be owned by it. -/
def ownerFor (c : Configuration) (ns : Option String) : Option OwnerReference :=
  if ns = some c.ns then c.owner else none

end Configuration

/-! ## Encoding -/

def WorkloadConfiguration.toJson (w : WorkloadConfiguration) : Json := .obj [
  ("affinity", (w.affinity.map (·.value)).getD .null),
  ("image", .str w.image),
  ("node_selector", .ofStringMap w.nodeSelector),
  ("pod_annotations", .ofStringMap w.podAnnotations),
  ("replicas", .int w.replicas.toInt),
  ("resources", w.resources.value),
  ("security_context", (w.securityContext.map (·.value)).getD .null),
  ("tolerations", .arr (w.tolerations.map (·.value)))]

/-- All settings, with `null` for those that are not there. -/
def Configuration.toJson (c : Configuration) : Json := .obj [
  ("auto_injection_namespaces", .strings c.autoInjectionNamespaces),
  ("certificates", c.certificates.toJson),
  ("controller", c.controller.toJson),
  ("destination", c.destination.toJson),
  ("heartbeat", .obj [
    ("component", c.heartbeat.workload.toJson),
    ("schedule", .str c.heartbeat.schedule)]),
  ("identity", c.identity.toJson),
  ("image_pull_policy", .str c.imagePullPolicy.text),
  ("log_level", .str c.logLevel),
  ("name", .str c.name),
  ("namespace", .str c.ns),
  ("owner", (c.owner.map (·.toJson)).getD .null),
  ("prometheus", c.prometheus.toJson),
  ("proxy_injector", c.proxyInjector.toJson),
  ("tap", c.tap.toJson),
  ("version", .str c.version),
  ("web", c.web.toJson)]

/-- The operator installs releases of the second major version. -/
def isSupported (version : String) : Bool := version.toList.head? = some '2'

end MeshOperator
