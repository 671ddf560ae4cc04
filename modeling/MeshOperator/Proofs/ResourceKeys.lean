import Mathlib.Data.List.Nodup
import Mathlib.Data.List.Pairwise
import MeshOperator.Proofs.WorkloadSettings

/-!
Keys of resources.

A resource of the catalogue has a fixed address: its kind, its name, and at most the namespace of
the record. `identified_productions` goes through all productions, and what follows is about
addresses alone: they are distinct, of registered kinds, and in a namespace just when their kind
is. The fields of an object that cannot be changed later do not depend on anything else either.
-/

namespace MeshOperator

set_option autoImplicit false

/-! ## Addresses -/

def Kind.keyIn (kind : Kind) (ns : Option String) (name : String) : ObjectKey where
  apiVersion := kind.type.apiVersion
  kind := kind.type.kind
  ns := ns
  name := name

namespace Catalogue

/-- The one resource that is not in the namespace of the record. -/
def authReader : Kind × String := (.roleBinding, "linkerd-linkerd-tap-auth-reader")

/-- Where a resource lives. -/
def address (ns : String) (resource : Kind × String) : ObjectKey :=
  resource.1.keyIn (if resource = authReader then some "kube-system"
    else if resource.1.namespaced then some ns else none) resource.2

variable (ns : String) (resource : Kind × String)

theorem address_of_ne (h : resource ≠ authReader) : address ns resource =
    resource.1.keyIn (if resource.1.namespaced then some ns else none) resource.2 := by
  rw [address, if_neg h]

theorem isSome_ns_address : (address ns resource).ns.isSome = resource.1.namespaced := by
  unfold address
  split
  next h => rw [h]; rfl
  next => cases resource.1.namespaced <;> rfl

/-- Kinds and names alone tell addresses apart. -/
theorem nodup_addresses {resources : List (Kind × String)}
    (h : (resources.map fun r => (r.1.type, r.2)).Nodup) :
    (resources.map (address ns)).Nodup := by
  refine List.Nodup.of_map (fun key => (key.type, key.name)) ?_
  rw [List.map_map]
  exact h

end Catalogue

/-! ## Fields that stay -/

/-- The paths to what cannot be changed in an object of this kind. -/
def immutablePaths : String → List (List String)
  | "Deployment" => [["spec", "selector"]]
  | "RoleBinding" | "ClusterRoleBinding" => [["roleRef"]]
  | "Secret" => [["type"]]
  | _ => []

namespace Content

/-- What of the content cannot be changed. -/
def pinned : Content → Option Json
  | .deployment d => some (.obj [("matchLabels", .ofStringMap d.selector)])
  | .roleBinding b => (Json.obj (b.members .role)).member? "roleRef"
  | .clusterRoleBinding b => (Json.obj (b.members .clusterRole)).member? "roleRef"
  | .secret s => s.type.map .str
  | _ => none

/-- It is found under the paths for its kind. -/
theorem at?_immutable (x : Content) : ∀ path ∈ immutablePaths x.kind.type.kind,
    (Json.obj x.members).at? path = x.pinned := by
  cases x with
  | deployment d => simp [kind, Kind.deployment, immutablePaths, members, pinned]
  | roleBinding b => simp [kind, Kind.roleBinding, immutablePaths, members, pinned]
  | clusterRoleBinding b => simp [kind, Kind.clusterRoleBinding, immutablePaths, members, pinned]
  | secret s =>
    obtain ⟨_ | type, entries⟩ := s <;>
      simp [kind, Kind.secret, immutablePaths, members, pinned, SecretData.members]
  | _ => exact List.forall_mem_nil _

end Content

/-! ## Identities of productions -/

/-- Whatever is made has this address, and what cannot be changed in it depends on the namespace
alone. -/
structure Production.Identified (p : Production) (resource : Kind × String) : Prop where
  key : ∀ c d, p.build c = .ok d → d.key = Catalogue.address c.ns resource
  pinned : ∀ c other d d', other.ns = c.ns → p.build c = .ok d → p.build other = .ok d' →
    ∀ path ∈ immutablePaths resource.1.type.kind, d'.object.at? path = d.object.at? path

namespace Catalogue

variable {label : String} {resource : Kind × String}

theorem identified_always {build : Configuration → Manifest}
    (hkey : ∀ c, (build c).key = address c.ns resource)
    (hpinned : ∀ c other : Configuration,
      (build { other with ns := c.ns }).content.pinned = (build c).content.pinned) :
    (Production.always label build).Identified resource where
  key c d hd := by
    cases hd
    exact hkey c
  pinned c other d d' hns hd hd' path hpath := by
    cases hd
    cases hd'
    have hkind (c : Configuration) : (build c).content.kind.type.kind = resource.1.type.kind :=
      congrArg ObjectKey.kind (hkey c)
    have hread (c : Configuration) :
        (build c).managed.object.at? path = (build c).content.pinned :=
      (build c).content.at?_immutable path (by rwa [hkind])
    rw [hread, hread, ← hpinned c other, ← hns]

theorem entries_labels (component : String) (c : Configuration) :
    (labels component c).entries = [(componentLabel, component), (namespaceLabel, c.ns)] :=
  SortedMap.entries_ofList ((Assoc.ascending_iff_keys _).2 (by simp +decide))

/-- Of most contents nothing is pinned. -/
theorem identified_unpinned {build : Configuration → Manifest}
    (hkey : ∀ c, (build c).key = address c.ns resource)
    (hpinned : ∀ c, (build c).content.pinned = none) :
    (Production.always label build).Identified resource :=
  identified_always hkey fun _ _ => (hpinned _).trans (hpinned _).symm

theorem identified_heartbeat :
    Part.heartbeat.workload.Identified (.cronJob, "linkerd-heartbeat") where
  key c d hd := by
    obtain ⟨m, hm, rfl⟩ := map_ok_inv hd
    obtain rfl := cronJob_eq_of_ok hm
    rfl
  pinned := fun _ _ _ _ _ _ _ => List.forall_mem_nil _

/-- The resources of the reserved subsystems. -/
def reservedTable : List (List (Kind × String)) := [
  [(.customResourceDefinition, "serviceprofiles.linkerd.io")],
  [(.customResourceDefinition, "trafficsplits.split.smi-spec.io")]]

/-- The productions of the subsystem make these resources. -/
def Identifies (s : Subsystem) (row : List (Kind × String)) : Prop :=
  List.Forall₂ Production.Identified s.productions row

theorem identifies_controlPlane : List.Forall₂ Identifies controlPlane table := by
  repeat' apply List.Forall₂.cons
  all_goals first
    | exact .nil
    | exact identified_heartbeat
    | exact identified_unpinned (fun _ => rfl) fun _ => rfl
    | exact identified_always (fun _ => rfl) fun _ _ => rfl

theorem identifies_reserved : List.Forall₂ Identifies reserved reservedTable := by
  repeat' apply List.Forall₂.cons
  all_goals first
    | exact .nil
    | exact identified_unpinned (fun _ => rfl) fun _ => rfl

/-- Where the key of a built object comes from. -/
theorem exists_address {subsystems : List Subsystem} {table : List (List (Kind × String))}
    (h : List.Forall₂ Identifies subsystems table) {s : Subsystem} (hs : s ∈ subsystems)
    {p : Production} (hp : p ∈ s.productions) {c : Configuration} {d : Managed}
    (hd : p.build c = .ok d) : ∃ resource ∈ table.flatten, d.key = address c.ns resource := by
  obtain ⟨row, hrow, hidentifies⟩ := exists_of_forall₂ h hs
  obtain ⟨resource, hresource, hidentified⟩ := exists_of_forall₂ hidentifies hp
  exact ⟨resource, List.mem_flatten_of_mem hrow hresource, hidentified.key c d hd⟩

/-! ## All productions -/

/-- The productions of all subsystems, those of the reserved ones last. -/
def allProductions : List Production := (controlPlane ++ reserved).flatMap (·.productions)

def allResources : List (Kind × String) := (table ++ reservedTable).flatten

/-- The keys of all that can be built, in the order in which it is made. -/
def keys (c : Configuration) : List ObjectKey :=
  allProductions.filterMap fun p => (p.build c).toOption.map (·.key)

theorem identified_productions :
    List.Forall₂ Production.Identified allProductions allResources := by
  have hrows : List.Forall₂ Identifies (controlPlane ++ reserved) (table ++ reservedTable) :=
    List.rel_append identifies_controlPlane identifies_reserved
  exact List.rel_flatten (List.forall₂_map_left_iff.2 hrows)

theorem keys_sublist {c : Configuration} {ps : List Production} {row : List (Kind × String)}
    (h : List.Forall₂ Production.Identified ps row) :
    (ps.filterMap fun p => (p.build c).toOption.map (·.key)).Sublist
      (row.map (address c.ns)) := by
  induction h with
  | nil => exact List.Sublist.refl _
  | @cons p resource ps row hp _ ih =>
    rw [List.map_cons, List.filterMap_cons]
    cases hbuild : p.build c with
    | error e => exact ih.cons _
    | ok d =>
      rw [← hp.key c d hbuild]
      exact ih.cons_cons _

theorem nodup_keys (c : Configuration) : (keys c).Nodup :=
  (nodup_addresses c.ns (by decide +kernel)).sublist (keys_sublist identified_productions)

/-- From the configuration this object is made under the kind and name of a resource. -/
def Provides (c : Configuration) (resource : Kind × String) (o : Object) : Prop :=
  ∃ p ∈ allProductions, ∃ d, p.build c = .ok d ∧ d.key = address c.ns resource ∧ d.object = o

/-- Of each resource there is only one. -/
theorem provides_iff {c : Configuration} {p : Production} {d : Managed} {resource : Kind × String}
    (hp : p ∈ allProductions) (hd : p.build c = .ok d) (hkey : d.key = address c.ns resource)
    (o : Object) : Provides c resource o ↔ o = d.object := by
  constructor
  · rintro ⟨p', hp', d', hd', hkey', rfl⟩
    -- two productions with one key would make the list of all keys repeat it
    let keyOf : Production → Option ObjectKey := fun p => (p.build c).toOption.map (·.key)
    have hkeyOf : keyOf p = some d.key := by
      simp only [keyOf, hd]
      rfl
    have hkeyOf' : keyOf p' = some d'.key := by
      simp only [keyOf, hd']
      rfl
    have : Std.Symm fun p p' => ∀ k, keyOf p = some k → ∀ k', keyOf p' = some k' → k ≠ k' :=
      ⟨fun _ _ h k hk k' hk' => (h k' hk' k hk).symm⟩
    have hapart := (List.pairwise_filterMap.1 (nodup_keys c)).forall hp hp'
    obtain rfl : p = p' := by
      by_contra hne
      exact hapart hne d.key hkeyOf d'.key hkeyOf' (hkey.trans hkey'.symm)
    cases hd.symm.trans hd'
    rfl
  · rintro rfl
    exact ⟨p, hp, d, hd, hkey, rfl⟩

theorem provides_always (label : String) {s : Subsystem} (hs : s ∈ controlPlane ++ reserved)
    {build : Configuration → Manifest} (hp : Production.always label build ∈ s.productions)
    {c : Configuration} (hkey : (build c).key = address c.ns resource) (o : Object) :
    Provides c resource o ↔ o = (build c).managed.object :=
  provides_iff (List.mem_flatMap.2 ⟨s, hs, hp⟩) rfl hkey o

end Catalogue

/-- Identities are stable, unique and addressable:

* configurations with the same namespace have the same made of a production, up to fields that can
  be changed: the keys are the same, and the selectors, the roles that are referred to and the
  types of secrets;
* all that can be built from a configuration has keys of its own;
* no key is that of a record. Their kinds are registered, and they have a namespace just when their
  kind lives in namespaces. -/
theorem identities_stable_unique_addressable :
    (∀ c other, other.ns = c.ns → ∀ p ∈ Catalogue.allProductions, ∀ d d',
      p.build c = .ok d → p.build other = .ok d' →
        d'.key = d.key ∧
        ∀ path ∈ immutablePaths d.key.kind, d'.object.at? path = d.object.at? path) ∧
    (∀ c, (Catalogue.keys c).Nodup) ∧
    ∀ c, ∀ key ∈ Catalogue.keys c, key.kind ≠ "Linkerd" ∧
      ∃ kind, Kind.find? key.type = some kind ∧ key.ns.isSome = kind.namespaced := by
  refine ⟨fun c other hns p hp d d' hd hd' => ?_, Catalogue.nodup_keys, fun c key hkey => ?_⟩
  · obtain ⟨resource, -, hresource⟩ := exists_of_forall₂ Catalogue.identified_productions hp
    have hkey := hresource.key c d hd
    refine ⟨by rw [hresource.key other d' hd', hkey, hns], ?_⟩
    rw [hkey]
    exact hresource.pinned c other d d' hns hd hd'
  · have hmem := (Catalogue.keys_sublist Catalogue.identified_productions).subset hkey
    obtain ⟨resource, hresource, rfl⟩ := List.mem_map.1 hmem
    have hregistered : ∀ resource ∈ Catalogue.allResources,
        resource.1.type.kind ≠ "Linkerd" ∧ Kind.find? resource.1.type = some resource.1 := by
      decide +kernel
    obtain ⟨hkind, hfind⟩ := hregistered resource hresource
    exact ⟨hkind, resource.1, hfind, Catalogue.isSome_ns_address c.ns resource⟩

/-- The record in the system namespace. -/
def Record.inSystem (r : Record) : Record :=
  { r with metadata := { r.metadata with ns := some "kube-system" } }

/-- There, too, keys are apart, and the dashboard is the same one with another image. -/
theorem identities_stable_unique_addressable_inSystem :
    ∃ c other d d', Configuration.resolve (Record.plain none).inSystem = .ok c ∧
      Configuration.resolve Record.customised.inSystem = .ok other ∧
      other.web.image ≠ c.web.image ∧
      Part.web.workload.build c = .ok d ∧ Part.web.workload.build other = .ok d' ∧
      d'.key = d.key ∧
      d'.object.at? ["spec", "selector"] = d.object.at? ["spec", "selector"] ∧
      d.object.at? ["spec", "selector"] = some (.obj [("matchLabels", .obj [
        ("linkerd.io/control-plane-component", .str "web"),
        ("linkerd.io/control-plane-ns", .str "kube-system")])]) ∧
      (Catalogue.keys c).Nodup ∧ d.key.kind ≠ "Linkerd" := by
  obtain ⟨c, other, hc, hother, himage, hsystem, hns⟩ : ∃ c other,
      Configuration.resolve (Record.plain none).inSystem = .ok c ∧
      Configuration.resolve Record.customised.inSystem = .ok other ∧
      other.web.image ≠ c.web.image ∧ c.ns = "kube-system" ∧ other.ns = c.ns :=
    ⟨_, _, rfl, rfl, by decide, rfl, rfl⟩
  obtain ⟨hstable, hunique, haddressable⟩ := identities_stable_unique_addressable
  have hmem : Part.web.workload ∈ Catalogue.allProductions :=
    List.mem_flatMap.2 ⟨_, List.mem_append_left _ Part.web.mem_controlPlane,
      Part.web.mem_productions⟩
  have hd : Part.web.workload.build c = .ok (Catalogue.Web.deployment c).managed := rfl
  have hd' : Part.web.workload.build other = .ok (Catalogue.Web.deployment other).managed := rfl
  obtain ⟨hkey, hpinned⟩ := hstable c other hns _ hmem _ _ hd hd'
  have hkeys : (Catalogue.Web.deployment c).managed.key ∈ Catalogue.keys c :=
    List.mem_filterMap.2 ⟨_, hmem, by rw [hd]; rfl⟩
  refine ⟨c, other, _, _, hc, hother, himage, hd, hd', hkey, hpinned _ (List.mem_singleton_self _),
    ?_, hunique c, (haddressable c _ hkeys).1⟩
  rw [Manifest.at?_spec _ rfl, Json.at?_cons, Deployment.member?_selector, ← hsystem]
  have hlabels : Json.ofStringMap (Catalogue.labels "web" c) = .obj [
      ("linkerd.io/control-plane-component", .str "web"),
      ("linkerd.io/control-plane-ns", .str c.ns)] := by
    rw [Json.ofStringMap, Catalogue.entries_labels]
    rfl
  exact congrArg (fun labels => some (Json.obj [("matchLabels", labels)])) hlabels

end MeshOperator
