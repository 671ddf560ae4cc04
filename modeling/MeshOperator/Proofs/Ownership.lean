import MeshOperator.Proofs.ReferenceClosure

/-!
Whom the objects of the catalogue belong to.

A record owns what is made for it in its own namespace and nothing else: it could own neither
objects outside all namespaces nor those in another one. All objects are labelled with the namespace
of the record, and those of a part also with the part. What is there for the whole control plane,
the security policy and the definitions of kinds, has no such label.
-/

namespace MeshOperator

set_option autoImplicit false

/-- The record as the one controlling owner of an object, once it has a unique identifier. -/
theorem Record.asOwner_of_name {r : Record} {name : String} (h : r.metadata.name = some name) :
    r.asOwner = r.metadata.uid.map fun uid =>
      ⟨"linkerd.linkerd.io/v1alpha1", none, some true, "Linkerd", name, uid⟩ := by
  rw [asOwner, h]
  cases r.metadata.uid <;> rfl

namespace Catalogue

/-! ## Labels -/

/-- The labels of what belongs to this component, or else to the control plane as a whole. -/
structure Marks (c : Configuration) (component : Option String) (labels : StringMap) : Prop where
  ns : labels.get? namespaceLabel = some c.ns
  component : labels.get? componentLabel = component

section Marks

variable (component : String) (c : Configuration)

theorem marks_labels : Marks c (some component) (labels component c) := by
  constructor <;>
  · rw [SortedMap.get?, entries_labels]
    rfl

theorem marks_workloadLabels : Marks c (some component) (workloadLabels component c) where
  ns := get?_workloadLabels component c (marks_labels component c).ns
  component := get?_workloadLabels component c (marks_labels component c).component

theorem marks_sharedLabels : Marks c none (sharedLabels c) := by
  have hentries : (sharedLabels c).entries = [(namespaceLabel, c.ns)] :=
    SortedMap.entries_ofList (List.pairwise_singleton _ _)
  constructor <;>
  · rw [SortedMap.get?, hentries]
    rfl

end Marks

end Catalogue

/-! ## Manifests -/

/-- The manifest has the owner for its namespace and the labels for its component. -/
structure Manifest.Belongs (c : Configuration) (component : Option String) (m : Manifest) :
    Prop where
  owner : m.owner = c.ownerFor m.ns
  marks : Catalogue.Marks c component m.labels

/-- Whatever is made belongs to this component. -/
def Production.Belongs (p : Production) (component : Option String) : Prop :=
  ∀ c d, p.build c = .ok d → ∃ m : Manifest, d = m.managed ∧ m.Belongs c component

namespace Catalogue

section Manifests

variable {c : Configuration} {component : Option String} {name : String} {labels : StringMap}
  {content : Content}

theorem belongs_namespaced (h : Marks c component labels) :
    (namespaced name labels content c).Belongs c component := ⟨rfl, h⟩

theorem belongs_clusterWide (h : Marks c component labels) :
    (clusterWide name labels content c).Belongs c component := ⟨rfl, h⟩

/-- The binding in the system namespace belongs to the record if that is there, too. -/
theorem belongs_authReader (c : Configuration) :
    (Tap.authReaderBinding c).Belongs c (some Tap.component) := ⟨rfl, marks_labels _ c⟩

theorem belongs_kindDefinition (definition : KindDefinition) (c : Configuration) :
    (kindDefinition definition c).Belongs c none := ⟨rfl, marks_sharedLabels c⟩

theorem belongs_always {label : String} {build : Configuration → Manifest}
    (h : ∀ c, (build c).Belongs c component) :
    (Production.always label build).Belongs component := by
  intro c d hd
  cases hd
  exact ⟨build c, rfl, h c⟩

theorem belongs_heartbeat :
    (Production.present "cron-job" Heartbeat.cronJob).Belongs (some Heartbeat.component) := by
  intro c d hd
  obtain ⟨m, hm, rfl⟩ := map_ok_inv hd
  obtain rfl := cronJob_eq_of_ok hm
  exact ⟨_, rfl, belongs_namespaced (marks_workloadLabels _ c)⟩

end Manifests

/-! ## Productions -/

theorem belongs_part (part : Part) :
    ∀ p ∈ part.subsystem.productions, p.Belongs (some part.subsystem.name) := by
  cases part
  all_goals
    simp only [Part.subsystem, Controller.subsystem, Destination.subsystem, Heartbeat.subsystem,
      Identity.subsystem, Prometheus.subsystem, ProxyInjector.subsystem, Web.subsystem,
      Tap.subsystem, List.forall_mem_cons, List.not_mem_nil, false_implies, implies_true, and_true,
      belongs_heartbeat]
    repeat' apply And.intro
  all_goals
    refine belongs_always fun c => ?_
    -- the labels come to light first: telling them apart otherwise would evaluate them
    first
      | exact belongs_authReader c
      | apply belongs_namespaced; with_reducible first
        | exact marks_labels _ c
        | exact marks_workloadLabels _ c
      | apply belongs_clusterWide; with_reducible exact marks_labels _ c

theorem belongs_shared :
    ∀ s ∈ SecurityPolicy.subsystem :: reserved, ∀ p ∈ s.productions, p.Belongs none := by
  simp only [reserved, SecurityPolicy.subsystem, ServiceProfile.subsystem, TrafficSplit.subsystem,
    List.forall_mem_cons, List.not_mem_nil, false_implies, implies_true, and_true]
  refine ⟨⟨?_, ?_, ?_⟩, ?_, ?_⟩
  · exact belongs_always fun c => belongs_clusterWide (marks_sharedLabels c)
  · exact belongs_always fun c => belongs_namespaced (marks_sharedLabels c)
  · exact belongs_always fun c => belongs_namespaced (marks_sharedLabels c)
  · exact belongs_always (belongs_kindDefinition _)
  · exact belongs_always (belongs_kindDefinition _)

theorem part_or_policy {s : Subsystem} (hs : s ∈ controlPlane) :
    (∃ part : Part, s = part.subsystem) ∨ s = SecurityPolicy.subsystem := by
  simp only [controlPlane, List.mem_cons, List.not_mem_nil, or_false] at hs
  obtain rfl | rfl | rfl | rfl | rfl | rfl | rfl | rfl | rfl := hs
  exacts [.inl ⟨.controller, rfl⟩, .inl ⟨.destination, rfl⟩, .inl ⟨.heartbeat, rfl⟩,
    .inl ⟨.identity, rfl⟩, .inl ⟨.prometheus, rfl⟩, .inl ⟨.proxyInjector, rfl⟩, .inl ⟨.web, rfl⟩,
    .inl ⟨.tap, rfl⟩, .inr rfl]

/-- The component that an object of the subsystem is labelled with. -/
def componentOf (s : Subsystem) (kind : String) : Option String :=
  if s.name = SecurityPolicy.subsystem.name ∨ kind = Kind.customResourceDefinition.type.kind then
    none
  else some s.name

theorem belongs_catalogue {s : Subsystem} (hs : s ∈ controlPlane ++ reserved) {p : Production}
    (hp : p ∈ s.productions) {c : Configuration} {d : Managed} (hd : p.build c = .ok d) :
    ∃ m : Manifest, d = m.managed ∧ m.Belongs c (componentOf s d.key.kind) := by
  rcases List.mem_append.1 hs with hs | hs
  · rcases part_or_policy hs with ⟨part, rfl⟩ | rfl
    · have hkinds : ∀ resource ∈ table.flatten,
          resource.1.type.kind ≠ Kind.customResourceDefinition.type.kind := by decide +kernel
      obtain ⟨resource, hresource, hkey⟩ := exists_address identifies_controlPlane hs hp hd
      have hkind : d.key.kind ≠ Kind.customResourceDefinition.type.kind := by
        rw [hkey]
        exact hkinds resource hresource
      have hname : part.subsystem.name ≠ SecurityPolicy.subsystem.name := by cases part <;> decide
      rw [componentOf, if_neg (not_or.2 ⟨hname, hkind⟩)]
      exact belongs_part part p hp c d hd
    · rw [componentOf, if_pos (.inl rfl)]
      exact belongs_shared _ List.mem_cons_self p hp c d hd
  · have hkinds : ∀ resource ∈ reservedTable.flatten,
        resource.1.type.kind = Kind.customResourceDefinition.type.kind := by decide +kernel
    obtain ⟨resource, hresource, hkey⟩ := exists_address identifies_reserved hs hp hd
    have hkind : d.key.kind = Kind.customResourceDefinition.type.kind := by
      rw [hkey]
      exact hkinds resource hresource
    rw [componentOf, if_pos (.inr hkind)]
    exact belongs_shared s (List.mem_cons_of_mem _ hs) p hp c d hd

end Catalogue

/-- A record with name and namespace has a configuration, and whatever any subsystem makes of it

* is owned by the record alone if it is in the record's namespace and the record has a unique
  identifier, and by nobody otherwise;
* is labelled with the namespace of the record;
* is labelled with the name of its subsystem, unless it belongs to the security policy or defines a
  kind: then it has no such label. -/
theorem owned_and_labelled {r : Record} {name ns : String} (hname : r.metadata.name = some name)
    (hns : r.metadata.ns = some ns) :
    ∃ c, Configuration.resolve r = .ok c ∧
      ∀ s ∈ Catalogue.controlPlane ++ Catalogue.reserved, ∀ p ∈ s.productions, ∀ d,
        p.build c = .ok d →
          d.object.metadata.ownerReferences =
            (if d.object.metadata.ns = some ns then r.metadata.uid.map fun uid =>
              [⟨"linkerd.linkerd.io/v1alpha1", none, some true, "Linkerd", name, uid⟩]
            else none) ∧
          ∃ labels, d.object.metadata.labels = some labels ∧
            labels.get? "linkerd.io/control-plane-ns" = some ns ∧
            labels.get? "linkerd.io/control-plane-component" =
              if s.name = Catalogue.SecurityPolicy.subsystem.name ∨
                d.key.kind = "CustomResourceDefinition" then none else some s.name := by
  obtain ⟨c, hc⟩ := Configuration.resolve_ok (Option.isSome_iff_exists.2 ⟨name, hname⟩)
    (Option.isSome_iff_exists.2 ⟨ns, hns⟩)
  obtain ⟨-, hcns, howner⟩ := Configuration.identity_of_resolve hc
  cases hns.symm.trans hcns
  refine ⟨c, hc, fun s hs p hp d hd => ?_⟩
  obtain ⟨m, rfl, hbelongs⟩ := Catalogue.belongs_catalogue hs hp hd
  refine ⟨?_, m.labels, rfl, hbelongs.marks.ns, hbelongs.marks.component⟩
  have howners : m.managed.object.metadata.ownerReferences = (c.ownerFor m.ns).map fun o => [o] :=
    congrArg (Option.map fun o => [o]) hbelongs.owner
  have hplace : m.managed.object.metadata.ns = m.ns := rfl
  rw [howners, hplace, Configuration.ownerFor, howner, Record.asOwner_of_name hname]
  split
  next => exact Option.map_map _ _ _
  next => rfl

/-- The record in the system namespace, with a unique identifier. -/
def Record.identified : Record :=
  { plain none with metadata :=
    { Metadata.empty with name := some "linkerd", ns := some "kube-system", uid := some "0000" } }

/-- Such a record owns the binding in the system namespace, which others do not, but no role outside
all namespaces. -/
theorem owned_and_labelled_inSystem :
    let reader := Production.always "auth-reader-binding" Catalogue.Tap.authReaderBinding
    let policy := Production.always "pod-security-policy" Catalogue.SecurityPolicy.policy
    ∃ c d d', Configuration.resolve .identified = .ok c ∧
      reader.build c = .ok d ∧ policy.build c = .ok d' ∧
      d.object.metadata.ownerReferences =
        some [⟨"linkerd.linkerd.io/v1alpha1", none, some true, "Linkerd", "linkerd", "0000"⟩] ∧
      d'.object.metadata.ownerReferences = none ∧
      (∃ labels, d.object.metadata.labels = some labels ∧
        labels.get? "linkerd.io/control-plane-ns" = some "kube-system" ∧
        labels.get? "linkerd.io/control-plane-component" = some "tap") ∧
      ∃ labels, d'.object.metadata.labels = some labels ∧
        labels.get? "linkerd.io/control-plane-ns" = some "kube-system" ∧
        labels.get? "linkerd.io/control-plane-component" = none := by
  intro reader policy
  have hname : Record.identified.metadata.name = some "linkerd" := rfl
  have hns : Record.identified.metadata.ns = some "kube-system" := rfl
  obtain ⟨c, hc, hall⟩ := owned_and_labelled hname hns
  have htap : Catalogue.Tap.subsystem ∈ Catalogue.controlPlane := by simp [Catalogue.controlPlane]
  have hpolicy : Catalogue.SecurityPolicy.subsystem ∈ Catalogue.controlPlane := by
    simp [Catalogue.controlPlane]
  have hreader : reader ∈ Catalogue.Tap.subsystem.productions := by
    simp [Catalogue.Tap.subsystem, reader]
  obtain ⟨howner, hlabels⟩ := hall _ (List.mem_append_left _ htap) reader hreader _ rfl
  obtain ⟨howner', hlabels'⟩ :=
    hall _ (List.mem_append_left _ hpolicy) policy List.mem_cons_self _ rfl
  exact ⟨c, _, _, hc, rfl, rfl, howner, howner', hlabels, hlabels'⟩

end MeshOperator
