import MeshOperator.Proofs.Ownership

/-!
What the objects of different records have in common.

The objects of a record are in its namespace, apart from those outside all namespaces and one
binding in the system namespace. The keys of the latter are the same for all records. They are still
told apart, since every object is labelled with the namespace of its record: what is settled for one
namespace cannot be for another.
-/

namespace MeshOperator

set_option autoImplicit false

/-! ## Shared keys -/

namespace Catalogue

/-- The key of the one resource that is in a namespace, but not in that of the record. -/
def authReaderKey : ObjectKey := authReader.1.keyIn (some "kube-system") authReader.2

/-- A key that a resource has for all records. -/
def isShared (key : ObjectKey) : Bool := key.ns.isNone || key = authReaderKey

theorem nodup_names : (table.flatten.map fun n => (n.1.type, n.2)).Nodup := by decide +kernel

section Addresses

variable {ns other : String} {resource resource' : Kind × String}

theorem eq_of_address_eq (hmem : resource ∈ table.flatten) (hmem' : resource' ∈ table.flatten)
    (h : address ns resource = address other resource') : resource = resource' :=
  List.inj_on_of_nodup_map nodup_names hmem hmem'
    (congrArg (fun key => (key.type, key.name)) h)

theorem isShared_address_iff (hmem : resource ∈ table.flatten) (hns : ns ≠ other) :
    isShared (address ns resource) = true ↔ address ns resource = address other resource := by
  by_cases hreader : resource = authReader
  · subst hreader
    exact ⟨fun _ => rfl, fun _ => rfl⟩
  · cases hnamespaced : resource.1.namespaced with
    | false =>
      have haddress (ns : String) : address ns resource = resource.1.keyIn none resource.2 := by
        rw [address_of_ne _ _ hreader, hnamespaced]
        rfl
      rw [haddress, haddress]
      exact ⟨fun _ => rfl, fun _ => rfl⟩
    | true =>
      have haddress (ns : String) : (address ns resource).ns = some ns := by
        rw [address_of_ne _ _ hreader, hnamespaced]
        rfl
      constructor
      · intro hshared
        rw [isShared, haddress, Option.isNone_some, Bool.false_or, decide_eq_true_iff] at hshared
        have hsame : address ns resource = address ns authReader := hshared
        exact absurd (eq_of_address_eq hmem (by decide) hsame) hreader
      · intro heq
        have hsame := congrArg ObjectKey.ns heq
        rw [haddress, haddress] at hsame
        exact absurd (Option.some.inj hsame) hns

end Addresses

/-- The keys of these objects that they have for all records. -/
def sharedKeys (docs : List Managed) : List ObjectKey := (docs.map (·.key)).filter isShared

section Keys

variable {ns other : String} {docs docs' : List Managed}

theorem isShared_iff_mem (hns : ns ≠ other)
    (hkeys : docs.map (·.key) = table.flatten.map (address ns))
    (hkeys' : docs'.map (·.key) = table.flatten.map (address other)) {d : Managed} (hd : d ∈ docs) :
    isShared d.key = true ↔ d.key ∈ docs'.map (·.key) := by
  have hmem : d.key ∈ table.flatten.map (address ns) := hkeys ▸ List.mem_map_of_mem hd
  obtain ⟨resource, hresource, heq⟩ := List.mem_map.1 hmem
  rw [← heq, isShared_address_iff hresource hns, hkeys']
  constructor
  · intro hsame
    exact hsame ▸ List.mem_map_of_mem hresource
  · intro hmem'
    obtain ⟨resource', hresource', heq'⟩ := List.mem_map.1 hmem'
    cases eq_of_address_eq hresource hresource' heq'.symm
    exact heq'.symm

theorem sharedKeys_eq (hns : ns ≠ other)
    (hkeys : docs.map (·.key) = table.flatten.map (address ns))
    (hkeys' : docs'.map (·.key) = table.flatten.map (address other)) :
    sharedKeys docs = sharedKeys docs' := by
  have hshared : ∀ resource ∈ table.flatten,
      isShared (address ns resource) = isShared (address other resource) := by
    intro resource hresource
    rw [Bool.eq_iff_iff, isShared_address_iff hresource hns,
      isShared_address_iff hresource hns.symm, eq_comm]
  have hfixed : table.flatten.filter (isShared ∘ address ns) =
      table.flatten.filter (isShared ∘ address other) := List.filter_congr hshared
  rw [sharedKeys, sharedKeys, hkeys, hkeys', List.filter_map, List.filter_map, hfixed]
  refine List.map_congr_left fun resource hresource => ?_
  obtain ⟨hresource, hfixed⟩ := List.mem_filter.1 hresource
  exact ((isShared_address_iff hresource hns.symm).1 hfixed).symm

end Keys

end Catalogue

/-! ## Labels -/

/-- A label that is asked for is found on whatever is settled. -/
theorem Object.label_of_isSettled {desired live : Object} (h : desired.isSettled live = true)
    {labels : StringMap} (hlabels : desired.metadata.labels = some labels) {name value : String}
    (hvalue : labels.get? name = some value) :
    ∃ labels', live.metadata.labels = some labels' ∧ labels'.get? name = some value := by
  have hmembers : Json.membersSubset _ live.members = true := h
  rw [Json.membersSubset_iff] at hmembers
  have hmetadata := hmembers ("metadata", Json.stripMetadata desired.metadata.toJson)
    (List.mem_map.2 ⟨("metadata", desired.metadata.toJson), List.mem_filter.2
      ⟨Assoc.mem_of_find? desired.find?_members_metadata, by simp⟩, if_pos rfl⟩)
  rw [live.find?_members_metadata] at hmetadata
  have hfields : Json.membersSubset _ (Json.presentMembers live.metadata.fields) = true := hmetadata
  rw [Json.membersSubset_iff] at hfields
  have hfield := hfields ("labels", Json.ofStringMap labels) (List.mem_filter.2
    ⟨List.mem_filterMap.2 ⟨("labels", some (Json.ofStringMap labels)),
      by simp [Metadata.fields, hlabels], rfl⟩, by simp [Json.serverFields]⟩)
  have hlive : Assoc.find? "labels" (Json.presentMembers live.metadata.fields) =
      live.metadata.labels.map Json.ofStringMap :=
    Json.find?_presentMembers live.metadata.ascending_fields (by simp [Metadata.fields])
  rw [hlive] at hfield
  cases hlabels' : live.metadata.labels with
  | none =>
    rw [hlabels'] at hfield
    cases hfield
  | some labels' =>
    rw [hlabels'] at hfield
    have htexts : Json.membersSubset _ (labels'.entries.map fun e => (e.1, Json.str e.2)) = true :=
      hfield
    rw [Json.membersSubset_iff] at htexts
    have htext := htexts (name, .str value) (List.mem_map.2
      ⟨(name, value), Assoc.mem_of_find? hvalue, rfl⟩)
    have hfind : Assoc.find? name (labels'.entries.map fun e => (e.1, Json.str e.2)) =
      (labels'.get? name).map .str := Json.member?_ofStringMap labels' name
    rw [hfind] at htext
    refine ⟨labels', rfl, ?_⟩
    cases hvalue' : labels'.get? name with
    | none =>
      rw [hvalue'] at htext
      cases htext
    | some value' =>
      rw [hvalue'] at htext
      have hsame : (value == value') = true := htext
      rw [eq_of_beq hsame]

/-- Whatever is made is labelled with the namespace of the record. -/
def Production.Labelled (p : Production) : Prop :=
  ∀ c d, p.build c = .ok d → ∃ labels, d.object.metadata.labels = some labels ∧
    labels.get? Catalogue.namespaceLabel = some c.ns

namespace Catalogue

theorem labelled_controlPlane : ∀ s ∈ controlPlane, ∀ p ∈ s.productions, p.Labelled := by
  intro s hs p hp c d hd
  obtain ⟨m, rfl, hbelongs⟩ := belongs_catalogue (List.mem_append_left _ hs) hp hd
  exact ⟨m.labels, rfl, hbelongs.marks.ns⟩

end Catalogue

/-! ## What is rendered -/

theorem Record.StoredAs.ns_of_resolve {m : Memory} (hm : m.Reachable) {key : ObjectKey} {r : Record}
    (h : StoredAs m key r) {c : Configuration} (hresolve : Configuration.resolve r = .ok c) :
    key.ns = some c.ns := by
  obtain ⟨o, hget, ho⟩ := h
  rw [← Configuration.ns_of_resolve hresolve, metadata_of_ofObject ho,
    Object.ns_of_key (hm.keyed _ _ hget)]

namespace Catalogue

/-- These are the objects of a configuration: what the subsystems are to bring to the cluster, at
the addresses of the table, labelled with the namespace. -/
structure Rendered (c : Configuration) (docs : List Managed) : Prop where
  rows : ∃ rows, controlPlane.mapM (·.render c) = .ok rows ∧
    rows.flatten = docs.map fun d => (d, .present)
  keys : docs.map (·.key) = table.flatten.map (address c.ns)
  labelled : ∀ d ∈ docs, ∃ labels, d.object.metadata.labels = some labels ∧
    labels.get? namespaceLabel = some c.ns

section Rendered

variable {c : Configuration}

/-- What a subsystem renders is what its productions make. -/
theorem built_of_renderPresent {s : Subsystem} {docs : List Managed}
    (hpresent : ∀ p ∈ s.productions, s.effectiveState p = .present)
    (h : renderPresent c s = .ok docs) :
    Renders c s docs ∧ s.render c = .ok (docs.map fun d => (d, .present)) := by
  rw [renderPresent_eq c hpresent] at h
  cases hbuild : Production.buildAll c s.productions with
  | error e =>
    rw [hbuild] at h
    cases h
  | ok built =>
    rw [hbuild] at h
    cases h
    refine ⟨forall₂_of_mapM hbuild, ?_⟩
    rw [render_of_present c hpresent, hbuild]
    rfl

theorem keys_of_identified {ps : List Production} {row : List (Kind × String)}
    (h : List.Forall₂ Production.Identified ps row) {docs : List Managed}
    (hbuild : List.Forall₂ (fun p d => p.build c = .ok d) ps docs) :
    docs.map (·.key) = row.map (address c.ns) := by
  induction h generalizing docs with
  | nil =>
    cases hbuild
    rfl
  | cons hp _ ih =>
    cases hbuild with
    | cons hd hrest => exact List.cons_eq_cons.2 ⟨hp.key c _ hd, ih hrest⟩

theorem built_of_mapM {subsystems : List Subsystem} {docs : List (List Managed)}
    (hpresent : ∀ s ∈ subsystems, ∀ p ∈ s.productions, s.effectiveState p = .present)
    (h : subsystems.mapM (renderPresent c) = .ok docs) :
    List.Forall₂ (fun s own => Renders c s own ∧
      s.render c = .ok (own.map fun d => (d, .present))) subsystems docs := by
  induction subsystems generalizing docs with
  | nil =>
    cases h
    exact .nil
  | cons s rest ih =>
    obtain ⟨own, others, hown, hothers, rfl⟩ := mapM_cons_ok h
    obtain ⟨hs, hrest⟩ := List.forall_mem_cons.1 hpresent
    exact .cons (built_of_renderPresent hs hown) (ih hrest hothers)

theorem rendered_of_mapM {docs : List (List Managed)}
    (h : controlPlane.mapM (renderPresent c) = .ok docs) : Rendered c docs.flatten := by
  have hbuilt := built_of_mapM present_controlPlane h
  have hrenders : List.Forall₂ (Renders c) controlPlane docs := hbuilt.imp fun _ _ h => h.1
  refine ⟨⟨docs.map fun own => own.map fun d => (d, .present), ?_, List.map_flatten.symm⟩, ?_, ?_⟩
  · exact mapM_of_forall₂ (List.forall₂_map_right_iff.2 (hbuilt.imp fun _ _ h => h.2))
  · exact keys_of_identified
      (List.rel_flatten (List.forall₂_map_left_iff.2 identifies_controlPlane))
      (List.rel_flatten (List.forall₂_map_left_iff.2 hrenders))
  · intro d hd
    obtain ⟨own, hown, hd⟩ := List.mem_flatten.1 hd
    obtain ⟨s, hs, hs'⟩ := exists_of_forall₂ hrenders.flip hown
    obtain ⟨p, hp, hbuild⟩ := exists_of_forall₂ hs'.flip hd
    exact labelled_controlPlane s hs p hp c d hbuild

theorem rendered_of_render {r : Record} {docs : List Managed} (h : render false r = .ok docs) :
    isSupported r.spec.version = true ∧
      ∃ c, Configuration.resolve r = .ok c ∧ Rendered c docs := by
  have hversion : isSupported r.spec.version = true := by
    by_contra hunsupported
    rw [render, if_neg hunsupported] at h
    cases h
  cases hresolve : Configuration.resolve r with
  | error e =>
    rw [render, if_pos hversion, hresolve] at h
    cases h
  | ok c =>
    rw [render_eq hversion hresolve] at h
    obtain ⟨built, hbuilt, rfl⟩ := map_ok_inv h
    exact ⟨hversion, c, rfl, rendered_of_mapM hbuilt⟩

end Rendered

end Catalogue

end MeshOperator
