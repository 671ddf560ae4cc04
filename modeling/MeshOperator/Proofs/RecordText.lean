import MeshOperator.Proofs.MetadataText
import MeshOperator.Record.Basic

/-!
Declarations and statuses, written and read back.

Both come back as they were, and their texts are canonical. A record comes back as it was if its
metadata can be read.
-/

namespace MeshOperator

set_option autoImplicit false

namespace SortedMap

theorem eq_empty_of_isEmpty {κ α : Type} [Ord κ] {m : SortedMap κ α} (h : m.isEmpty = true) :
    m = .empty := by
  obtain ⟨entries, ascending⟩ := m
  have hnil : entries = [] := List.isEmpty_iff.1 h
  subst hnil
  rfl

end SortedMap

/-! ## Single fields -/

namespace Json

section Fields

variable {fields : List (String × Option Json)} (ha : Assoc.Ascending fields) {name : String}

include ha

theorem optionalInt32_present {field : Option Int32}
    (hf : (name, field.map fun n => int n.toInt) ∈ fields) :
    optionalField? (presentMembers fields) name asInt32? = some field :=
  optionalField?_present ha (fun n : Int32 => int n.toInt) hf (fun _ => Json.noConfusion)
    (fun n _ => asInt32?_toInt n)

theorem optionalPruned_present {s : Shape} (hs : s.WellFormed) {field : Option (Pruned s)}
    (hf : (name, field.map fun p => p.value) ∈ fields) :
    optionalField? (presentMembers fields) name Pruned.ofJson? = some field :=
  optionalField?_present ha (fun p : Pruned s => p.value) hf (fun p => p.value_ne_null)
    (fun p _ => p.ofJson?_value hs)

/-- A map that is left out while it is empty. -/
theorem mapField_present {m : StringMap}
    (hf : (name, if m.isEmpty then none else some (ofStringMap m)) ∈ fields) :
    fieldOr? (presentMembers fields) name .empty asStringMap? = some m := by
  refine fieldOr?_present ha hf ?_ ?_
  · intro habsent
    by_cases he : m.isEmpty = true
    · exact SortedMap.eq_empty_of_isEmpty he
    · simp only [he, Bool.false_eq_true, if_false, reduceCtorEq] at habsent
  · intro v hv
    by_cases he : m.isEmpty = true
    · simp only [he, if_true, Option.mem_def, reduceCtorEq] at hv
    · simp only [he, Bool.false_eq_true, if_false, Option.mem_def, Option.some.injEq] at hv
      rw [← hv, asStringMap?_ofStringMap]

theorem listField_present {α : Type} (write : α → Json) {read : Json → Option α} {items : List α}
    (hf : (name, if items.isEmpty then none else some (arr (items.map write))) ∈ fields)
    (hread : ∀ a ∈ items, read (write a) = some a) :
    fieldOr? (presentMembers fields) name [] (asList? read) = some items := by
  cases items with
  | nil => exact fieldOr?_present ha hf (fun _ => rfl) (by simp)
  | cons a rest =>
    refine fieldOr?_present ha hf (by simp) ?_
    intro v hv
    have hsome : v = arr ((a :: rest).map write) := (Option.some.inj hv).symm
    rw [hsome, asList?_arr hread]

theorem textOrEmpty_present {s : String} (hf : (name, Certificates.unlessEmpty s) ∈ fields) :
    fieldOr? (presentMembers fields) name "" asString? = some s := by
  by_cases hs : s = ""
  · refine fieldOr?_present ha hf (fun _ => hs) ?_
    intro v hv
    simp only [Certificates.unlessEmpty, hs, if_true, Option.mem_def, reduceCtorEq] at hv
  · refine fieldOr?_present ha hf ?_ ?_
    · intro habsent
      simp only [Certificates.unlessEmpty, hs, if_false, reduceCtorEq] at habsent
    · intro v hv
      simp only [Certificates.unlessEmpty, hs, if_false, Option.mem_def, Option.some.injEq] at hv
      rw [← hv, asString?]

theorem blockField_present {α : Type} {default value : α} {read : Json → Option α} {v : Json}
    (hf : (name, some v) ∈ fields) (hread : read v = some value) :
    fieldOr? (presentMembers fields) name default read = some value := by
  refine fieldOr?_present ha hf (by simp) ?_
  intro w hw
  have hv : v = w := Option.some.inj hw
  rw [← hv, hread]

end Fields

end Json

/-! ## Declarations -/

namespace PullPolicy

theorem asChoice?_text (p : PullPolicy) : Json.asChoice? alternatives (.str p.text) = some p := by
  cases p <;> rfl

end PullPolicy

namespace Certificates

theorem ascending_fields (c : Certificates) : Assoc.Ascending c.fields :=
  (Assoc.ascending_iff_keys _).2 (by simp +decide [fields])

theorem ofJson?_toJson (c : Certificates) : ofJson? c.toJson = some c := by
  have ha := c.ascending_fields
  have hanchors : Json.fieldOr? (Json.presentMembers c.fields) "trustAnchorsPEM" "" Json.asString?
      = some c.trustAnchors := Json.textOrEmpty_present ha (by simp [fields])
  have hkey : Json.fieldOr? (Json.presentMembers c.fields) "keyPEM" "" Json.asString?
      = some c.key := Json.textOrEmpty_present ha (by simp [fields])
  have hcertificate : Json.fieldOr? (Json.presentMembers c.fields) "crtPEM" "" Json.asString?
      = some c.certificate := Json.textOrEmpty_present ha (by simp [fields])
  simp only [toJson, Json.present, ofJson?, Json.asFields?, hanchors, hkey, hcertificate,
    Option.bind_eq_bind, Option.bind_some]

end Certificates

namespace WorkloadSettings

theorem ascending_fields (s : WorkloadSettings) : Assoc.Ascending s.fields :=
  (Assoc.ascending_iff_keys _).2 (by simp +decide [fields])

/-- The settings are read back also from among other fields. -/
theorem ofMembers?_present (s : WorkloadSettings) {all : List (String × Option Json)}
    (ha : Assoc.Ascending all) (hs : ∀ f ∈ s.fields, f ∈ all) :
    ofMembers? (Json.presentMembers all) = some s := by
  have himage : Json.optionalField? (Json.presentMembers all) "image" Json.asString?
      = some s.image := Json.optionalText_present ha (hs _ (by simp [fields]))
  have hresources : Json.optionalField? (Json.presentMembers all) "resources" Pruned.ofJson?
      = some s.resources :=
    Json.optionalPruned_present ha Shape.wellFormed_resources (hs _ (by simp [fields]))
  have hselector : Json.fieldOr? (Json.presentMembers all) "nodeSelector" .empty Json.asStringMap?
      = some s.nodeSelector := Json.mapField_present ha (hs _ (by simp [fields]))
  have haffinity : Json.optionalField? (Json.presentMembers all) "affinity" Pruned.ofJson?
      = some s.affinity :=
    Json.optionalPruned_present ha Shape.wellFormed_affinity (hs _ (by simp [fields]))
  have htolerations : Json.fieldOr? (Json.presentMembers all) "tolerations" []
      (Json.asList? Pruned.ofJson?) = some s.tolerations :=
    Json.listField_present ha (fun p : Toleration => p.value) (hs _ (by simp [fields]))
      fun p _ => p.ofJson?_value Shape.wellFormed_toleration
  have hannotations : Json.fieldOr? (Json.presentMembers all) "podAnnotations" .empty
      Json.asStringMap? = some s.podAnnotations :=
    Json.mapField_present ha (hs _ (by simp [fields]))
  have hcontext : Json.optionalField? (Json.presentMembers all) "securityContext" Pruned.ofJson?
      = some s.securityContext :=
    Json.optionalPruned_present ha Shape.wellFormed_securityContext (hs _ (by simp [fields]))
  have hreplicas : Json.optionalField? (Json.presentMembers all) "replicaCount" Json.asInt32?
      = some s.replicaCount := Json.optionalInt32_present ha (hs _ (by simp [fields]))
  simp only [ofMembers?, himage, hresources, hselector, haffinity, htolerations, hannotations,
    hcontext, hreplicas, Option.bind_eq_bind, Option.bind_some]

theorem ofJson?_toJson (s : WorkloadSettings) : ofJson? s.toJson = some s :=
  s.ofMembers?_present s.ascending_fields fun _ hf => hf

end WorkloadSettings

namespace HeartbeatSettings

theorem ascending_fields (s : HeartbeatSettings) : Assoc.Ascending s.fields :=
  (Assoc.ascending_iff_keys _).2 (by simp +decide [fields])

theorem ofJson?_toJson (s : HeartbeatSettings) : ofJson? s.toJson = some s := by
  have ha := s.ascending_fields
  have hworkload : WorkloadSettings.ofMembers? (Json.presentMembers s.fields) = some s.workload := by
    refine s.workload.ofMembers?_present ha fun f hf => ?_
    simp only [WorkloadSettings.fields, List.mem_cons, List.not_mem_nil, or_false] at hf
    rcases hf with rfl | rfl | rfl | rfl | rfl | rfl | rfl | rfl <;> simp [fields]
  have hschedule : Json.optionalField? (Json.presentMembers s.fields) "schedule" Json.asString?
      = some s.schedule := Json.optionalText_present ha (by simp [fields])
  simp only [toJson, Json.present, ofJson?, hschedule, hworkload, Option.bind_eq_bind,
    Option.bind_some]

end HeartbeatSettings

namespace Declaration

theorem ascending_fields (d : Declaration) : Assoc.Ascending d.fields :=
  (Assoc.ascending_iff_keys _).2 (by simp +decide [fields])

theorem ofJson?_toJson (d : Declaration) : ofJson? d.toJson = some d := by
  have ha := d.ascending_fields
  have workload (name : String) (s : WorkloadSettings) (hf : (name, some s.toJson) ∈ d.fields) :
      Json.fieldOr? (Json.presentMembers d.fields) name .none WorkloadSettings.ofJson? = some s :=
    Json.blockField_present ha hf s.ofJson?_toJson
  have hversion : (Assoc.find? "version" (Json.presentMembers d.fields)).bind Json.asString?
      = some d.version := by
    have hfind : Assoc.find? "version" (Json.presentMembers d.fields) = some (.str d.version) :=
      Json.find?_presentMembers ha (by simp [fields])
    rw [hfind, Option.bind_some, Json.asString?]
  have hlevel : Json.optionalField? (Json.presentMembers d.fields) "logLevel" Json.asString?
      = some d.logLevel := Json.optionalText_present ha (by simp [fields])
  have hcertificates : Json.optionalField? (Json.presentMembers d.fields) "selfSignedCerts"
      Certificates.ofJson? = some d.certificates :=
    Json.optionalField?_present ha Certificates.toJson (by simp [fields])
      (fun _ => Json.noConfusion) (fun c _ => c.ofJson?_toJson)
  have hnamespaces : Json.fieldOr? (Json.presentMembers d.fields) "autoInjectionNamespaces" []
      Json.asStrings? = some d.autoInjectionNamespaces :=
    Json.listField_present ha Json.str (by simp [fields, Json.strings]) fun _ _ => rfl
  have hpolicy : Json.optionalField? (Json.presentMembers d.fields) "imagePullPolicy"
      (Json.asChoice? PullPolicy.alternatives) = some d.imagePullPolicy :=
    Json.optionalField?_present ha (fun p : PullPolicy => .str p.text) (by simp [fields])
      (fun _ => Json.noConfusion) (fun p _ => p.asChoice?_text)
  have hheartbeat : Json.fieldOr? (Json.presentMembers d.fields) "heartbeat" .none
      HeartbeatSettings.ofJson? = some d.heartbeat :=
    Json.blockField_present ha (by simp [fields]) d.heartbeat.ofJson?_toJson
  have hcontroller := workload "controller" d.controller (by simp [fields])
  have hdestination := workload "destination" d.destination (by simp [fields])
  have hidentity := workload "identity" d.identity (by simp [fields])
  have hprometheus := workload "prometheus" d.prometheus (by simp [fields])
  have hinjector := workload "proxyInjector" d.proxyInjector (by simp [fields])
  have htap := workload "tap" d.tap (by simp [fields])
  have hweb := workload "web" d.web (by simp [fields])
  have hfields : (Json.obj (Json.presentMembers d.fields)).asFields? fieldNames =
      some (Json.presentMembers d.fields) := rfl
  show ofJson? (.obj (Json.presentMembers d.fields)) = some d
  unfold ofJson?
  rw [hfields, Option.bind_eq_bind, Option.bind_some, hversion, hlevel, hcertificates, hnamespaces,
    hpolicy, hcontroller, hdestination, hheartbeat, hidentity, hprometheus, hinjector, htap, hweb]
  rfl

end Declaration

/-! ## Statuses -/

namespace Phase

theorem ofText?_text (p : Phase) : ofText? p.text = some p := by
  cases p <;> decide

theorem text_ne_empty (p : Phase) : p.text ≠ "" := by
  cases p <;> decide

end Phase

namespace RecordStatus

theorem ascending_fields (s : RecordStatus) : Assoc.Ascending s.fields :=
  (Assoc.ascending_iff_keys _).2 (by simp +decide [fields])

theorem phase?_text (p : Option Phase) : phase? (p.map (·.text)) = some p := by
  cases p with
  | none => rfl
  | some p =>
    have hne := p.text_ne_empty
    simp only [phase?, Option.map_some, p.ofText?_text]

theorem ofJson?_toJson (s : RecordStatus) : ofJson? s.toJson = some s := by
  have ha := s.ascending_fields
  have hphase : Json.optionalField? (Json.presentMembers s.fields) "Status" Json.asString?
      = some (s.phase.map (·.text)) :=
    Json.optionalText_present ha (by simp [fields, Function.comp_def])
  have hmessage : Json.fieldOr? (Json.presentMembers s.fields) "ErrorMessage" "" Json.asString?
      = some s.errorMessage := Json.textOrEmpty_present ha (by simp [fields, Certificates.unlessEmpty])
  rw [Json.optionalField?] at hphase
  rw [Json.fieldOr?] at hmessage
  simp only [toJson, Json.present, ofJson?, Json.asFields?, hphase, hmessage, phase?_text,
    Option.bind_eq_bind, Option.bind_some]

end RecordStatus

/-! ## Canonical texts -/

namespace Json

theorem canonical_unless (p : Prop) [Decidable p] {w : Json} (h : w.Canonical) :
    ∀ v ∈ (if p then none else some w), v.Canonical := by
  intro v hv
  split at hv
  · cases hv
  · cases hv
    exact h

theorem canonical_pruned {s : Shape} (hs : s.WellFormed) (field : Option (Pruned s)) :
    ∀ v ∈ field.map fun p => p.value, v.Canonical :=
  (canonical_mem_map field _).2 fun p _ => p.canonical hs

theorem canonical_text (field : Option String) : ∀ v ∈ field.map str, v.Canonical :=
  (canonical_mem_map field _).2 fun s _ => canonical_str s

end Json

namespace Certificates

theorem canonical_toJson (c : Certificates) : c.toJson.Canonical := by
  refine Json.canonical_present c.ascending_fields ?_
  simp only [fields, unlessEmpty, List.forall_mem_cons]
  exact ⟨Json.canonical_unless _ (Json.canonical_str _), Json.canonical_unless _ (Json.canonical_str _),
    Json.canonical_unless _ (Json.canonical_str _), by simp⟩

end Certificates

namespace WorkloadSettings

theorem canonical_tolerations (s : WorkloadSettings) :
    (Json.arr (s.tolerations.map (·.value))).Canonical := by
  simp [Pruned.canonical Shape.wellFormed_toleration]

theorem canonical_replicaCount (s : WorkloadSettings) :
    ∀ v ∈ s.replicaCount.map fun n => Json.int n.toInt, v.Canonical :=
  (Json.canonical_mem_map _ _).2 fun _ _ => Json.canonical_int _

theorem canonical_toJson (s : WorkloadSettings) : s.toJson.Canonical := by
  refine Json.canonical_present s.ascending_fields ?_
  simp only [fields, List.forall_mem_cons]
  exact ⟨Json.canonical_pruned Shape.wellFormed_affinity _, Json.canonical_text _,
    Json.canonical_unless _ (Json.canonical_ofStringMap _),
    Json.canonical_unless _ (Json.canonical_ofStringMap _), s.canonical_replicaCount,
    Json.canonical_pruned Shape.wellFormed_resources _,
    Json.canonical_pruned Shape.wellFormed_securityContext _,
    Json.canonical_unless _ s.canonical_tolerations, by simp⟩

end WorkloadSettings

namespace HeartbeatSettings

theorem canonical_toJson (s : HeartbeatSettings) : s.toJson.Canonical := by
  refine Json.canonical_present s.ascending_fields ?_
  simp only [fields, List.forall_mem_cons]
  exact ⟨Json.canonical_pruned Shape.wellFormed_affinity _, Json.canonical_text _,
    Json.canonical_unless _ (Json.canonical_ofStringMap _),
    Json.canonical_unless _ (Json.canonical_ofStringMap _), s.workload.canonical_replicaCount,
    Json.canonical_pruned Shape.wellFormed_resources _, Json.canonical_text _,
    Json.canonical_pruned Shape.wellFormed_securityContext _,
    Json.canonical_unless _ s.workload.canonical_tolerations, by simp⟩

end HeartbeatSettings

namespace Declaration

theorem canonical_toJson (d : Declaration) : d.toJson.Canonical := by
  refine Json.canonical_present d.ascending_fields ?_
  have hnamespaces : ∀ v ∈ (if d.autoInjectionNamespaces.isEmpty then none
      else some (Json.strings d.autoInjectionNamespaces)), v.Canonical :=
    Json.canonical_unless _ (Json.canonical_strings _)
  simp only [fields, List.forall_mem_cons, Json.canonical_mem_some, Json.canonical_mem_map,
    WorkloadSettings.canonical_toJson, HeartbeatSettings.canonical_toJson,
    Certificates.canonical_toJson, Json.canonical_str, implies_true, true_and]
  exact ⟨hnamespaces, by simp⟩

end Declaration

namespace RecordStatus

theorem canonical_toJson (s : RecordStatus) : s.toJson.Canonical := by
  refine Json.canonical_present s.ascending_fields ?_
  simp only [fields, List.forall_mem_cons, Json.canonical_mem_map, Json.canonical_str,
    implies_true, true_and]
  exact ⟨Json.canonical_unless _ (Json.canonical_str _), by simp⟩

end RecordStatus

end MeshOperator
