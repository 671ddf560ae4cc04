import MeshOperator.Proofs.RecordText

/-!
Records and the objects that hold them.

An object is read as a record by its metadata, its specification and its status. The record has the
very metadata of the object, and the object made from a record is read as that record again.
-/

namespace MeshOperator

set_option autoImplicit false

/-! ## Members of an object -/

namespace Object

def members (o : Object) : Json.Members :=
  Assoc.insertAll (typeMembers o.type ++ ("metadata", o.metadata.toJson) :: o.body.members) []

theorem toJson_eq (o : Object) : o.toJson = .obj o.members := rfl

/-- What the body does not say is said by metadata and type. -/
theorem find?_members (o : Object) (name : String) :
    Assoc.find? name o.members = (o.body.find? name).or
      (if name = "metadata" then some o.metadata.toJson
        else Assoc.find? name (typeMembers o.type)) := by
  have hbody : (o.body.members.map (·.1)).Nodup :=
    Assoc.nodup_keys ((Json.canonical_obj _).1 o.body.canonical).1
  have hsplit : o.members = Assoc.insertAll o.body.members
      (Assoc.insert "metadata" o.metadata.toJson (Assoc.insertAll (typeMembers o.type) [])) := by
    rw [members, Assoc.insertAll, List.foldl_append]
    rfl
  have htype : ((typeMembers o.type).map (·.1)).Nodup := by
    cases o.type with
    | none => exact List.nodup_nil
    | some t => simp [typeMembers]
  rw [hsplit, Assoc.find?_insertAll name hbody]
  by_cases hname : name = "metadata"
  · subst hname
    rw [Assoc.find?_insert_self, if_pos rfl]
    rfl
  · rw [Assoc.find?_insert_ne hname, Assoc.find?_insertAll name htype, if_neg hname]
    simp [Assoc.find?, Body.find?]

theorem find?_members_metadata (o : Object) :
    Assoc.find? "metadata" o.members = some o.metadata.toJson := by
  rw [find?_members, Body.find?_metadata, if_pos rfl, Option.none_or]

theorem find?_members_of_ne (o : Object) {name : String} (hm : name ≠ "metadata")
    (ha : name ≠ "apiVersion") (hk : name ≠ "kind") :
    Assoc.find? name o.members = o.body.find? name := by
  have htype : Assoc.find? name (typeMembers o.type) = none := by
    rw [Assoc.find?_eq_none_iff]
    intro e he
    cases ht : o.type with
    | none => simp [ht, typeMembers] at he
    | some t =>
      simp only [ht, typeMembers, List.mem_cons, List.not_mem_nil, or_false] at he
      rcases he with rfl | rfl
      · exact ha.symm
      · exact hk.symm
  rw [find?_members, if_neg hm, htype, Option.or_none]

end Object

/-! ## From objects to records -/

namespace Record

theorem ofObject_eq_ok {o : Object} {r : Record} :
    ofObject o = .ok r ↔
      r.metadata = o.metadata ∧
        (o.body.find? "spec").bind Declaration.ofJson? = some r.spec ∧
          Json.optional? RecordStatus.ofJson? o.status? = some r.status := by
  have hmetadata := o.find?_members_metadata
  have hspec : Assoc.find? "spec" o.members = o.body.find? "spec" :=
    o.find?_members_of_ne (by decide) (by decide) (by decide)
  have hstatus : Assoc.find? "status" o.members = o.status? :=
    o.find?_members_of_ne (by decide) (by decide) (by decide)
  have hread : ofJson? o.toJson = (do
      let metadata ← Metadata.ofJson? o.metadata.toJson
      let spec ← (o.body.find? "spec").bind Declaration.ofJson?
      let status ← Json.optional? RecordStatus.ofJson? o.status?
      some ⟨metadata, spec, status⟩) := by
    simp only [Object.toJson_eq, ofJson?, fields?, hmetadata, hspec, Json.optionalField?, hstatus,
      Option.bind_eq_bind, Option.bind_some]
  have hok : ofObject o = .ok r ↔ ofJson? o.toJson = some r := by
    unfold ofObject
    split
    next r' h => rw [h]; simp
    next h => rw [h]; simp
  rw [hok, hread]
  constructor
  · intro h
    obtain ⟨metadata, hm, h⟩ := Option.bind_eq_some_iff.1 h
    obtain ⟨spec, hs, h⟩ := Option.bind_eq_some_iff.1 h
    obtain ⟨status, ht, h⟩ := Option.bind_eq_some_iff.1 h
    cases h
    exact ⟨Option.some.inj (hm.symm.trans o.metadata.ofJson?_toJson), hs, ht⟩
  · rintro ⟨hm, hs, ht⟩
    rw [o.metadata.ofJson?_toJson, hs, ht, ← hm]
    rfl

theorem metadata_of_ofObject {o : Object} {r : Record} (h : ofObject o = .ok r) :
    r.metadata = o.metadata := (ofObject_eq_ok.1 h).1

/-! ## From records to objects -/

/-- What an object with a record holds besides type and metadata. -/
def bodyFields (r : Record) : List (String × Option Json) := [
  ("spec", some r.spec.toJson),
  ("status", r.status.map (·.toJson))]

theorem ascending_bodyFields (r : Record) : Assoc.Ascending r.bodyFields :=
  (Assoc.ascending_iff_keys _).2 (by simp +decide [bodyFields])

theorem ascending_fields (r : Record) : Assoc.Ascending r.fields :=
  (Assoc.ascending_iff_keys _).2 (by simp +decide [fields])

theorem unreserved_bodyFields (r : Record) :
    ∀ m ∈ Json.presentMembers r.bodyFields, m.1 ≠ "metadata" := by
  intro m hm
  obtain ⟨f, hf, hfm⟩ := List.mem_filterMap.1 hm
  obtain ⟨v, -, rfl⟩ := Option.map_eq_some_iff.1 hfm
  simp only [bodyFields, List.mem_cons, List.not_mem_nil, or_false] at hf
  rcases hf with rfl | rfl <;> simp

theorem canonical_bodyFields (r : Record) :
    (Json.obj (Json.presentMembers r.bodyFields)).Canonical := by
  refine Json.canonical_present r.ascending_bodyFields ?_
  simp only [bodyFields, List.forall_mem_cons, Json.canonical_mem_some, Json.canonical_mem_map]
  exact ⟨r.spec.canonical_toJson, fun s _ => s.canonical_toJson, by simp⟩

/-- The object that holds a record. -/
def object (r : Record) : Object where
  type := some type
  metadata := r.metadata
  body := ⟨Json.presentMembers r.bodyFields, r.canonical_bodyFields, r.unreserved_bodyFields⟩

@[simp] theorem object_metadata (r : Record) : r.object.metadata = r.metadata := rfl

@[simp] theorem object_spec (r : Record) : r.object.body.find? "spec" = some r.spec.toJson :=
  Json.find?_presentMembers r.ascending_bodyFields (by simp [bodyFields])

@[simp] theorem object_status (r : Record) : r.object.status? = r.status.map (·.toJson) :=
  Json.find?_presentMembers r.ascending_bodyFields (by simp [bodyFields])

theorem object_key (r : Record) (h : r.metadata.name.isSome) : r.object.key = .ok r.key := by
  obtain ⟨name, hname⟩ := Option.isSome_iff_exists.1 h
  simp only [Object.key, object, hname, key, Option.some_or, Option.getD_some]

theorem ofJson?_toJson_object (r : Record) :
    Object.ofJson? r.toJson = (Metadata.ofJson? r.metadata.toJson).map fun metadata =>
      { r.object with metadata := metadata } := by
  have ha := r.ascending_fields
  have hmetadata : Assoc.find? "metadata" (Json.presentMembers r.fields)
      = some r.metadata.toJson := Json.find?_presentMembers ha (by simp [fields])
  have hversion : Assoc.find? "apiVersion" (Json.presentMembers r.fields)
      = some (.str type.apiVersion) := Json.find?_presentMembers ha (by simp [fields])
  have hkind : Assoc.find? "kind" (Json.presentMembers r.fields) = some (.str type.kind) :=
    Json.find?_presentMembers ha (by simp [fields])
  have htype : Object.readType (Json.presentMembers r.fields)
      = (some type, ["apiVersion", "kind"]) := by
    simp only [Object.readType, hversion, hkind]
  have hbody : ((Json.presentMembers r.fields).filter fun m =>
      m.1 ≠ "metadata" ∧ m.1 ∉ ["apiVersion", "kind"]) = Json.presentMembers r.bodyFields := by
    cases hs : r.status <;> simp [Json.presentMembers, fields, bodyFields, hs]
  have hmembers : Body.ofMembers? (Json.presentMembers r.bodyFields) = some r.object.body :=
    dif_pos ⟨r.canonical_bodyFields, r.unreserved_bodyFields⟩
  simp only [toJson, Json.present, Object.ofJson?, Object.ofMembers?, Object.readMetadata?,
    hmetadata, Json.orDefault?, htype, hbody, hmembers, Option.bind_eq_bind, Option.bind_some]
  cases Metadata.ofJson? r.metadata.toJson <;> rfl

/-- A record is encoded as the object that holds it. -/
theorem toObject_eq (r : Record) : r.toObject = .ok r.object := by
  have hread := r.ofJson?_toJson_object
  rw [r.metadata.ofJson?_toJson, Option.map_some] at hread
  simp only [toObject, hread]
  rfl

theorem optional?_status (s : Option RecordStatus) :
    Json.optional? RecordStatus.ofJson? (s.map (·.toJson)) = some s := by
  cases s with
  | none => rfl
  | some s =>
    have hne : s.toJson ≠ .null := Json.noConfusion
    simp only [Option.map_some, Json.optional?, s.ofJson?_toJson]

/-- The object that holds a record is read as that record. -/
theorem ofObject_object (r : Record) : ofObject r.object = .ok r := by
  refine ofObject_eq_ok.2 ⟨rfl, ?_, ?_⟩
  · rw [object_spec, Option.bind_some, r.spec.ofJson?_toJson]
  · rw [object_status, optional?_status]

end Record

/-! ## Objects that are records -/

namespace Object

/-- The object can be read as a record. -/
def IsRecord (o : Object) : Prop := ∃ r, Record.ofObject o = .ok r

theorem isRecord_iff (o : Object) :
    o.IsRecord ↔ ((o.body.find? "spec").bind Declaration.ofJson?).isSome ∧
      (Json.optional? RecordStatus.ofJson? o.status?).isSome := by
  constructor
  · rintro ⟨r, hr⟩
    obtain ⟨-, hspec, hstatus⟩ := Record.ofObject_eq_ok.1 hr
    rw [hspec, hstatus]
    exact ⟨rfl, rfl⟩
  · rintro ⟨hspec, hstatus⟩
    obtain ⟨spec, hspec⟩ := Option.isSome_iff_exists.1 hspec
    obtain ⟨status, hstatus⟩ := Option.isSome_iff_exists.1 hstatus
    exact ⟨⟨o.metadata, spec, status⟩, Record.ofObject_eq_ok.2 ⟨rfl, hspec, hstatus⟩⟩

end Object

end MeshOperator
