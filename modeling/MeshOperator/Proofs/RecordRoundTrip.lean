import MeshOperator.Proofs.StatusWrites

/-!
Records, encoded and decoded.

A record that goes into a cluster and comes back is the same record, whatever it leaves out and
whatever it leaves empty, also if the object has lost its type on the way. An object that came from
elsewhere may say more than a record can hold, or say it otherwise; once it was decoded and encoded,
doing so again changes nothing.
-/

namespace MeshOperator

set_option autoImplicit false

/-! ## Timestamps that all can read -/

/-- The year has four digits, as every reader of such texts expects. -/
def Timestamp.IsReadable (t : Timestamp) : Prop := 0 ≤ t.date.year ∧ t.date.year ≤ 9999

instance (t : Timestamp) : Decidable t.IsReadable :=
  inferInstanceAs (Decidable (0 ≤ t.date.year ∧ t.date.year ≤ 9999))

def ManagedFields.IsReadable (f : ManagedFields) : Prop := ∀ t ∈ f.time, t.IsReadable

/-- Every point in time has a year of four digits. -/
structure Metadata.IsReadable (m : Metadata) : Prop where
  creation : ∀ t ∈ m.creationTimestamp, t.IsReadable
  deletion : ∀ t ∈ m.deletionTimestamp, t.IsReadable
  managers : ∀ entries ∈ m.managedFields, ∀ f ∈ entries, f.IsReadable

namespace Record

/-- Whether an object is a record, and which one, does not depend on its type. -/
theorem ofObject_retyped (o : Object) (type : Option TypeName) :
    ofObject { o with type := type } = ofObject o := by
  have hiff (r : Record) : ofObject { o with type := type } = .ok r ↔ ofObject o = .ok r := by
    rw [ofObject_eq_ok, ofObject_eq_ok]
    exact Iff.rfl
  cases hretyped : ofObject { o with type := type } with
  | ok r => exact ((hiff r).1 hretyped).symm
  | error e =>
    cases ho : ofObject o with
    | ok r => cases hretyped.symm.trans ((hiff r).2 ho)
    | error e' => rw [ofObject_error hretyped, ofObject_error ho]

/-- A record all of whose timestamps have a year of four digits is encoded as an object that is
decoded as that record, with its type or without. An object that is decoded as a record is as such
encoded as an object that stays the same when it is decoded and encoded again. -/
theorem round_trip :
    (∀ r : Record, r.metadata.IsReadable →
      ∃ o, r.toObject = .ok o ∧ ofObject o = .ok r ∧ ofObject { o with type := none } = .ok r) ∧
    ∀ o r, ofObject o = .ok r →
      ∃ o', r.toObject = .ok o' ∧ ofObject o' = .ok r ∧ (ofObject o').bind toObject = .ok o' := by
  constructor
  · intro r _
    have hread := r.ofObject_object
    exact ⟨r.object, r.toObject_eq, hread, (ofObject_retyped _ none).trans hread⟩
  · intro o r _
    have hread := r.ofObject_object
    refine ⟨r.object, r.toObject_eq, hread, ?_⟩
    rw [hread]
    exact r.toObject_eq

/-- A record in which empty and absent fields stand next to each other: a list of finalizers and a
map of labels without entries, certificates of which one text is missing, a status without phase. -/
def sparse : Record where
  metadata := { Metadata.empty with
    name := some "linkerd"
    creationTimestamp := some .epoch
    finalizers := some []
    labels := some .empty
    managedFields := some [⟨none, some "FieldsV1", none, some "", none, none, some .epoch⟩] }
  spec := { (plain none).spec with
    logLevel := some ""
    certificates := some ⟨"anchors", "", "certificate"⟩
    imagePullPolicy := some .ifNotPresent
    heartbeat := ⟨{ WorkloadSettings.none with
      affinity := Pruned.ofJson? (.obj [("nodeAffinity", .null), ("podAffinity", .obj [])])
      tolerations := (Pruned.ofJson? (.obj [("operator", .str "Exists")])).toList }, some ""⟩ }
  status := some ⟨none, ""⟩

theorem round_trip_sparse :
    sparse.metadata.IsReadable ∧ ∃ o, sparse.toObject = .ok o ∧
      ofObject { o with type := none } = .ok sparse ∧ (ofObject o).bind toObject = .ok o := by
  have hr : sparse.metadata.IsReadable := by
    refine ⟨?_, ?_, ?_⟩ <;> simp [sparse, Metadata.empty, ManagedFields.IsReadable] <;> decide
  obtain ⟨hforth, hback⟩ := round_trip
  obtain ⟨o, hwrite, hread, huntyped⟩ := hforth sparse hr
  obtain ⟨o', hwrite', -, hagain⟩ := hback o sparse hread
  cases hwrite.symm.trans hwrite'
  exact ⟨hr, o, hwrite, huntyped, hagain⟩

end Record

end MeshOperator
