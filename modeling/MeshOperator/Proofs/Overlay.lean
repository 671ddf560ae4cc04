import MeshOperator.Proofs.Containment

/-!
Desired objects laid over live ones.

The result is described by `Object.Overlaid`, which says of every part where it comes from. An
object is determined by this, and what it describes stays the same when the desired object is laid
over the result, whose own parts are then the live ones.
-/

namespace MeshOperator

set_option autoImplicit false

theorem SortedMap.eq_of_get? {κ α : Type} [Ord κ] [Std.TransOrd κ] [Std.LawfulEqOrd κ]
    {a b : SortedMap κ α} (h : ∀ key, a.get? key = b.get? key) : a = b := by
  have hentries : a.entries = b.entries := Assoc.eq_of_find? a.ascending b.ascending h
  cases a
  cases hentries
  rfl

/-! ## Joined maps -/

/-- The third map is there if one of the others is, and has all of both; the first one wins. -/
structure Joined (upper lower out : Option StringMap) : Prop where
  isSome : out.isSome = (upper.isSome || lower.isSome)
  get? : ∀ key, out.bind (·.get? key) = (upper.bind (·.get? key)).or (lower.bind (·.get? key))

namespace Joined

variable {upper lower out out' : Option StringMap}

theorem mergeMaps (upper lower : Option StringMap) :
    Joined upper lower (Object.mergeMaps lower upper) := by
  cases lower with
  | none => exact ⟨(Bool.or_false _).symm, fun key => (Option.or_none ..).symm⟩
  | some l =>
    cases upper with
    | none => exact ⟨rfl, fun key => rfl⟩
    | some u => exact ⟨rfl, fun key => SortedMap.get?_merge l u⟩

theorem unique (h : Joined upper lower out) (h' : Joined upper lower out') : out = out' := by
  have hsome : out.isSome = out'.isSome := h.isSome.trans h'.isSome.symm
  have hget : ∀ key, out.bind (·.get? key) = out'.bind (·.get? key) := fun key =>
    (h.get? key).trans (h'.get? key).symm
  cases out with
  | none =>
    cases out' with
    | none => rfl
    | some m => cases hsome
  | some m =>
    cases out' with
    | none => cases hsome
    | some m' => exact congrArg some (SortedMap.eq_of_get? hget)

/-- What has been joined once has all of the upper map already. -/
theorem again (h : Joined upper lower out) : Joined upper out out where
  isSome := by rw [h.isSome, ← Bool.or_assoc, Bool.or_self]
  get? key := by rw [h.get? key, ← Option.or_assoc, Option.or_self]

end Joined

/-! ## Where the parts come from -/

/-- Metadata without what a live object has a say in. -/
def Metadata.unshared (m : Metadata) : Metadata :=
  { m with
    resourceVersion := none
    uid := none
    labels := none
    annotations := none
    finalizers := none
    ownerReferences := none }

theorem Metadata.eq_of_unshared {m m' : Metadata} (h : m.unshared = m'.unshared)
    (hversion : m.resourceVersion = m'.resourceVersion) (huid : m.uid = m'.uid)
    (hlabels : m.labels = m'.labels) (hannotations : m.annotations = m'.annotations)
    (hfinalizers : m.finalizers = m'.finalizers)
    (howners : m.ownerReferences = m'.ownerReferences) : m = m' := by
  cases m
  cases m'
  simp only [unshared, Metadata.mk.injEq] at *
  simp_all

namespace Object

/-- The fields of a service that the cluster allocates. -/
def allocatedFields : List String := ["clusterIP", "clusterIPs"]

/-- A member of the specification, if that is an object. -/
def specField? (o : Object) (name : String) : Option Json :=
  (o.body.find? "spec").bind fun spec => spec.member? name

/-- The object is the desired one with what belongs to the live one. -/
structure Overlaid (desired live out : Object) : Prop where
  type : out.type = desired.type
  resourceVersion : out.metadata.resourceVersion = live.metadata.resourceVersion
  uid : out.metadata.uid = live.metadata.uid
  labels : Joined desired.metadata.labels live.metadata.labels out.metadata.labels
  annotations :
    Joined desired.metadata.annotations live.metadata.annotations out.metadata.annotations
  finalizers : out.metadata.finalizers = desired.metadata.finalizers.or live.metadata.finalizers
  ownerReferences :
    out.metadata.ownerReferences =
      desired.metadata.ownerReferences.or live.metadata.ownerReferences
  rest : out.metadata.unshared = desired.metadata.unshared
  /-- Only a service whose specification is an object gains anything in its body. -/
  body : (desired.type ≠ some Kind.service.type ∨
    ∀ spec, desired.body.find? "spec" ≠ some (.obj spec)) → out.body = desired.body
  members : ∀ name, name ≠ "spec" → out.body.find? name = desired.body.find? name
  /-- A service takes over what was allocated to it and what it does not set. -/
  spec : ∀ spec, desired.type = some Kind.service.type →
    desired.body.find? "spec" = some (.obj spec) →
      ∃ spec', out.body.find? "spec" = some (.obj spec') ∧ ∀ name, Assoc.find? name spec' =
        (Assoc.find? name spec).or (if name ∈ allocatedFields then live.specField? name else none)

namespace Overlaid

variable {desired live out out' : Object}

/-- There is one such object only. -/
theorem unique (h : Overlaid desired live out) (h' : Overlaid desired live out') : out = out' := by
  have hmetadata : out.metadata = out'.metadata :=
    Metadata.eq_of_unshared (h.rest.trans h'.rest.symm)
      (h.resourceVersion.trans h'.resourceVersion.symm) (h.uid.trans h'.uid.symm)
      (h.labels.unique h'.labels) (h.annotations.unique h'.annotations)
      (h.finalizers.trans h'.finalizers.symm) (h.ownerReferences.trans h'.ownerReferences.symm)
  have hbody : out.body = out'.body := by
    by_cases hplain : desired.type ≠ some Kind.service.type ∨
        ∀ spec, desired.body.find? "spec" ≠ some (.obj spec)
    · exact (h.body hplain).trans (h'.body hplain).symm
    · obtain ⟨htype, spec, hspec⟩ :
          desired.type = some Kind.service.type ∧
            ∃ spec, desired.body.find? "spec" = some (.obj spec) := by
        simpa using hplain
      obtain ⟨made, hmade, hfind⟩ := h.spec spec htype hspec
      obtain ⟨made', hmade', hfind'⟩ := h'.spec spec htype hspec
      have hsame : made = made' := Assoc.eq_of_find?
        ((Json.canonical_obj _).1 (Body.canonical_of_find? hmade)).1
        ((Json.canonical_obj _).1 (Body.canonical_of_find? hmade')).1
        fun name => (hfind name).trans (hfind' name).symm
      refine Body.eq_of_find? fun name => ?_
      by_cases hname : name = "spec"
      · rw [hname, hmade, hmade', hsame]
      · exact (h.members name hname).trans (h'.members name hname).symm
  cases out
  cases out'
  cases h.type.trans h'.type.symm
  cases hmetadata
  cases hbody
  rfl

/-- What has been laid over once has all that it could take over. -/
theorem again (h : Overlaid desired live out) : Overlaid desired out out where
  type := h.type
  resourceVersion := rfl
  uid := rfl
  labels := h.labels.again
  annotations := h.annotations.again
  finalizers := by rw [h.finalizers, ← Option.or_assoc, Option.or_self]
  ownerReferences := by rw [h.ownerReferences, ← Option.or_assoc, Option.or_self]
  rest := h.rest
  body := h.body
  members := h.members
  spec := fun spec htype hspec => by
    obtain ⟨made, hmade, hfind⟩ := h.spec spec htype hspec
    refine ⟨made, hmade, fun name => ?_⟩
    have hfield : out.specField? name = Assoc.find? name made := by
      rw [specField?, hmade]
      rfl
    by_cases hname : name ∈ allocatedFields
    · rw [if_pos hname, hfield, hfind, if_pos hname, ← Option.or_assoc, Option.or_self]
    · rw [if_neg hname, hfind, if_neg hname]

end Overlaid

/-! ## Laying over -/

theorem map_allocated? (name : String) (live : Object) :
    (allocated? name live.body).map (·.val) = live.specField? name := by
  unfold allocated?
  split
  next spec h =>
    have hfield : live.specField? name = Assoc.find? name spec := by
      rw [specField?, h]
      rfl
    rw [hfield]
    split
    next v hv => exact hv.symm
    next hv => exact hv.symm
  next h =>
    unfold specField?
    cases hspec : live.body.find? "spec" with
    | none => rfl
    | some v =>
      cases v with
      | obj spec => exact absurd hspec (h spec)
      | _ => rfl

theorem keepAllocated_of_not_object {name : String} {live body : Body}
    (h : ∀ spec, body.find? "spec" ≠ some (.obj spec)) : keepAllocated name live body = body := by
  unfold keepAllocated
  split
  next v spec _ hspec => exact absurd hspec (h spec)
  next => rfl

theorem find?_spec_keepAllocated (name : String) (live : Body) {body : Body}
    {spec : Json.Members} (h : body.find? "spec" = some (.obj spec)) :
    ∃ spec', (keepAllocated name live body).find? "spec" = some (.obj spec') ∧
      ∀ other, Assoc.find? other spec' = (Assoc.find? other spec).or
        (if other = name then (allocated? name live).map (·.val) else none) := by
  unfold keepAllocated
  split
  next v spec' hv hspec' =>
    cases h.symm.trans hspec'
    by_cases hset : (Assoc.find? name spec).isSome = true
    · rw [if_pos hset]
      refine ⟨spec, h, fun other => ?_⟩
      by_cases hother : other = name
      · rw [hother, Option.or_of_isSome hset]
      · rw [if_neg hother, Option.or_none]
    · rw [if_neg hset]
      refine ⟨_, Body.find?_set_self _ _ _ _, fun other => ?_⟩
      by_cases hother : other = name
      · subst hother
        rw [if_pos rfl, Assoc.find?_insert_self, Option.not_isSome_iff_eq_none.1 hset, hv]
        rfl
      · rw [if_neg hother, Assoc.find?_insert_ne hother, Option.or_none]
  next hnot =>
    have hnone : allocated? name live = none :=
      Option.eq_none_iff_forall_ne_some.2 fun v hv => hnot v spec hv h
    refine ⟨spec, h, fun other => ?_⟩
    rw [hnone, Option.map_none, ite_self, Option.or_none]

theorem overlaid (desired live : Object) : Overlaid desired live (desired.overlay live) where
  type := rfl
  resourceVersion := rfl
  uid := rfl
  labels := .mergeMaps _ _
  annotations := .mergeMaps _ _
  finalizers := rfl
  ownerReferences := rfl
  rest := rfl
  body := fun h => by
    by_cases hservice : desired.isService = true
    · have hspec : ∀ spec, desired.body.find? "spec" ≠ some (.obj spec) :=
        h.resolve_left (not_not_intro (of_decide_eq_true hservice))
      simp only [overlay, hservice, if_true]
      rw [keepAllocated_of_not_object hspec, keepAllocated_of_not_object hspec]
    · simp only [overlay, hservice]
      rfl
  members := (find?_overlay desired live).1
  spec := fun spec htype hspec => by
    have hservice : desired.isService = true := decide_eq_true htype
    obtain ⟨made, hmade, hfind⟩ := find?_spec_keepAllocated "clusterIP" live.body hspec
    obtain ⟨last, hlast, hfind'⟩ := find?_spec_keepAllocated "clusterIPs" live.body hmade
    refine ⟨last, ?_, fun name => ?_⟩
    · simp only [overlay, hservice, if_true]
      exact hlast
    · rw [hfind', hfind, map_allocated?, map_allocated?, Option.or_assoc]
      congr 1
      by_cases hip : name = "clusterIP"
      · simp [hip, allocatedFields]
      · by_cases hips : name = "clusterIPs"
        · simp [hips, allocatedFields]
        · simp [hip, hips, allocatedFields]

/-- The desired object has all that it asks for in what it is laid over a live object as. -/
theorem isSettled_overlay (desired live : Object) :
    desired.isSettled (desired.overlay live) = true := by
  obtain ⟨hother, hspec⟩ := find?_overlay desired live
  exact isSettled_of rfl (covers_overlay _ _) (fun name _ hname => hother name hname) hspec

/-- A desired object that is laid over a live one keeps all that it asks for, and the result has
from either exactly what `Overlaid` says, which leaves no choice. To lay the object over the result
changes nothing. -/
theorem overlay_keeps_both (desired live : Object) :
    (desired.toJson.strip.isSubset (desired.overlay live).toJson = true) ∧
    (∀ out, Overlaid desired live out ↔ out = desired.overlay live) ∧
    desired.overlay (desired.overlay live) = desired.overlay live := by
  have hoverlaid := overlaid desired live
  refine ⟨isSettled_overlay desired live, fun out => ⟨fun h => h.unique hoverlaid, ?_⟩, ?_⟩
  · rintro rfl
    exact hoverlaid
  · exact (overlaid desired (desired.overlay live)).unique hoverlaid.again

end Object

end MeshOperator
