import MeshOperator.Proofs.FieldText
import MeshOperator.Proofs.RecordObject
import MeshOperator.Store.Memory
import MeshOperator.Sync.Ensure

/-!
What is written has everything that was asked for.

A canonical value contains itself, and a value that only gained members contains what it was before.
So a desired object is settled in what a store keeps of it, whether it was created or laid over a
live object.
-/

namespace MeshOperator

set_option autoImplicit false

namespace Json

/-! ## A value contains itself -/

theorem unpacked_beq_self {u : Float.Model.UnpackedFloat} (h : u ≠ .notANumber) :
    u.beq u = true := by
  cases u with
  | infinity sign => cases sign <;> rfl
  | notANumber => exact absurd rfl h
  | zero sign => rfl
  | finite sign mantissa exponent _ =>
    have hexponent : compare exponent exponent = .eq := Std.ReflCmp.compare_self
    have hmantissa : compare mantissa mantissa = .eq := Std.ReflCmp.compare_self
    cases sign with
    | positive =>
      show (some ((compare exponent exponent).then (compare mantissa mantissa)) == some .eq) = true
      rw [hexponent, hmantissa]
      rfl
    | negative =>
      show (some ((compare exponent exponent).then (compare mantissa mantissa)).swap == some .eq)
        = true
      rw [hexponent, hmantissa]
      rfl

theorem float_beq_self {x : Float} (h : x.isFinite = true) : (x == x) = true := by
  have hfinite : x.toModel.unpack.isFinite = true := h
  apply unpacked_beq_self
  intro hnan
  rw [hnan] at hfinite
  cases hfinite

theorem membersSubset_iff (desired live : Members) :
    membersSubset desired live = true ↔
      ∀ m ∈ desired, (Assoc.find? m.1 live).elim m.2.isNull m.2.isSubset = true := by
  induction desired with
  | nil => simp [membersSubset]
  | cons m rest ih =>
    obtain ⟨name, v⟩ := m
    rw [membersSubset, Bool.and_eq_true, ih, List.forall_mem_cons]
    cases Assoc.find? name live <;> rfl

theorem membersSubset_of {desired live : Members}
    (h : ∀ m ∈ desired, ∃ w, Assoc.find? m.1 live = some w ∧ m.2.isSubset w = true) :
    membersSubset desired live = true := by
  refine (membersSubset_iff desired live).2 fun m hm => ?_
  obtain ⟨w, hw, hsub⟩ := h m hm
  rw [hw]
  exact hsub

theorem find?_of_mem_canonical {members : Members} (h : (Json.obj members).Canonical)
    {m : String × Json} (hm : m ∈ members) : Assoc.find? m.1 members = some m.2 :=
  Assoc.find?_of_mem (Assoc.nodup_keys ((canonical_obj members).1 h).1) hm

mutual

theorem isSubset_self : (v : Json) → v.Canonical → v.isSubset v = true
  | .null, _ => rfl
  | .bool b, _ => by cases b <;> rfl
  | .int n, _ => by
    show (n == n) = true
    exact beq_self_eq_true n
  | .float x, h => by
    show (x == x) = true
    exact float_beq_self h
  | .str s, _ => by
    show (s == s) = true
    exact beq_self_eq_true s
  | .arr items, h => itemsSubset_self items h
  | .obj members, h => by
    refine membersSubset_of fun m hm => ⟨m.2, find?_of_mem_canonical h hm, ?_⟩
    exact isSubset_members members h.2 m hm

theorem itemsSubset_self : (items : List Json) → CanonicalItems items →
    itemsSubset items items = true
  | [], _ => rfl
  | v :: rest, h => by
    rw [itemsSubset, isSubset_self v h.1, itemsSubset_self rest h.2, Bool.and_self]

theorem isSubset_members : (members : Members) → CanonicalMembers members →
    ∀ m ∈ members, m.2.isSubset m.2 = true
  | [], _ => by simp
  | (_, v) :: rest, h => by
    intro m hm
    rcases List.mem_cons.1 hm with rfl | hm
    · exact isSubset_self v h.1
    · exact isSubset_members rest h.2 m hm

end

/-! ## Growing -/

/-- The value is the same, or it is an object that has gained members. -/
def Grown (v w : Json) : Prop :=
  v = w ∨ ∃ s s', v = .obj s ∧ w = .obj s' ∧
    ∀ name x, Assoc.find? name s = some x → Assoc.find? name s' = some x

theorem Grown.refl (v : Json) : Grown v v := .inl rfl

theorem Grown.trans {u v w : Json} (h : Grown u v) (h' : Grown v w) : Grown u w := by
  rcases h with rfl | ⟨s, s', rfl, rfl, h⟩
  · exact h'
  · rcases h' with rfl | ⟨t, t', ht, rfl, h'⟩
    · exact .inr ⟨s, s', rfl, rfl, h⟩
    · cases ht
      exact .inr ⟨s, t', rfl, rfl, fun name x hx => h' name x (h name x hx)⟩

theorem Grown.isSubset {v w : Json} (h : Grown v w) (hv : v.Canonical) : v.isSubset w = true := by
  rcases h with rfl | ⟨s, s', rfl, rfl, h⟩
  · exact isSubset_self v hv
  · refine membersSubset_of fun m hm => ?_
    have hfind := find?_of_mem_canonical hv hm
    exact ⟨m.2, h _ _ hfind, isSubset_self _ (hv.find? hfind)⟩

theorem member?_texts (f : String → String) (m : StringMap) (name : String) :
    (obj (m.entries.map fun e => (e.1, .str (f e.2)))).member? name =
      (m.get? name).map fun s => .str (f s) :=
  Assoc.find?_map_values (fun _ s => str (f s)) name m.entries

theorem member?_ofStringMap (m : StringMap) (name : String) :
    (ofStringMap m).member? name = (m.get? name).map .str := member?_texts id m name

theorem grown_ofStringMap {a b : StringMap}
    (h : ∀ key value, a.get? key = some value → b.get? key = some value) :
    Grown (ofStringMap a) (ofStringMap b) := by
  refine .inr ⟨_, _, rfl, rfl, fun name x hx => ?_⟩
  obtain ⟨value, hvalue, rfl⟩ := Option.map_eq_some_iff.1
    ((member?_ofStringMap a name).symm.trans hx)
  refine (member?_ofStringMap b name).trans ?_
  rw [h name value hvalue]
  rfl

end Json

/-! ## Metadata -/

namespace Metadata

/-- Metadata that says all that the desired metadata says, apart from what the server fills in. -/
structure Covers (desired live : Metadata) : Prop where
  annotations : ∀ d, desired.annotations = some d → ∃ l, live.annotations = some l ∧
    ∀ key value, d.get? key = some value → l.get? key = some value
  labels : ∀ d, desired.labels = some d → ∃ l, live.labels = some l ∧
    ∀ key value, d.get? key = some value → l.get? key = some value
  finalizers : ∀ d, desired.finalizers = some d → live.finalizers = some d
  ownerReferences : ∀ d, desired.ownerReferences = some d → live.ownerReferences = some d
  deletionGracePeriodSeconds : live.deletionGracePeriodSeconds = desired.deletionGracePeriodSeconds
  deletionTimestamp : live.deletionTimestamp = desired.deletionTimestamp
  generateName : live.generateName = desired.generateName
  name : live.name = desired.name
  ns : live.ns = desired.ns

variable {desired live : Metadata}

theorem Covers.fields (h : Covers desired live) {f : String × Option Json}
    (hf : f ∈ desired.fields) (hserver : f.1 ∉ Json.serverFields) {v : Json} (hv : f.2 = some v) :
    ∃ w, (f.1, some w) ∈ live.fields ∧ Json.Grown v w := by
  have hmaps : ∀ {d l : Option StringMap}, (∀ m, d = some m → ∃ n, l = some n ∧
      ∀ key value, m.get? key = some value → n.get? key = some value) →
        d.map Json.ofStringMap = some v → ∃ w, l.map Json.ofStringMap = some w ∧ Json.Grown v w := by
    intro d l h hd
    obtain ⟨m, rfl, rfl⟩ := Option.map_eq_some_iff.1 hd
    obtain ⟨n, rfl, hn⟩ := h m rfl
    exact ⟨_, rfl, Json.grown_ofStringMap hn⟩
  have hlists : ∀ {α : Type} {d l : Option α} {g : α → Json}, (∀ a, d = some a → l = some a) →
      d.map g = some v → ∃ w, l.map g = some w ∧ Json.Grown v w := by
    intro α d l g h hd
    obtain ⟨a, rfl, rfl⟩ := Option.map_eq_some_iff.1 hd
    rw [h a rfl]
    exact ⟨_, rfl, .refl _⟩
  have hkept : ∀ {α : Type} {d l : Option α} {g : α → Json}, l = d →
      d.map g = some v → ∃ w, l.map g = some w ∧ Json.Grown v w := by
    intro α d l g h hd
    exact hlists (fun a ha => h.trans ha) hd
  have hfield : ∀ {name : String} {o : Option Json}, (name, o) ∈ live.fields →
      (∃ w, o = some w ∧ Json.Grown v w) → ∃ w, (name, some w) ∈ live.fields ∧ Json.Grown v w := by
    rintro name _ hmem ⟨w, rfl, hw⟩
    exact ⟨w, hmem, hw⟩
  simp only [Metadata.fields, List.mem_cons, List.not_mem_nil, or_false] at hf
  rcases hf with rfl | rfl | rfl | rfl | rfl | rfl | rfl | rfl | rfl | rfl | rfl | rfl | rfl | rfl |
    rfl
  · exact hfield (by simp [Metadata.fields]) (hmaps h.annotations hv)
  · exact absurd (by simp [Json.serverFields]) hserver
  · exact hfield (by simp [Metadata.fields]) (hkept h.deletionGracePeriodSeconds hv)
  · exact hfield (by simp [Metadata.fields]) (hkept h.deletionTimestamp hv)
  · exact hfield (by simp [Metadata.fields]) (hlists h.finalizers hv)
  · exact hfield (by simp [Metadata.fields]) (hkept h.generateName hv)
  · exact absurd (by simp [Json.serverFields]) hserver
  · exact hfield (by simp [Metadata.fields]) (hmaps h.labels hv)
  · exact absurd (by simp [Json.serverFields]) hserver
  · exact hfield (by simp [Metadata.fields]) (hkept h.name hv)
  · exact hfield (by simp [Metadata.fields]) (hkept h.ns hv)
  · exact hfield (by simp [Metadata.fields]) (hlists h.ownerReferences hv)
  · exact absurd (by simp [Json.serverFields]) hserver
  · exact absurd (by simp [Json.serverFields]) hserver
  · exact absurd (by simp [Json.serverFields]) hserver

theorem Covers.isSubset (h : Covers desired live) :
    (Json.stripMetadata desired.toJson).isSubset live.toJson = true := by
  refine Json.membersSubset_of fun m hm => ?_
  obtain ⟨hm, hserver⟩ := List.mem_filter.1 hm
  obtain ⟨f, hf, hfm⟩ := List.mem_filterMap.1 hm
  obtain ⟨v, hv, rfl⟩ := Option.map_eq_some_iff.1 hfm
  obtain ⟨w, hw, hgrown⟩ := h.fields hf (by simpa using hserver) hv
  have hcanonical : v.Canonical := by
    have hall := (Json.canonical_obj _).1 desired.canonical_toJson
    exact hall.2 _ hm
  exact ⟨w, Json.find?_presentMembers live.ascending_fields hw, hgrown.isSubset hcanonical⟩

end Metadata

/-! ## Objects -/

namespace Object

/-- A desired object is settled in one that says all it says and has all of its body, where the
specification may have grown and the status does not count. -/
theorem isSettled_of {desired live : Object} (htype : live.type = desired.type)
    (hmetadata : Metadata.Covers desired.metadata live.metadata)
    (hsame : ∀ name, name ≠ "status" → name ≠ "spec" →
      live.body.find? name = desired.body.find? name)
    (hspec : ∀ v, desired.body.find? "spec" = some v →
      ∃ w, live.body.find? "spec" = some w ∧ Json.Grown v w) : desired.isSettled live = true := by
  refine Json.membersSubset_of fun m hm => ?_
  obtain ⟨⟨name, v⟩, hmem, rfl⟩ := List.mem_map.1 hm
  obtain ⟨hmem, hstatus⟩ := List.mem_filter.1 hmem
  have hstatus : name ≠ "status" := by simpa using hstatus
  have hcanonical : (Json.obj desired.members).Canonical := desired.canonical_toJson
  have hfind : Assoc.find? name desired.members = some v :=
    Json.find?_of_mem_canonical hcanonical hmem
  by_cases hm : name = "metadata"
  · subst hm
    rw [find?_members_metadata] at hfind
    cases hfind
    exact ⟨_, live.find?_members_metadata, hmetadata.isSubset⟩
  · have hgrown : ∃ w, Assoc.find? name live.members = some w ∧ Json.Grown v w := by
      by_cases hs : name = "spec"
      · subst hs
        rw [find?_members_of_ne _ (by decide) (by decide) (by decide)] at hfind ⊢
        exact hspec v hfind
      · rw [find?_members, if_neg hm] at hfind ⊢
        rw [htype, hsame name hstatus hs]
        exact ⟨v, hfind, .refl v⟩
    obtain ⟨w, hw, hgrown⟩ := hgrown
    simp only [hm, if_false]
    exact ⟨w, hw, hgrown.isSubset (hcanonical.find? hfind)⟩

/-! ## What a store keeps -/

variable (m m' : Memory) (key : ObjectKey)

theorem isSettled_created (x : Object) : x.isSettled (m'.stamp (m.created key x)) = true := by
  have hbody : ∀ name, name ≠ "status" →
      (m.created key x).body.find? name = x.body.find? name := by
    intro name hname
    unfold Memory.created
    split
    · exact Body.find?_erase_ne _ hname
    · rfl
  refine isSettled_of ?_ ?_ (fun name hstatus _ => hbody name hstatus) fun v hv => ?_
  · unfold Memory.created
    split <;> rfl
  · unfold Memory.created
    split <;> exact ⟨fun d hd => ⟨d, hd, fun _ _ h => h⟩, fun d hd => ⟨d, hd, fun _ _ h => h⟩,
      fun _ h => h, fun _ h => h, rfl, rfl, rfl, rfl, rfl⟩
  · exact ⟨v, (hbody "spec" (by decide)).trans hv, .refl v⟩

theorem find?_keepAllocated (name : String) (live body : Body) :
    (∀ other, other ≠ "spec" → (keepAllocated name live body).find? other = body.find? other) ∧
      ∀ v, body.find? "spec" = some v →
        ∃ w, (keepAllocated name live body).find? "spec" = some w ∧ Json.Grown v w := by
  unfold keepAllocated
  split
  next v spec hallocated hbody =>
    by_cases hset : (Assoc.find? name spec).isSome = true
    · rw [if_pos hset]
      exact ⟨fun _ _ => rfl, fun v hv => ⟨v, hv, .refl v⟩⟩
    · rw [if_neg hset]
      refine ⟨fun other hother => Body.find?_set_ne _ _ hother _ _, fun w hw => ?_⟩
      rw [hbody] at hw
      cases hw
      refine ⟨_, Body.find?_set_self _ _ _ _, .inr ⟨spec, _, rfl, rfl, fun other x hx => ?_⟩⟩
      have hne : other ≠ name := by
        rintro rfl
        rw [hx] at hset
        exact hset rfl
      rw [Assoc.find?_insert_ne hne, hx]
  next => exact ⟨fun _ _ => rfl, fun v hv => ⟨v, hv, .refl v⟩⟩

theorem find?_overlay (desired live : Object) :
    (∀ other, other ≠ "spec" → (desired.overlay live).body.find? other = desired.body.find? other) ∧
      ∀ v, desired.body.find? "spec" = some v →
        ∃ w, (desired.overlay live).body.find? "spec" = some w ∧ Json.Grown v w := by
  unfold overlay
  by_cases hservice : desired.isService = true
  · simp only [hservice, if_true]
    obtain ⟨hother, hspec⟩ := find?_keepAllocated "clusterIP" live.body desired.body
    obtain ⟨hother', hspec'⟩ := find?_keepAllocated "clusterIPs" live.body
      (keepAllocated "clusterIP" live.body desired.body)
    refine ⟨fun other h => (hother' other h).trans (hother other h), fun v hv => ?_⟩
    obtain ⟨w, hw, hgrown⟩ := hspec v hv
    obtain ⟨w', hw', hgrown'⟩ := hspec' w hw
    exact ⟨w', hw', hgrown.trans hgrown'⟩
  · simp only [hservice]
    exact ⟨fun _ _ => rfl, fun v hv => ⟨v, hv, .refl v⟩⟩

theorem mergeMaps_covers (live : Option StringMap) :
    ∀ d, ∀ desired, desired = some d → ∃ l, mergeMaps live desired = some l ∧
      ∀ key value, d.get? key = some value → l.get? key = some value := by
  rintro d _ rfl
  cases live with
  | none => exact ⟨d, rfl, fun _ _ h => h⟩
  | some l =>
    refine ⟨l.merge d, rfl, fun key value h => ?_⟩
    rw [SortedMap.get?_merge, h, Option.some_or]

theorem covers_overlay (desired live : Metadata) :
    Metadata.Covers desired (overlayMetadata desired live) where
  annotations d hd := mergeMaps_covers _ d _ hd
  labels d hd := mergeMaps_covers _ d _ hd
  finalizers d hd := by rw [overlayMetadata, hd, Option.some_or]
  ownerReferences d hd := by rw [overlayMetadata, hd, Option.some_or]
  deletionGracePeriodSeconds := rfl
  deletionTimestamp := rfl
  generateName := rfl
  name := rfl
  ns := rfl

theorem isSettled_replaced (x live stored : Object) :
    x.isSettled (m'.stamp (m.replaced key (x.overlay live) stored)) = true := by
  obtain ⟨hother, hspec⟩ := find?_overlay x live
  have hcovers := covers_overlay x.metadata live.metadata
  have hbody : ∀ name, name ≠ "status" →
      (m.replaced key (x.overlay live) stored).body.find? name =
        (x.overlay live).body.find? name := by
    intro name hname
    unfold Memory.replaced
    split
    · exact Body.find?_take_ne _ _ hname _
    · rfl
  refine isSettled_of ?_ ?_ (fun name hstatus hs => (hbody name hstatus).trans (hother name hs))
    fun v hv => ?_
  · unfold Memory.replaced
    split <;> rfl
  · unfold Memory.replaced
    split <;> exact ⟨hcovers.annotations, hcovers.labels, hcovers.finalizers,
      hcovers.ownerReferences, rfl, rfl, rfl, rfl, rfl⟩
  · obtain ⟨w, hw, hgrown⟩ := hspec v hv
    exact ⟨w, (hbody "spec" (by decide)).trans hw, hgrown⟩

end Object

end MeshOperator
