import MeshOperator.Object.Key
import MeshOperator.Object.Metadata

/-!
Cluster objects.

An object has a type, metadata and a body: every other member, kept as it is. The members of a
body are canonical, and metadata is not among them. An object without a usable type or name has no
key; `Defect` says what is missing.

`Object.ofJson?` takes the type only if API version and kind are both strings. Members that it
read on the way to finding out otherwise are dropped.
-/

namespace MeshOperator

set_option autoImplicit false

inductive Defect where
  | untyped
  | unnamed (kind : String)
  /-- The namespace of an object of a namespaced kind is missing. -/
  | unplaced (key : ObjectKey)
  deriving DecidableEq, Repr

namespace Defect

def text : Defect → String
  | .untyped => "object missing apiVersion/kind"
  | .unnamed kind => kind ++ " missing metadata.name"
  | .unplaced key => key.display ++ " is namespaced but has no namespace"

end Defect

/-- The members of an object besides type and metadata. -/
structure Body where
  members : Json.Members
  canonical : (Json.obj members).Canonical
  /-- Metadata has a place of its own. -/
  unreserved : ∀ m ∈ members, m.1 ≠ "metadata"

namespace Body

def empty : Body := ⟨[], by simp [Assoc.ascending_nil], by simp⟩

instance : Inhabited Body := ⟨empty⟩

def ofMembers? (members : Json.Members) : Option Body :=
  if h : (Json.obj members).Canonical ∧ ∀ m ∈ members, m.1 ≠ "metadata" then
    some ⟨members, h.1, h.2⟩
  else none

def find? (b : Body) (name : String) : Option Json := Assoc.find? name b.members

theorem canonical_of_find? {b : Body} {name : String} {v : Json} (h : b.find? name = some v) :
    v.Canonical := b.canonical.find? h

def set (b : Body) (name : String) (hn : name ≠ "metadata") (v : Json) (hv : v.Canonical) :
    Body where
  members := Assoc.insert name v b.members
  canonical := by
    have hb := (Json.canonical_obj _).1 b.canonical
    refine (Json.canonical_obj _).2 ⟨Assoc.ascending_insert name v hb.1, fun m hm => ?_⟩
    rcases Assoc.mem_insert hm with rfl | hm
    · exact hv
    · exact hb.2 m hm
  unreserved := fun m hm => by
    rcases Assoc.mem_insert hm with rfl | hm
    · exact hn
    · exact b.unreserved m hm

def erase (b : Body) (name : String) : Body where
  members := Assoc.erase name b.members
  canonical := by
    have hb := (Json.canonical_obj _).1 b.canonical
    exact (Json.canonical_obj _).2
      ⟨Assoc.ascending_erase name hb.1, fun m hm => hb.2 m (List.mem_filter.1 hm).1⟩
  unreserved := fun m hm => b.unreserved m (List.mem_filter.1 hm).1

/-- The member of another body under this name, or none if that has none. -/
def take (b : Body) (name : String) (hn : name ≠ "metadata") (source : Body) : Body :=
  match h : source.find? name with
  | some v => b.set name hn v (canonical_of_find? h)
  | none => b.erase name

/-! ## Lookups -/

section Lookups

variable (b : Body) {name other : String} (hn : name ≠ "metadata")

@[simp] theorem find?_metadata : b.find? "metadata" = none :=
  (Assoc.find?_eq_none_iff _ _).2 b.unreserved

@[simp] theorem find?_set_self (v : Json) (hv : v.Canonical) :
    (b.set name hn v hv).find? name = some v := Assoc.find?_insert_self _ _ _

theorem find?_set_ne (h : other ≠ name) (v : Json) (hv : v.Canonical) :
    (b.set name hn v hv).find? other = b.find? other := Assoc.find?_insert_ne h _ _

@[simp] theorem find?_erase_self : (b.erase name).find? name = none := Assoc.find?_erase_self _ _

theorem find?_erase_ne (h : other ≠ name) : (b.erase name).find? other = b.find? other :=
  Assoc.find?_erase_ne h _

@[simp] theorem find?_take_self (source : Body) :
    (b.take name hn source).find? name = source.find? name := by
  unfold take
  split
  next v h => rw [find?_set_self, h]
  next h => rw [find?_erase_self, h]

theorem find?_take_ne (h : other ≠ name) (source : Body) :
    (b.take name hn source).find? other = b.find? other := by
  unfold take
  split
  · exact find?_set_ne b hn h _ _
  · exact find?_erase_ne b h

end Lookups

theorem eq_of_find? {a b : Body} (h : ∀ name, a.find? name = b.find? name) : a = b := by
  have hmembers : a.members = b.members := Assoc.eq_of_find?
    ((Json.canonical_obj _).1 a.canonical).1 ((Json.canonical_obj _).1 b.canonical).1 h
  cases a
  cases hmembers
  rfl

end Body

structure Object where
  type : Option TypeName
  metadata : Metadata
  body : Body

namespace Object

instance : Inhabited Object := ⟨⟨none, .empty, .empty⟩⟩

def key (o : Object) : Except Defect ObjectKey :=
  match o.type with
  | none => .error .untyped
  | some t =>
    match o.metadata.name with
    | none => .error (.unnamed t.kind)
    | some name => .ok ⟨t.apiVersion, t.kind, o.metadata.ns, name⟩

theorem name_of_key {o : Object} {key : ObjectKey} (h : o.key = .ok key) :
    o.metadata.name = some key.name := by
  unfold Object.key at h
  split at h
  · cases h
  · split at h
    · cases h
    next name hname =>
      cases h
      exact hname

theorem ns_of_key {o : Object} {key : ObjectKey} (h : o.key = .ok key) :
    o.metadata.ns = key.ns := by
  unfold Object.key at h
  split at h
  · cases h
  · split at h
    · cases h
    · cases h
      rfl

/-! ## Encoding -/

def typeMembers : Option TypeName → Json.Members
  | none => []
  | some t => [("apiVersion", .str t.apiVersion), ("kind", .str t.kind)]

def toJson (o : Object) : Json :=
  .object (typeMembers o.type ++ ("metadata", o.metadata.toJson) :: o.body.members)

theorem canonical_toJson (o : Object) : o.toJson.Canonical := by
  refine Json.canonical_object fun m hm => ?_
  rcases List.mem_append.1 hm with hm | hm
  · cases ht : o.type with
    | none => simp [ht, typeMembers] at hm
    | some t =>
      simp only [ht, typeMembers, List.mem_cons, List.not_mem_nil, or_false] at hm
      rcases hm with rfl | rfl
      · exact Json.canonical_str _
      · exact Json.canonical_str _
  · rcases List.mem_cons.1 hm with rfl | hm
    · exact o.metadata.canonical_toJson
    · exact ((Json.canonical_obj _).1 o.body.canonical).2 m hm

/-- The type of an object with these members, and the names of the members that were read for
it. -/
def readType (members : Json.Members) : Option TypeName × List String :=
  match Assoc.find? "apiVersion" members with
  | some (.str apiVersion) =>
    match Assoc.find? "kind" members with
    | some (.str kind) => (some ⟨apiVersion, kind⟩, ["apiVersion", "kind"])
    | _ => (none, ["apiVersion", "kind"])
  | some _ => (none, ["apiVersion"])
  | none => (none, ["kind"])

/-- Absent metadata is empty. -/
def readMetadata? (members : Json.Members) : Option Metadata :=
  Json.orDefault? .empty Metadata.ofJson? (Assoc.find? "metadata" members)

def ofMembers? (members : Json.Members) : Option Object := do
  let metadata ← readMetadata? members
  let (type, used) := readType members
  let body ← Body.ofMembers? (members.filter fun m => m.1 ≠ "metadata" ∧ m.1 ∉ used)
  some ⟨type, metadata, body⟩

def ofJson? : Json → Option Object
  | .obj members => ofMembers? members
  | _ => none

/-! ## Parts of the body -/

def status? (o : Object) : Option Json := o.body.find? "status"

def withoutStatus (o : Object) : Object := { o with body := o.body.erase "status" }

/-- The object with the status of another one, or without status if that has none. -/
def withStatusOf (o source : Object) : Object :=
  { o with body := o.body.take "status" (by decide) source.body }

@[simp] theorem status?_withStatusOf (o source : Object) :
    (o.withStatusOf source).status? = source.status? := Body.find?_take_self _ _ _

@[simp] theorem spec_withStatusOf (o source : Object) :
    (o.withStatusOf source).body.find? "spec" = o.body.find? "spec" :=
  Body.find?_take_ne _ _ (by decide) _

/-- An object stays as it is if it gets the status that it has. -/
theorem withStatusOf_of_status? {o source : Object} (h : source.status? = o.status?) :
    o.withStatusOf source = o := by
  have hbody : o.body.take "status" (by decide) source.body = o.body := by
    refine Body.eq_of_find? fun name => ?_
    by_cases hname : name = "status"
    · subst hname
      exact (Body.find?_take_self _ _ _).trans h
    · exact Body.find?_take_ne _ _ hname _
  rw [withStatusOf, hbody]

end Object

/-- An object with a key: one that can be kept in a cluster. -/
structure Managed where
  object : Object
  key : ObjectKey
  keyed : object.key = .ok key

namespace Managed

def ofObject (object : Object) : Except Defect Managed :=
  match h : object.key with
  | .error e => .error e
  | .ok key => .ok ⟨object, key, h⟩

end Managed

end MeshOperator
