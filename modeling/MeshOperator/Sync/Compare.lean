import MeshOperator.Object.Basic

/-!
Comparison of a desired object with the live one.

* `Json.strip` drops what the server fills in.
* `Json.isSubset` says that a value has everything that another asks for. Objects may have further
  members, lists may not have further items, and a `null` asks for nothing.
* `Json.difference` counts what has to be added, changed and removed.
-/

namespace MeshOperator

set_option autoImplicit false

namespace Json

/-- Fields of metadata that the server fills in. -/
def serverFields : List String :=
  ["managedFields", "resourceVersion", "generation", "creationTimestamp", "uid", "selfLink"]

def stripMetadata : Json → Json
  | .obj members => .obj (members.filter fun m => m.1 ∉ serverFields)
  | v => v

/-- The value without status and without what the server fills into its metadata. -/
def strip : Json → Json
  | .obj members => .obj ((members.filter fun m => m.1 ≠ "status").map fun m =>
      if m.1 = "metadata" then (m.1, stripMetadata m.2) else m)
  | v => v

mutual

/-- Does `live` have everything that `desired` asks for? -/
def isSubset : Json → Json → Bool
  | .obj desired, .obj live => membersSubset desired live
  | .arr desired, .arr live => itemsSubset desired live
  | desired, live => desired == live

def membersSubset : Members → Members → Bool
  | [], _ => true
  | (name, desired) :: rest, live =>
    (match Assoc.find? name live with
      | none => desired.isNull
      | some value => isSubset desired value) && membersSubset rest live

def itemsSubset : List Json → List Json → Bool
  | [], [] => true
  | desired :: rest, live :: others => isSubset desired live && itemsSubset rest others
  | _, _ => false

end

/-- How many fields and items have to be added, changed and removed. -/
structure Difference where
  adds : Nat
  updates : Nat
  removes : Nat
  deriving DecidableEq, Repr

namespace Difference

def none : Difference := ⟨0, 0, 0⟩

def add (a b : Difference) : Difference :=
  ⟨a.adds + b.adds, a.updates + b.updates, a.removes + b.removes⟩

instance : Add Difference := ⟨add⟩

end Difference

def itemDifference (target base : List Json) : Difference where
  adds := target.length - base.length
  updates := (target.zip base).countP fun p => p.1 != p.2
  removes := base.length - target.length

mutual

def difference : Json → Json → Difference
  | .obj target, .obj base =>
    memberDifference target base
      + ⟨0, 0, base.countP fun m => (Assoc.find? m.1 target).isNone⟩
  | .arr target, .arr base => itemDifference target base
  | target, base => if target == base then .none else ⟨0, 1, 0⟩

def memberDifference : Members → Members → Difference
  | [], _ => .none
  | (name, value) :: rest, base =>
    (match Assoc.find? name base with
      | none => ⟨1, 0, 0⟩
      | some other => if value == other then .none else difference value other)
      + memberDifference rest base

end

end Json

namespace Object

def mergeMaps (live desired : Option StringMap) : Option StringMap :=
  match live, desired with
  | none, d => d
  | some l, none => some l
  | some l, some d => some (l.merge d)

/-- Metadata of the desired object with what belongs to the live one: resource version and unique
identifier, labels and annotations, and finalizers and owners unless the desired object has some. -/
def overlayMetadata (desired live : Metadata) : Metadata :=
  { desired with
    resourceVersion := live.resourceVersion
    uid := live.uid
    labels := mergeMaps live.labels desired.labels
    annotations := mergeMaps live.annotations desired.annotations
    finalizers := desired.finalizers.or live.finalizers
    ownerReferences := desired.ownerReferences.or live.ownerReferences }

def isService (o : Object) : Bool := o.type = some ⟨"v1", "Service"⟩

theorem canonical_insert {spec : Json.Members} (hs : (Json.obj spec).Canonical) (name : String)
    {v : Json} (hv : v.Canonical) : (Json.obj (Assoc.insert name v spec)).Canonical := by
  have h := (Json.canonical_obj _).1 hs
  refine (Json.canonical_obj _).2 ⟨Assoc.ascending_insert name v h.1, fun m hm => ?_⟩
  rcases Assoc.mem_insert hm with rfl | hm
  · exact hv
  · exact h.2 m hm

/-- The field of the specification that the server has set in the live object. -/
def allocated? (name : String) (live : Body) : Option Json.Raw :=
  match h : live.find? "spec" with
  | some (.obj spec) =>
    match hv : Assoc.find? name spec with
    | some v => some ⟨v, (Body.canonical_of_find? h).find? hv⟩
    | none => none
  | _ => none

/-- Take a field of the live specification over unless it is set. -/
def keepAllocated (name : String) (live body : Body) : Body :=
  match allocated? name live, h : body.find? "spec" with
  | some v, some (.obj spec) =>
    if (Assoc.find? name spec).isSome then body
    else body.set "spec" (by decide) (.obj (Assoc.insert name v.val spec))
      (canonical_insert (Body.canonical_of_find? h) name v.property)
  | _, _ => body

/-- The desired object, carrying what belongs to the live one. A service also keeps the addresses
that it was given. -/
def overlay (desired live : Object) : Object where
  type := desired.type
  metadata := overlayMetadata desired.metadata live.metadata
  body :=
    if desired.isService then
      keepAllocated "clusterIPs" live.body (keepAllocated "clusterIP" live.body desired.body)
    else desired.body

end Object

end MeshOperator
