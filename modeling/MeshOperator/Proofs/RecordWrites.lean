import MeshOperator.Proofs.RecordObject
import MeshOperator.Store.Memory

/-!
Writing a record or its status over a stored one, or putting one in place: what is stored then can be
read as a record, too.
-/

namespace MeshOperator

set_option autoImplicit false

namespace Memory

variable {m : Memory} {key : ObjectKey} {stored : Object} {r : Record}

theorem isRecord_stamp (m : Memory) {o : Object} (h : o.IsRecord) : (m.stamp o).IsRecord := by
  rw [Object.isRecord_iff] at h ⊢
  exact h

theorem isRecord_object (r : Record) : r.object.IsRecord := ⟨r, r.ofObject_object⟩

theorem isRecord_replaced (m : Memory) (key : ObjectKey) (r : Record) (hstored : stored.IsRecord) :
    (m.replaced key r.object stored).IsRecord := by
  have hobject := (Object.isRecord_iff _).1 (isRecord_object r)
  rw [Object.isRecord_iff] at hstored ⊢
  unfold replaced
  split
  · have hspec := Object.spec_withStatusOf r.object stored
    have hstatus := Object.status?_withStatusOf r.object stored
    exact ⟨hspec ▸ hobject.1, hstatus ▸ hstored.2⟩
  · exact hobject

theorem isRecord_withStatusOf (r : Record) (hstored : stored.IsRecord) :
    (stored.withStatusOf r.object).IsRecord := by
  have hobject := (Object.isRecord_iff _).1 (isRecord_object r)
  rw [Object.isRecord_iff] at hstored ⊢
  rw [Object.status?_withStatusOf, Object.spec_withStatusOf]
  exact ⟨hstored.1, hobject.2⟩

/-- How a status is written: on its own where the store keeps it apart, else with all the rest. -/
def statusVerb (m : Memory) (key : ObjectKey) : Verb :=
  if m.hasStatusSubresource key then .replaceStatus else .replace

/-- What is stored once the status of a record was written over a stored object. -/
def marked (m : Memory) (key : ObjectKey) (r : Record) (stored : Object) : Object :=
  if m.hasStatusSubresource key then stored.withStatusOf r.object
  else m.replaced key r.object stored

/-! How a status is written does not depend on what is arranged. -/

theorem stamp_conflicts (m : Memory) (f : Verb → Nat) (o : Object) :
    { m with conflicts := f }.stamp o = m.stamp o := rfl

theorem marked_conflicts (m : Memory) (f : Verb → Nat) (key : ObjectKey) (r : Record)
    (stored : Object) : { m with conflicts := f }.marked key r stored = m.marked key r stored := rfl

theorem statusVerb_conflicts (m : Memory) (f : Verb → Nat) (key : ObjectKey) :
    { m with conflicts := f }.statusVerb key = m.statusVerb key := rfl

theorem status?_marked (m : Memory) (key : ObjectKey) (r : Record) (stored : Object) :
    (m.marked key r stored).status? = r.status.map (·.toJson) := by
  unfold marked
  by_cases hstatus : m.hasStatusSubresource key = true
  · rw [if_pos hstatus, Object.status?_withStatusOf, r.object_status]
  · rw [if_neg hstatus, replaced, if_neg hstatus]
    exact r.object_status

theorem isRecord_marked (m : Memory) (key : ObjectKey) (r : Record) (hstored : stored.IsRecord) :
    (m.marked key r stored).IsRecord := by
  unfold marked
  split
  · exact isRecord_withStatusOf r hstored
  · exact isRecord_replaced m key r hstored

end Memory

/-! ## Records that are put in place -/

namespace Record

/-- The record as it is stored once it was put in place. -/
def inserted (m : Memory) (r : Record) : Record :=
  { r with metadata := (m.stamp (m.inserted r.object)).metadata }

theorem objects_insert (m : Memory) {r : Record} (hname : r.metadata.name.isSome) :
    (m.insert r.object).2.objects = m.objects.insert r.key (r.inserted m).object := by
  unfold Memory.insert Memory.withKey
  rw [r.object_key hname]
  rfl

/-- The record of the release 2.8.1 that leaves everything else to defaults. -/
def plain (status : Option RecordStatus) : Record where
  metadata := { Metadata.empty with name := some "linkerd", ns := some "linkerd" }
  spec := {
    version := "2.8.1"
    logLevel := none
    certificates := none
    autoInjectionNamespaces := []
    imagePullPolicy := none
    controller := .none
    destination := .none
    heartbeat := .none
    identity := .none
    prometheus := .none
    proxyInjector := .none
    tap := .none
    web := .none }
  status := status

end Record

theorem Memory.get?_insert_object (m : Memory) {r : Record} (hname : r.metadata.name.isSome) :
    (m.insert r.object).2.objects.get? r.key = some (r.inserted m).object := by
  rw [Record.objects_insert m hname]
  exact SortedMap.get?_insert_self _ _

/-- A store in which nothing but this record was ever put in place. -/
def Memory.ofRecord (r : Record) : Memory := ((empty .epoch).insert r.object).2

theorem Memory.get?_ofRecord {r : Record} (hname : r.metadata.name.isSome) :
    (ofRecord r).objects.get? r.key = some (r.inserted (.empty .epoch)).object :=
  get?_insert_object _ hname

/-- A store in which nothing but a plain record was ever put in place. -/
def Memory.ofPlain (status : Option RecordStatus) : Memory :=
  ((empty .epoch).insert (Record.plain status).object).2

theorem Memory.get?_ofPlain (status : Option RecordStatus) :
    (ofPlain status).objects.get? (Record.plain status).key =
      some ((Record.plain status).inserted (.empty .epoch)).object :=
  get?_ofRecord rfl

end MeshOperator
