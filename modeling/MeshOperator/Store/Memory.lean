import MeshOperator.Object.Kind
import MeshOperator.Store.Procedure

/-!
An object store in memory that follows the concurrency rules of a cluster.

Every successful write increases one revision, and the new revision becomes the resource version
of the written object. A write whose object carries an older resource version is a conflict, one
without resource version always goes through. A kind with a status subresource keeps status and
the rest apart: a full write does not change the status and a status write changes nothing else.

Errors and conflicts can be arranged beforehand, by verb; they come before everything else, and
conflicts before errors. A failing call changes neither objects nor revision nor journal.

`Memory.touch` counts a revision also if it finds no object.
-/

namespace MeshOperator

set_option autoImplicit false

/-- An arranged error: it strikes calls of one verb on objects of one kind, all or those with a
name. -/
structure Fault where
  verb : Verb
  kind : String
  name : Option String
  message : String
  deriving DecidableEq, Repr

namespace Fault

def strikes (f : Fault) (verb : Verb) (key : ObjectKey) : Bool :=
  f.verb = verb && f.kind = key.kind && (f.name.isNone || f.name = some key.name)

def error (f : Fault) : StoreError := .api 500 "InternalError" f.message

end Fault

structure JournalEntry where
  verb : Verb
  key : ObjectKey
  deriving DecidableEq, Repr

structure Memory where
  objects : SortedMap ObjectKey Object
  revision : Nat
  /-- All writes of clients, the oldest first. -/
  journal : List JournalEntry
  faults : List Fault
  /-- How many of the next calls are conflicts. -/
  conflicts : Verb → Nat
  /-- Kinds whose status subresource is not active. -/
  statusless : List String
  /-- The number of unique identifiers given out so far. -/
  issued : Nat
  clock : Timestamp

namespace Memory

def empty (clock : Timestamp) : Memory where
  objects := .empty
  revision := 0
  journal := []
  faults := []
  conflicts := fun _ => 0
  statusless := []
  issued := 0
  clock := clock

def uid (n : Nat) : String := "<uid-" ++ toString n ++ ">"

def find? (m : Memory) (key : ObjectKey) : Except StoreError Object :=
  match m.objects.get? key with
  | some object => .ok object
  | none => .error (.notFound key)

/-- Does the store keep the status of this object apart? -/
def hasStatusSubresource (m : Memory) (key : ObjectKey) : Bool :=
  match Kind.find? key.type with
  | some kind => kind.statusSubresource && key.kind ∉ m.statusless
  | none => false

/-- What stands in the way of a call: an arranged conflict, which is then used up, or an arranged
error. -/
def obstacle? (m : Memory) (verb : Verb) (key : ObjectKey) : Option StoreError × Memory :=
  if m.conflicts verb = 0 then
    ((m.faults.find? fun f => f.strikes verb key).map Fault.error, m)
  else
    (some (.conflict key),
      { m with conflicts := fun v => if v = verb then m.conflicts v - 1 else m.conflicts v })

/-- Go on unless something stands in the way. -/
def unlessObstacle {α : Type} (m : Memory) (verb : Verb) (key : ObjectKey)
    (next : Memory → Except StoreError α × Memory) : Except StoreError α × Memory :=
  match m.obstacle? verb key with
  | (some e, m) => (.error e, m)
  | (none, m) => next m

def withKey {α : Type} (m : Memory) (object : Object)
    (next : ObjectKey → Except StoreError α × Memory) : Except StoreError α × Memory :=
  match object.key with
  | .error defect => (.error (.invalid defect.text), m)
  | .ok key => next key

def stamp (m : Memory) (object : Object) : Object :=
  { object with
    metadata := { object.metadata with resourceVersion := some (toString (m.revision + 1)) } }

/-- Keep an object under a key, at the next revision. -/
def store (m : Memory) (key : ObjectKey) (object : Object) : Memory :=
  { m with revision := m.revision + 1, objects := m.objects.insert key (m.stamp object) }

/-- Keep an object and note the write. -/
def write (m : Memory) (verb : Verb) (key : ObjectKey) (object : Object) :
    Except StoreError Object × Memory :=
  (.ok (m.stamp object), { m.store key object with journal := m.journal ++ [⟨verb, key⟩] })

/-- An object that carries a resource version has to carry the one of the stored object. -/
def isCurrent (object stored : Object) : Bool :=
  object.metadata.resourceVersion.isNone
    || object.metadata.resourceVersion = stored.metadata.resourceVersion

/-! ## What is stored -/

def created (m : Memory) (key : ObjectKey) (object : Object) : Object :=
  let object := if m.hasStatusSubresource key then object.withoutStatus else object
  { object with
    metadata := { object.metadata with
      uid := some (uid (m.issued + 1))
      creationTimestamp := some m.clock } }

/-- What is stored of an object that is written over another one. -/
def replaced (m : Memory) (key : ObjectKey) (object stored : Object) : Object :=
  let object := if m.hasStatusSubresource key then object.withStatusOf stored else object
  { object with
    metadata := { object.metadata with
      uid := stored.metadata.uid
      creationTimestamp := stored.metadata.creationTimestamp } }

/-- What is stored of an object that is put in place: it gets a unique identifier and a time of
creation unless it has them. -/
def inserted (m : Memory) (object : Object) : Object :=
  { object with
    metadata := { object.metadata with
      uid := object.metadata.uid.or (some (uid (m.issued + 1)))
      creationTimestamp := object.metadata.creationTimestamp.or (some m.clock) } }

/-! ## Calls -/

def get (key : ObjectKey) (m : Memory) : Except StoreError Object × Memory :=
  m.unlessObstacle .get key fun m => (m.find? key, m)

def create (object : Object) (m : Memory) : Except StoreError Object × Memory :=
  m.withKey object fun key => m.unlessObstacle .create key fun m =>
    if m.objects.contains key then (.error (.alreadyExists key), m)
    else { m with issued := m.issued + 1 }.write .create key (m.created key object)

/-- Write an object over the stored one, given as a function of the latter. -/
def overwrite (verb : Verb) (key : ObjectKey) (object : Object) (result : Object → Object)
    (m : Memory) : Except StoreError Object × Memory :=
  match m.find? key with
  | .error e => (.error e, m)
  | .ok stored =>
    if isCurrent object stored then m.write verb key (result stored)
    else (.error (.conflict key), m)

def replace (object : Object) (m : Memory) : Except StoreError Object × Memory :=
  m.withKey object fun key => m.unlessObstacle .replace key fun m =>
    m.overwrite .replace key object (m.replaced key object)

def replaceStatus (object : Object) (m : Memory) : Except StoreError Object × Memory :=
  m.withKey object fun key => m.unlessObstacle .replaceStatus key fun m =>
    if m.hasStatusSubresource key then
      m.overwrite .replaceStatus key object fun stored => stored.withStatusOf object
    else (.error (.notFound key), m)

def delete (key : ObjectKey) (m : Memory) : Except StoreError Unit × Memory :=
  m.unlessObstacle .delete key fun m =>
    match m.find? key with
    | .error e => (.error e, m)
    | .ok _ => (.ok (), { m with
        objects := m.objects.erase key
        journal := m.journal ++ [⟨.delete, key⟩] })

def isListed (type : TypeName) (ns : Option String) (key : ObjectKey) : Bool :=
  key.type = type && (ns.isNone || key.ns = ns)

def list (type : TypeName) (ns : Option String) (m : Memory) :
    Except StoreError (List Object) × Memory :=
  m.unlessObstacle .list ⟨type.apiVersion, type.kind, ns, ""⟩ fun m =>
    (.ok ((m.objects.entries.filter fun e => isListed type ns e.1).map (·.2)), m)

def answer : (c : Call) → Memory → c.Answer × Memory
  | .get key, m => m.get key
  | .create object, m => m.create object
  | .replace object, m => m.replace object
  | .replaceStatus object, m => m.replaceStatus object
  | .delete key, m => m.delete key
  | .list type ns, m => m.list type ns

/-! ## Behind the back of clients -/

/-- Put an object in place without noting a write. -/
def insert (object : Object) (m : Memory) : Except StoreError Object × Memory :=
  m.withKey object fun key =>
    let issued := if object.metadata.uid.isNone then m.issued + 1 else m.issued
    (.ok (m.stamp (m.inserted object)), { m with issued := issued }.store key (m.inserted object))

/-- Give an object a new resource version, as another client would by writing it. -/
def touch (key : ObjectKey) (m : Memory) : Except StoreError Unit × Memory :=
  match m.find? key with
  | .error e => (.error e, { m with revision := m.revision + 1 })
  | .ok stored => (.ok (), m.store key stored)

/-- Arrange an error. Of several that strike, the one arranged first counts. -/
def fail (f : Fault) (m : Memory) : Memory := { m with faults := m.faults ++ [f] }

def clearFaults (m : Memory) : Memory := { m with faults := [] }

/-- Make further calls of a verb conflicts. -/
def conflictNext (verb : Verb) (times : Nat) (m : Memory) : Memory :=
  { m with conflicts := fun v => if v = verb then m.conflicts v + times else m.conflicts v }

/-- Take the status subresource of a kind away. -/
def withoutStatus (kind : String) (m : Memory) : Memory :=
  { m with statusless := kind :: m.statusless }

def count (verb : Verb) (m : Memory) : Nat := m.journal.countP fun e => e.verb = verb

end Memory

end MeshOperator
