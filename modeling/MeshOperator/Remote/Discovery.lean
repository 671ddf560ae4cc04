import MeshOperator.Remote.Collection
import MeshOperator.Remote.Request
import MeshOperator.Remote.Served
import MeshOperator.Remote.VersionPriority
import MeshOperator.Store.Error

/-!
Discovery: finding out where a server keeps the objects of a kind.

Discovery asks for the list of groups, for the resources of each version of each group, and then
the same for the core group. Of each group only one version counts: the preferred one, which for
the core group is `v1`, or else the one that comes first in the order of versions. Parts of
resources, which have a slash in their name, do not count.

One request that fails makes the whole discovery fail, and so does a group without versions.
-/

namespace MeshOperator

set_option autoImplicit false

structure Offer where
  group : String
  version : String
  kind : String
  collection : Collection
  deriving DecidableEq, Repr

def Offer.isOf (type : TypeName) (o : Offer) : Bool :=
  o.group = type.group && o.version = type.version && o.kind = type.kind

namespace ServedResources

def type (l : ServedResources) : TypeName := ⟨l.apiVersion, ""⟩

/-- The API version in paths, which has no slash in front. -/
def pathVersion (l : ServedResources) : String :=
  if l.type.group = "" then l.type.version else l.apiVersion

/-- Of two resources with one name, the first decides about namespaces. -/
def isNamespaced (l : ServedResources) (name : String) : Bool :=
  match l.resources.find? fun r => r.name = name with
  | some r => r.namespaced
  | none => false

def offer (l : ServedResources) (r : ServedResource) : Offer :=
  let group := r.group.getD l.type.group
  ⟨group, r.version.getD l.type.version, r.kind,
    ⟨group, l.pathVersion, r.name, l.isNamespaced r.name⟩⟩

def offers (l : ServedResources) : List Offer :=
  (l.resources.filter fun r => '/' ∉ r.name.toList).map l.offer

end ServedResources

/-- The versions of a group with what they offer. -/
structure OfferedGroup where
  preferred : Option String
  versions : List (String × List Offer)

namespace OfferedGroup

def ranked (g : OfferedGroup) : List (String × List Offer) :=
  g.versions.mergeSort fun a b =>
    VersionPriority.order (.ofName b.1) (.ofName a.1) != .gt

def counting (g : OfferedGroup) : Option String :=
  g.preferred.or (g.ranked.head?.map (·.1))

def offers (g : OfferedGroup) : List Offer :=
  match g.ranked.find? fun v => some v.1 = g.counting with
  | some v => v.2
  | none => []

end OfferedGroup

namespace Discovery

abbrev Search (α : Type) := ExceptT RequestFailure Exchange α

def get {α : Type} (target : String) (read : Json → Option α) : Search α :=
  ExceptT.mk (Exchange.fetch .get target none read)

/-- A group without versions cannot be explored. -/
def needVersions {α : Type} : List α → Search (List α)
  | [] => throw .failed
  | versions => pure versions

def exploreVersion (root : String) (v : ServedVersion) : Search (String × List Offer) := do
  let resources ← get (root ++ v.apiVersion) ServedResources.ofJson?
  return (v.version, resources.offers)

def exploreGroup (g : ServedGroup) : Search (String × OfferedGroup) := do
  let versions ← (← needVersions g.versions).mapM (exploreVersion "/apis/")
  return (g.name, ⟨g.preferred.map (·.version), versions⟩)

def exploreCore : Search (String × OfferedGroup) := do
  let names ← needVersions (← get "/api" Served.coreVersions?)
  let versions ← names.mapM fun (v : String) => exploreVersion "/api/" ⟨v, v⟩
  return ("", ⟨some "v1", versions⟩)

/-- All groups by name. Of two with one name the later counts. -/
def explore : Search (SortedMap String OfferedGroup) := do
  let groups ← (← get "/apis" Served.groups?).mapM exploreGroup
  let core ← exploreCore
  return .ofList (groups ++ [core])

def find? (type : TypeName) (groups : SortedMap String OfferedGroup) : Option Collection :=
  ((groups.values.flatMap (·.offers)).find? (Offer.isOf type)).map (·.collection)

def locate (type : TypeName) : Exchange (Except StoreError Collection) := do
  match ← (explore.run : Exchange (Except RequestFailure (SortedMap String OfferedGroup))) with
  | .error _ => return .error (.client [])
  | .ok groups =>
    match find? type groups with
    | some collection => return .ok collection
    | none => return .error (.unknownKind type)

end Discovery

end MeshOperator
