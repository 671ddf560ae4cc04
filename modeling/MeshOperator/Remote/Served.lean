import MeshOperator.Json.Basic
import MeshOperator.Object.Metadata

/-!
What a server says about the kinds that it serves.

Groups have versions, and each version of a group has a list of resources. Members of the wrong
type make a document unreadable, also those that are not needed; a member that is absent or
`null` counts as empty. A document that names its own type has to name the right one.
-/

namespace MeshOperator

set_option autoImplicit false

/-! ## Reading -/

namespace Served

/-- The type that a document gives itself, if it gives one. -/
def isOfType (kind : String) (members : Json.Members) : Bool :=
  let agrees := fun (name expected : String) =>
    match Assoc.find? name members with
    | none => true
    | some v => v == .str expected
  agrees "apiVersion" "v1" && agrees "kind" kind

def document? (kind : String) : Json → Option Json.Members
  | .obj members => if isOfType kind members then some members else none
  | _ => none

/-- A list; absent and `null` are the empty list. -/
def listField? {α : Type} (members : Json.Members) (name : String) (item : Json → Option α) :
    Option (List α) :=
  (Json.optionalField? members name (Json.asList? item)).map fun items => items.getD []

/-- A flag; absent and `null` are off. -/
def flagField? (members : Json.Members) (name : String) : Option Bool :=
  (Json.optionalField? members name Json.asBool?).map fun flag => flag.getD false

/-- The addresses under which clients of a network reach the server. -/
def address? : Json → Option (String × String)
  | .obj members => do
    let clients ← Json.textField? members "clientCIDR"
    let server ← Json.textField? members "serverAddress"
    some (clients, server)
  | _ => none

end Served

/-! ## Groups -/

structure ServedVersion where
  /-- The API version that objects carry. -/
  apiVersion : String
  version : String
  deriving DecidableEq, Repr

def ServedVersion.ofJson? : Json → Option ServedVersion
  | .obj members => do
    let apiVersion ← Json.textField? members "groupVersion"
    let version ← Json.textField? members "version"
    some ⟨apiVersion, version⟩
  | _ => none

structure ServedGroup where
  name : String
  preferred : Option ServedVersion
  versions : List ServedVersion
  deriving DecidableEq, Repr

def ServedGroup.ofJson? (v : Json) : Option ServedGroup := do
  let members ← Served.document? "APIGroup" v
  let name ← Json.textField? members "name"
  let preferred ← Json.optionalField? members "preferredVersion" ServedVersion.ofJson?
  let _ ← Served.listField? members "serverAddressByClientCIDRs" Served.address?
  let versions ← Served.listField? members "versions" ServedVersion.ofJson?
  some ⟨name, preferred, versions⟩

namespace Served

/-- All groups but the core group. -/
def groups? (v : Json) : Option (List ServedGroup) := do
  let members ← document? "APIGroupList" v
  listField? members "groups" ServedGroup.ofJson?

def coreVersions? (v : Json) : Option (List String) := do
  let members ← document? "APIVersions" v
  let _ ← listField? members "serverAddressByClientCIDRs" address?
  listField? members "versions" Json.asString?

end Served

/-! ## Resources -/

structure ServedResource where
  /-- Group and version, where they differ from those of the list. -/
  group : Option String
  version : Option String
  kind : String
  name : String
  namespaced : Bool
  deriving DecidableEq, Repr

def ServedResource.ofJson? : Json → Option ServedResource
  | .obj members => do
    let _ ← Json.optionalField? members "categories" Json.asStrings?
    let group ← Json.optionalField? members "group" Json.asString?
    let kind ← Json.textField? members "kind"
    let name ← Json.textField? members "name"
    let namespaced ← Served.flagField? members "namespaced"
    let _ ← Json.optionalField? members "shortNames" Json.asStrings?
    let _ ← Json.textField? members "singularName"
    let _ ← Json.optionalField? members "storageVersionHash" Json.asString?
    let _ ← Served.listField? members "verbs" Json.asString?
    let version ← Json.optionalField? members "version" Json.asString?
    some ⟨group, version, kind, name, namespaced⟩
  | _ => none

structure ServedResources where
  apiVersion : String
  resources : List ServedResource
  deriving DecidableEq, Repr

def ServedResources.ofJson? (v : Json) : Option ServedResources := do
  let members ← Served.document? "APIResourceList" v
  let apiVersion ← Json.textField? members "groupVersion"
  let resources ← Served.listField? members "resources" ServedResource.ofJson?
  some ⟨apiVersion, resources⟩

end MeshOperator
