import MeshOperator.Object.Kind

/-!
Collections: where a server keeps the objects of a kind.
-/

namespace MeshOperator

set_option autoImplicit false

structure Collection where
  group : String
  apiVersion : String
  plural : String
  namespaced : Bool
  deriving DecidableEq, Repr

namespace Collection

def ofKind (k : Kind) : Collection := ⟨k.type.group, k.type.apiVersion, k.plural, k.namespaced⟩

/-- The core group has a root of its own. -/
def root (c : Collection) : String := if c.group = "" then "/api/" else "/apis/"

/-- The part of a path that names the namespace. Only namespaced collections have one. -/
def place (c : Collection) (ns : Option String) : String :=
  if c.namespaced then
    match ns with
    | some ns => "namespaces/" ++ ns ++ "/"
    | none => ""
  else ""

def path (c : Collection) (ns : Option String) : String :=
  c.root ++ c.apiVersion ++ "/" ++ c.place ns ++ c.plural

def objectPath (c : Collection) (key : ObjectKey) : String := c.path key.ns ++ "/" ++ key.name

end Collection

end MeshOperator
