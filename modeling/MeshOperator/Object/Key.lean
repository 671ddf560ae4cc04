import MeshOperator.SortedMap

/-!
Object keys: the type of an object, its namespace and its name.

Keys are ordered by API version, kind, namespace and name, a key without namespace before those
with one. A store keeps its objects in this order.
-/

namespace MeshOperator

set_option autoImplicit false

structure TypeName where
  apiVersion : String
  kind : String
  deriving DecidableEq, Repr, Inhabited

namespace TypeName

/-- Split an API version at its first slash into group and version. The core group has no name and
no slash. -/
def splitVersion (s : List Char) : List Char × List Char :=
  match s.span (· ≠ '/') with
  | (version, []) => ([], version)
  | (group, _ :: version) => (group, version)

def group (t : TypeName) : String := String.ofList (splitVersion t.apiVersion.toList).1

def version (t : TypeName) : String := String.ofList (splitVersion t.apiVersion.toList).2

end TypeName

structure ObjectKey where
  apiVersion : String
  kind : String
  ns : Option String
  name : String
  deriving DecidableEq, Repr, Inhabited

namespace ObjectKey

def type (k : ObjectKey) : TypeName := ⟨k.apiVersion, k.kind⟩

/-- Kind, namespace if any, and name: how messages name an object. -/
def display (k : ObjectKey) : String :=
  match k.ns with
  | some ns => k.kind ++ " " ++ ns ++ "/" ++ k.name
  | none => k.kind ++ " " ++ k.name

/-! ## Order -/

instance : Ord ObjectKey where
  compare := compareLex (compareOn apiVersion) (compareLex (compareOn kind)
    (compareLex (compareOn ns) (compareOn name)))

instance : Std.TransOrd ObjectKey :=
  inferInstanceAs (Std.TransCmp (compareLex (compareOn apiVersion) (compareLex (compareOn kind)
    (compareLex (compareOn ns) (compareOn name)))))

instance : Std.LawfulEqOrd ObjectKey where
  compare_self {a} := Std.ReflCmp.compare_self
  eq_of_compare {a b} h := by
    have h : (compareLex (compareOn apiVersion) (compareLex (compareOn kind)
      (compareLex (compareOn ns) (compareOn name)))) a b = .eq := h
    simp only [compareLex, compareOn, Ordering.then_eq_eq, Std.compare_eq_iff_eq] at h
    obtain ⟨h1, h2, h3, h4⟩ := h
    cases a
    cases b
    simp_all

def sort (keys : List ObjectKey) : List ObjectKey :=
  keys.mergeSort fun a b => compare a b != .gt

end ObjectKey

end MeshOperator
