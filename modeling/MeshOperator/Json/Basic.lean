import MeshOperator.SortedMap

/-!
JSON values.

Whole numbers and fractional numbers are different values (`1` is not `1.0`). Members of an
object are kept in ascending order of their names; `Json.Canonical` says so at every depth, and
every value that the reader returns has the property.

* `Json.same` is equality of values: floats compare as numbers, so `0.0` and `-0.0` are the same.
* `Json.NullFree` holds of values in which no `null` occurs at any depth.
-/

namespace MeshOperator

set_option autoImplicit false

inductive Json where
  | null
  | bool (value : Bool)
  | int (value : Int)
  | float (value : Float)
  | str (value : String)
  | arr (items : List Json)
  | obj (members : List (String × Json))
  deriving Inhabited

namespace Json

abbrev Members := List (String × Json)

mutual

def same : Json → Json → Bool
  | .null, .null => true
  | .bool a, .bool b => a == b
  | .int a, .int b => a == b
  | .float a, .float b => a == b
  | .str a, .str b => a == b
  | .arr a, .arr b => sameItems a b
  | .obj a, .obj b => sameMembers a b
  | _, _ => false

def sameItems : List Json → List Json → Bool
  | [], [] => true
  | a :: as, b :: bs => same a b && sameItems as bs
  | _, _ => false

def sameMembers : Members → Members → Bool
  | [], [] => true
  | (k, a) :: as, (l, b) :: bs => k == l && same a b && sameMembers as bs
  | _, _ => false

end

instance : BEq Json := ⟨same⟩

mutual

/-- Member names ascend strictly in every object, and every float is a finite number. -/
def Canonical : Json → Prop
  | .float x => x.isFinite = true
  | .arr items => CanonicalItems items
  | .obj members => Assoc.Ascending members ∧ CanonicalMembers members
  | _ => True

def CanonicalItems : List Json → Prop
  | [] => True
  | item :: rest => Canonical item ∧ CanonicalItems rest

def CanonicalMembers : Members → Prop
  | [] => True
  | (_, value) :: rest => Canonical value ∧ CanonicalMembers rest

end

mutual

/-- No `null` occurs at any depth. -/
def NullFree : Json → Prop
  | .null => False
  | .arr items => NullFreeItems items
  | .obj members => NullFreeMembers members
  | _ => True

def NullFreeItems : List Json → Prop
  | [] => True
  | item :: rest => NullFree item ∧ NullFreeItems rest

def NullFreeMembers : Members → Prop
  | [] => True
  | (_, value) :: rest => NullFree value ∧ NullFreeMembers rest

end

def isNull : Json → Bool
  | .null => true
  | _ => false

/-- The member of an object with this name; nothing for any other value. -/
def member? (name : String) : Json → Option Json
  | .obj members => Assoc.find? name members
  | _ => none

def presentMembers (fields : List (String × Option Json)) : Members :=
  fields.filterMap fun m => m.2.map fun v => (m.1, v)

/-- An object without the members that are left out. The names are given in ascending order. -/
def present (fields : List (String × Option Json)) : Json := .obj (presentMembers fields)

def strings (items : List String) : Json := .arr (items.map .str)

def ofStringMap (m : StringMap) : Json := .obj (m.entries.map fun e => (e.1, .str e.2))

/-- An object whose members are given in any order; of two with one name the later counts. -/
def object (members : Members) : Json := .obj (Assoc.insertAll members [])

/-! ## Reading parts of a value -/

def asBool? : Json → Option Bool
  | .bool b => some b
  | _ => none

def asString? : Json → Option String
  | .str s => some s
  | _ => none

def asInt? (low high : Int) : Json → Option Int
  | .int n => if low ≤ n ∧ n ≤ high then some n else none
  | _ => none

def asInt32? (v : Json) : Option Int32 := (asInt? (-2147483648) 2147483647 v).map .ofInt

def asInt64? (v : Json) : Option Int64 :=
  (asInt? (-9223372036854775808) 9223372036854775807 v).map .ofInt

def asNat16? (v : Json) : Option Nat := (asInt? 0 65535 v).map Int.toNat

def asNat64? (v : Json) : Option Nat := (asInt? 0 18446744073709551615 v).map Int.toNat

def asList? {α : Type} (item : Json → Option α) : Json → Option (List α)
  | .arr items => items.mapM item
  | _ => none

def asStrings? : Json → Option (List String) := asList? asString?

def asStringMap? : Json → Option StringMap
  | .obj members =>
    (members.mapM fun (m : String × Json) => m.2.asString?.map fun s => (m.1, s)).map
      SortedMap.ofList
  | _ => none

/-- An absent or `null` value is nothing; any other has to be readable. -/
def optional? {α : Type} (read : Json → Option α) : Option Json → Option (Option α)
  | none => some none
  | some .null => some none
  | some v => (read v).map some

/-- An absent value is the default; any other, `null` included, has to be readable. -/
def orDefault? {α : Type} (default : α) (read : Json → Option α) : Option Json → Option α
  | none => some default
  | some v => read v

/-- A field that may be left out but not be `null`. -/
def fieldOr? {α : Type} (members : Members) (name : String) (default : α)
    (read : Json → Option α) : Option α :=
  orDefault? default read (Assoc.find? name members)

/-- A field that may be left out or `null`. -/
def optionalField? {α : Type} (members : Members) (name : String) (read : Json → Option α) :
    Option (Option α) :=
  optional? read (Assoc.find? name members)

/-- The members of an object, or the items of a list under the given names in order. -/
def asFields? (names : List String) : Json → Option Members
  | .obj members => some members
  | .arr items => if items.length ≤ names.length then some (names.zip items) else none
  | _ => none

/-- A choice among named alternatives: its name, or an object with that name over `null`. -/
def asChoice? {α : Type} (alternatives : List (String × α)) : Json → Option α
  | .str s => alternatives.lookup s
  | .obj [(name, .null)] => alternatives.lookup name
  | _ => none

end Json

end MeshOperator
