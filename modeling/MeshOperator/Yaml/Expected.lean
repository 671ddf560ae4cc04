import MeshOperator.Yaml.Basic

/-!
Values of YAML nodes, guided by what is expected.

What is expected of a node decides what its scalars mean: where text is expected `2.8` is the text
`2.8`, and where a whole number is expected it is an error. Where nothing is written, a list or an
object is empty.
-/

namespace MeshOperator

set_option autoImplicit false

namespace Yaml

inductive Expected where
  | text
  | flag
  | whole
  | any
  | list (item : Expected)
  /-- Arbitrary names; of two entries with one name the later counts. -/
  | dict (value : Expected)
  /-- The given names, others are passed over. If `once` says so, no name may come twice. -/
  | object (once : Bool) (fields : List (String × Expected))
  /-- The value may be missing or be called null. -/
  | optional (value : Expected)
  deriving Inhabited

/-- A scalar where a scalar is expected. -/
def scalarValue? (plain : Bool) (text : String) : Expected → Option Json
  | .text => some (.str text)
  | .flag => if plain then (flag? text).map .bool else none
  | .whole => if plain then (whole? text).map .int else none
  | .any => if plain then plainValue? text else some (.str text)
  | .list _ => if plain ∧ text = "" then some (.arr []) else none
  | .dict _ => if plain ∧ text = "" then some (.obj []) else none
  | .object _ _ => if plain ∧ text = "" then some (.obj []) else none
  | .optional value =>
    if plain ∧ isNullText text then some .null else scalarValue? plain text value

def Expected.present : Expected → Expected
  | .optional value => value.present
  | e => e

/-- What is expected of the value of an entry; nothing if the entry is passed over. -/
def Expected.ofEntry (name : String) : Expected → Option Expected
  | .dict value => some value
  | .object _ fields => fields.lookup name
  | _ => none

/-- May these entries stand together? -/
def Expected.admits (names : List String) : Expected → Bool
  | .object true fields => (names.filter fun n => (fields.lookup n).isSome).Nodup
  | _ => true

mutual

def value? (expected : Expected) : Yaml → Option Json
  | .scalar plain text => scalarValue? plain text expected
  | .sequence items =>
    match expected.present with
    | .list item => (itemValues? item items).map .arr
    | .any => (itemValues? .any items).map .arr
    | _ => none
  | .mapping entries =>
    match expected.present with
    | .dict value => (entryValues? (.dict value) entries).map .object
    | .any => (entryValues? (.dict .any) entries).map .object
    | .object once fields => do
      let names ← entries.mapM fun (e : Yaml × Yaml) => name? e.1
      if (Expected.object once fields).admits names then
        (entryValues? (.object once fields) entries).map .object
      else none
    | _ => none

def itemValues? (item : Expected) : List Yaml → Option (List Json)
  | [] => some []
  | node :: rest => do
    let v ← value? item node
    let vs ← itemValues? item rest
    some (v :: vs)

def entryValues? (expected : Expected) : List (Yaml × Yaml) → Option Json.Members
  | [] => some []
  | (key, node) :: rest => do
    let name ← name? key
    let vs ← entryValues? expected rest
    match expected.ofEntry name with
    | none => some vs
    | some e =>
      let v ← value? e node
      some ((name, v) :: vs)

end

end Yaml

end MeshOperator
