/-!
The order of preference among versions of a group: stable versions such as `v2` come before beta
versions such as `v1beta3`, those before alpha versions, and every other name comes last. Within
one class a higher version comes first, and other names come in ascending order.
-/

namespace MeshOperator

set_option autoImplicit false

inductive Stability where
  | other
  | alpha
  | beta
  | stable
  deriving DecidableEq, Repr

/-- What the order of preference looks at. Names that follow no scheme are kept whole. -/
structure VersionPriority where
  stability : Stability
  major : Nat
  minor : Option Nat
  name : Option String
  deriving DecidableEq, Repr

namespace VersionPriority

def number? (digits : List Char) : Option Nat :=
  if digits ≠ [] ∧ digits.all Char.isDigit then
    let n := digits.foldl (fun n c => n * 10 + (c.toNat - 48)) 0
    if n < UInt32.size then some n else none
  else none

/-- The number behind the word for a pre-release, if there is one. It may carry a plus sign. -/
def minor? : List Char → Option (Option Nat)
  | [] => some none
  | '+' :: rest => (number? rest).map some
  | rest => (number? rest).map some

/-- A version that follows the naming scheme. -/
def scheme? (name : String) : Option VersionPriority := do
  let rest ← match name.toList with
    | 'v' :: rest => some rest
    | _ => none
  let major ← number? (rest.takeWhile Char.isDigit)
  match rest.dropWhile Char.isDigit with
  | [] => some ⟨.stable, major, none, none⟩
  | 'a' :: 'l' :: 'p' :: 'h' :: 'a' :: rest =>
    (minor? rest).map fun minor => ⟨.alpha, major, minor, none⟩
  | 'b' :: 'e' :: 't' :: 'a' :: rest =>
    (minor? rest).map fun minor => ⟨.beta, major, minor, none⟩
  | _ => none

def ofName (name : String) : VersionPriority := (scheme? name).getD ⟨.other, 0, none, some name⟩

def rank : Stability → Nat
  | .other => 0
  | .alpha => 1
  | .beta => 2
  | .stable => 3

/-- Of two versions the preferred one is greater. -/
def order (a b : VersionPriority) : Ordering :=
  (compare (rank a.stability) (rank b.stability)).then
    ((compare a.major b.major).then
      ((compare a.minor b.minor).then (compare b.name a.name)))

end VersionPriority

end MeshOperator
