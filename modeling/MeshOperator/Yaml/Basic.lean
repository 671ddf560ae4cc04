import MeshOperator.Json.Basic
import MeshOperator.Json.Decimal

/-!
YAML documents as trees, and the meaning of plain scalars.

A scalar is plain or quoted. What a plain scalar means is decided where its value is needed: `12`
is a text where a text is expected and a number where a number is. `Yaml.toJson?` takes every plain
scalar for what it looks like.
-/

namespace MeshOperator

set_option autoImplicit false

inductive Yaml where
  | scalar (plain : Bool) (text : String)
  | sequence (items : List Yaml)
  | mapping (entries : List (Yaml × Yaml))
  deriving Inhabited

namespace Yaml

/-- What stands where nothing is written. -/
def nothing : Yaml := .scalar true ""

/-! ## Plain scalars -/

def isNullText (s : String) : Bool := s ∈ ["", "~", "null", "Null", "NULL"]

def flag? (s : String) : Option Bool :=
  if s ∈ ["true", "True", "TRUE"] then some true
  else if s ∈ ["false", "False", "FALSE"] then some false
  else none

def digit? (base : Nat) (c : Char) : Option Nat :=
  let n := c.toNat
  let value :=
    if '0' ≤ c ∧ c ≤ '9' then n - 48
    else if 'a' ≤ c ∧ c ≤ 'z' then n - 87
    else if 'A' ≤ c ∧ c ≤ 'Z' then n - 55
    else base
  if value < base then some value else none

/-- At least one digit, and nothing else. -/
def natural? (base : Nat) (s : List Char) : Option Nat :=
  if s.isEmpty then none
  else (s.mapM (digit? base)).map fun ds => ds.foldl (fun n d => n * base + d) 0

/-- Digits behind a superfluous zero are no number. -/
def decimal? (s : List Char) : Option Nat :=
  if s.length > 1 ∧ s.head? = some '0' then none else natural? 10 s

/-- A number without sign in base ten, or in the base that its start tells. -/
def magnitude? : List Char → Option Nat
  | '0' :: 'x' :: rest => natural? 16 rest
  | '0' :: 'o' :: rest => natural? 8 rest
  | '0' :: 'b' :: rest => natural? 2 rest
  | s => decimal? s

def whole? (s : String) : Option Int :=
  match s.toList with
  | '+' :: rest => (magnitude? rest).map fun n => (n : Int)
  | '-' :: rest => (magnitude? rest).map fun n => -(n : Int)
  | rest => (magnitude? rest).map fun n => (n : Int)

def isDigit (c : Char) : Bool := '0' ≤ c && c ≤ '9'

/-- The exponent of a fractional number, if the rest is one. -/
def exponent? : List Char → Option Int
  | [] => some 0
  | c :: rest =>
    if c = 'e' ∨ c = 'E' then
      match rest with
      | '-' :: ds => (natural? 10 ds).map fun n => -(n : Int)
      | '+' :: ds => (natural? 10 ds).map fun n => (n : Int)
      | ds => (natural? 10 ds).map fun n => (n : Int)
    else none

/-- A number with fraction or exponent, or one too large for a whole number. -/
def fractional? (s : String) : Option Float :=
  let (negative, rest) := match s.toList with
    | '-' :: rest => (true, rest)
    | '+' :: rest => (false, rest)
    | rest => (false, rest)
  let whole := rest.takeWhile isDigit
  let (fraction, rest) := match rest.dropWhile isDigit with
    | '.' :: rest => (rest.takeWhile isDigit, rest.dropWhile isDigit)
    | rest => ([], rest)
  if whole.isEmpty ∧ fraction.isEmpty then none
  else if rest.isEmpty ∧ fraction.isEmpty ∧ whole.length > 1 ∧ whole.head? = some '0' then none
  else match exponent? rest with
    | none => none
    | some e => Decimal.Literal.toFloat? ⟨negative, whole, fraction, e⟩

/-- Names of values that are no numbers. -/
def isInfiniteText (s : String) : Bool :=
  s ∈ [".inf", ".Inf", ".INF", "+.inf", "+.Inf", "+.INF", "-.inf", "-.Inf", "-.INF", ".nan", ".NaN",
    ".NAN"]

/-- The value of a plain scalar that stands for itself. Whole numbers have to fit into 64 bits,
signed or unsigned. -/
def plainValue? (s : String) : Option Json :=
  if isNullText s then some .null
  else if isInfiniteText s then none
  else match flag? s with
    | some b => some (.bool b)
    | none =>
      match whole? s with
      | some n =>
        if -9223372036854775808 ≤ n ∧ n ≤ 18446744073709551615 then some (.int n) else none
      | none =>
        match fractional? s with
        | some x => some (.float x)
        | none => some (.str s)

/-! ## Values -/

def name? : Yaml → Option String
  | .scalar _ text => some text
  | _ => none

mutual

/-- The value of a tree in which every scalar stands for itself. -/
def toJson? : Yaml → Option Json
  | .scalar true text => plainValue? text
  | .scalar false text => some (.str text)
  | .sequence items => (itemsToJson? items).map .arr
  | .mapping entries => (entriesToJson? entries).map .object

def itemsToJson? : List Yaml → Option (List Json)
  | [] => some []
  | item :: rest => do
    let v ← toJson? item
    let vs ← itemsToJson? rest
    some (v :: vs)

def entriesToJson? : List (Yaml × Yaml) → Option Json.Members
  | [] => some []
  | (key, value) :: rest => do
    let name ← name? key
    let v ← toJson? value
    let vs ← entriesToJson? rest
    some ((name, v) :: vs)

end

end Yaml

end MeshOperator
