import MeshOperator.Json.Basic
import MeshOperator.Json.Decimal

/-!
Reading JSON text.

`Json.parse` accepts exactly one value with white space around it. A whole number without
fraction and exponent is an `int` if it fits into 64 bits, signed or unsigned; every other number
is a `float`, `-0` among them. Of members with one name the last counts. Values may be nested
127 deep. Every function here returns what it read together with the text behind it.
-/

namespace MeshOperator

set_option autoImplicit false

namespace Json

namespace Reader

def isBlank (c : Char) : Bool := c = ' ' || c = '\n' || c = '\t' || c = '\r'

def skipBlanks : List Char → List Char
  | c :: rest => if isBlank c then skipBlanks rest else c :: rest
  | [] => []

def hexValue? (c : Char) : Option Nat :=
  if '0' ≤ c ∧ c ≤ '9' then some (c.toNat - 48)
  else if 'a' ≤ c ∧ c ≤ 'f' then some (c.toNat - 87)
  else if 'A' ≤ c ∧ c ≤ 'F' then some (c.toNat - 55)
  else none

def unit? : List Char → Option (Nat × List Char)
  | a :: b :: c :: d :: rest => do
    let a ← hexValue? a
    let b ← hexValue? b
    let c ← hexValue? c
    let d ← hexValue? d
    some (((a * 16 + b) * 16 + c) * 16 + d, rest)
  | _ => none

/-- The character after `\u`: one unit, or a leading and a trailing surrogate. -/
def escapedUnit? (s : List Char) : Option (Char × List Char) := do
  let (high, rest) ← unit? s
  if high < 0xD800 ∨ 0xDFFF < high then some (Char.ofNat high, rest)
  else if 0xDC00 ≤ high then none
  else match rest with
    | '\\' :: 'u' :: rest => do
      let (low, rest) ← unit? rest
      if 0xDC00 ≤ low ∧ low ≤ 0xDFFF then
        some (Char.ofNat ((high - 0xD800) * 0x400 + (low - 0xDC00) + 0x10000), rest)
      else none
    | _ => none

/-- The single characters that may follow a backslash, and what they stand for. -/
def shortEscape? (c : Char) : Option Char :=
  if c = '"' then some '"'
  else if c = '\\' then some '\\'
  else if c = '/' then some '/'
  else if c = 'b' then some '\x08'
  else if c = 'f' then some '\x0c'
  else if c = 'n' then some '\n'
  else if c = 'r' then some '\r'
  else if c = 't' then some '\t'
  else none

/-- The rest of a string behind its opening quote. -/
def stringBody : Nat → List Char → Option ((List Char) × List Char)
  | 0, _ => none
  | fuel + 1, s =>
    match s with
    | [] => none
    | '"' :: rest => some ([], rest)
    | '\\' :: 'u' :: rest => do
      let (c, rest) ← escapedUnit? rest
      let (cs, rest) ← stringBody fuel rest
      some (c :: cs, rest)
    | '\\' :: e :: rest => do
      let c ← shortEscape? e
      let (cs, rest) ← stringBody fuel rest
      some (c :: cs, rest)
    | c :: rest =>
      if c = '\\' ∨ c.toNat < 32 then none
      else do
        let (cs, rest) ← stringBody fuel rest
        some (c :: cs, rest)

def string? (s : List Char) : Option (String × List Char) :=
  match s with
  | '"' :: rest => (stringBody (rest.length + 1) rest).map fun r => (String.ofList r.1, r.2)
  | _ => none

def isDigit (c : Char) : Bool := '0' ≤ c && c ≤ '9'

def digits (s : List Char) : List Char × List Char := (s.takeWhile isDigit, s.dropWhile isDigit)

def digitsValue (ds : List Char) : Nat := ds.foldl (fun n c => n * 10 + (c.toNat - 48)) 0

/-- A point and at least one digit, if there is a point. -/
def fraction? : List Char → Option ((List Char) × List Char)
  | '.' :: rest =>
    match digits rest with
    | ([], _) => none
    | (ds, rest) => some (ds, rest)
  | s => some ([], s)

def exponent? : List Char → Option ((Option Int) × List Char)
  | c :: rest =>
    if c = 'e' ∨ c = 'E' then
      let (negative, rest) := match rest with
        | '-' :: rest => (true, rest)
        | '+' :: rest => (false, rest)
        | _ => (false, rest)
      match digits rest with
      | ([], _) => none
      | (ds, rest) =>
        let n : Int := digitsValue ds
        some (some (if negative then -n else n), rest)
    else some (none, c :: rest)
  | [] => some (none, [])

/-- A whole number that fits into 64 bits is an `int`; `-0` and larger ones are floats. -/
def wholeNumber? (negative : Bool) (ds : List Char) : Option Json :=
  let n := digitsValue ds
  if ¬negative ∧ n < UInt64.size then some (.int n)
  else if negative ∧ 0 < n ∧ n ≤ Nat.pow 2 63 then some (.int (-(n : Int)))
  else (Decimal.Literal.toFloat? ⟨negative, ds, [], 0⟩).map .float

def number? (s : List Char) : Option (Json × List Char) := do
  let (negative, s) := match s with
    | '-' :: rest => (true, rest)
    | _ => (false, s)
  let (whole, rest) := digits s
  if whole = [] ∨ (whole.head? = some '0' ∧ whole ≠ ['0']) then none
  else do
    let (fraction, rest) ← fraction? rest
    let (exponent, rest) ← exponent? rest
    if fraction = [] ∧ exponent = none then
      (wholeNumber? negative whole).map fun v => (v, rest)
    else
      let literal : Decimal.Literal := ⟨negative, whole, fraction, exponent.getD 0⟩
      literal.toFloat?.map fun x => (.float x, rest)

mutual

/-- One value; blanks before it are skipped. `depth` bounds the nesting still allowed. -/
def value : Nat → Nat → List Char → Option (Json × List Char)
  | 0, _, _ => none
  | fuel + 1, depth, s =>
    match skipBlanks s with
    | 'n' :: 'u' :: 'l' :: 'l' :: rest => some (.null, rest)
    | 't' :: 'r' :: 'u' :: 'e' :: rest => some (.bool true, rest)
    | 'f' :: 'a' :: 'l' :: 's' :: 'e' :: rest => some (.bool false, rest)
    | '"' :: rest => (string? ('"' :: rest)).map fun r => (.str r.1, r.2)
    | '[' :: rest =>
      match depth with
      | 0 => none
      | depth + 1 =>
        match skipBlanks rest with
        | ']' :: rest => some (.arr [], rest)
        | rest => (items fuel depth rest).map fun r => (.arr r.1, r.2)
    | '\x7b' :: rest =>
      match depth with
      | 0 => none
      | depth + 1 =>
        match skipBlanks rest with
        | '\x7d' :: rest => some (.obj [], rest)
        | rest => (members fuel depth rest).map fun r => (object r.1, r.2)
    | s => number? s

/-- At least one item, then the end of the list. -/
def items : Nat → Nat → List Char → Option ((List Json) × List Char)
  | 0, _, _ => none
  | fuel + 1, depth, s => do
    let (v, rest) ← value fuel depth s
    match skipBlanks rest with
    | ',' :: rest =>
      let (vs, rest) ← items fuel depth rest
      some (v :: vs, rest)
    | ']' :: rest => some ([v], rest)
    | _ => none

/-- At least one member, then the end of the object. -/
def members : Nat → Nat → List Char → Option (Members × List Char)
  | 0, _, _ => none
  | fuel + 1, depth, s => do
    let (name, rest) ← string? (skipBlanks s)
    match skipBlanks rest with
    | ':' :: rest =>
      let (v, rest) ← value fuel depth rest
      match skipBlanks rest with
      | ',' :: rest =>
        let (ms, rest) ← members fuel depth rest
        some ((name, v) :: ms, rest)
      | '\x7d' :: rest => some ([(name, v)], rest)
      | _ => none
    | _ => none

end

def depthLimit : Nat := 127

end Reader

def parseChars (s : List Char) : Option Json := do
  let (v, rest) ← Reader.value (2 * s.length + 2) Reader.depthLimit s
  if Reader.skipBlanks rest = [] then some v else none

def parse (s : String) : Option Json := parseChars s.toList

end Json

end MeshOperator
