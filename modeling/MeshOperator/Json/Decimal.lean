/-!
Decimal text of finite floats.

* `Decimal.Digits` is a positive decimal number `d · 10^e`, and `shortest` finds the one with the
  fewest digits that is rounded to a given float, the nearest one where there are several.
* `Decimal.write` lays such a number out: positional with a fractional part up to sixteen places,
  otherwise with an exponent.
* `Decimal.Literal` is a number as it is written, and `Literal.toFloat?` its float. The digits up
  to the first that does not fit into 64 bits are the significand; the significand is then
  multiplied or divided by one power of ten. A literal beyond the largest float has no value.
-/

namespace MeshOperator

set_option autoImplicit false

namespace Decimal

/-! ## Shortest digits -/

/-- The number `value · 10^exponent`. -/
structure Digits where
  value : Nat
  exponent : Int
  deriving DecidableEq, Repr

/-- A finite positive float as `mantissa · 2^exponent`. -/
def binaryParts (x : Float) : Nat × Int :=
  let bits := x.toBits.toNat
  let fraction : Nat := bits % Nat.pow 2 52
  let biased : Nat := bits / Nat.pow 2 52 % Nat.pow 2 11
  if biased = 0 then (fraction, -1074) else (fraction + Nat.pow 2 52, (biased : Int) - 1075)

/-- `m · 2^q / 10^e` as a fraction of naturals. -/
def scaled (m : Nat) (q e : Int) : Nat × Nat :=
  (m * Nat.pow 2 q.toNat * Nat.pow 10 (-e).toNat, Nat.pow 2 (-q).toNat * Nat.pow 10 e.toNat)

/-- The number of decimal digits of the whole part of `n / d`. -/
def wholeDigits (n d : Nat) : Nat := if n < d then 0 else (Nat.toDigits 10 (n / d)).length

/-- The least `e` with `m · 2^q < 10^e`, searched upwards from below. -/
def magnitude (m : Nat) (q : Int) : Int :=
  let start : Int := -326
  let (n, d) := scaled m q start
  start + wholeDigits n d

/-- One grid: the multiples of `10^e`. Of the two neighbours of the float `m · 2^q` that are
rounded to it, the nearer; on a tie the even one. -/
def onGrid? (m : Nat) (q e : Int) : Option Nat :=
  let (n, d) := scaled (4 * m) q e
  let unit := (scaled 1 q e).1
  let below := if m = Nat.pow 2 52 ∧ -1074 < q then unit else 2 * unit
  let low := n - below
  let high := n + 2 * unit
  let accepts (c : Nat) : Bool :=
    let c4 := 4 * c * d
    0 < c && if m % 2 = 0 then low ≤ c4 && c4 ≤ high else low < c4 && c4 < high
  let down := n / (4 * d)
  let up := down + 1
  match accepts down, accepts up with
  | true, true =>
    let toDown := n - 4 * down * d
    let toUp := 4 * up * d - n
    if toDown < toUp then some down
    else if toUp < toDown then some up
    else if down % 2 = 0 then some down else some up
  | true, false => some down
  | false, true => some up
  | false, false => none

def trim (value : Nat) (exponent : Int) : Nat → Digits
  | 0 => ⟨value, exponent⟩
  | fuel + 1 =>
    if value ≠ 0 ∧ value % 10 = 0 then trim (value / 10) (exponent + 1) fuel
    else ⟨value, exponent⟩

/-- The fewest digits that are rounded to the positive float `x`. -/
def shortest (x : Float) : Digits :=
  let (m, q) := binaryParts x
  let top := magnitude m q
  let grids := (List.range 17).map fun i => top - (i + 1 : Nat)
  match grids.findSome? fun e => (onGrid? m q e).map fun c => (c, e) with
  | some (c, e) => trim c e 17
  | none => ⟨m, 0⟩

/-! ## Layout -/

/-- Positional up to sixteen places before the point and down to five zeros after it, always with
a fractional part; otherwise one digit, the fraction if there is one, and an exponent. -/
def write (d : Digits) : List Char :=
  let digits := Nat.toDigits 10 d.value
  let length := digits.length
  let point : Int := length + d.exponent
  if 0 ≤ d.exponent ∧ point ≤ 16 then
    digits ++ List.replicate d.exponent.toNat '0' ++ ['.', '0']
  else if 0 < point ∧ point ≤ 16 then
    digits.take point.toNat ++ '.' :: digits.drop point.toNat
  else if -5 < point ∧ point ≤ 0 then
    '0' :: '.' :: List.replicate (-point).toNat '0' ++ digits
  else
    let exponent := (toString (point - 1)).toList
    match digits with
    | [] => []
    | [digit] => digit :: 'e' :: exponent
    | digit :: rest => digit :: '.' :: rest ++ 'e' :: exponent

def ofFloat (x : Float) : List Char :=
  let negative := x.toBits.toNat / Nat.pow 2 63 = 1
  let size := if x == 0.0 then ['0', '.', '0'] else write (shortest x)
  if negative then '-' :: size else size

/-! ## Literals -/

/-- The digits of a number as written, before and after the point, and its exponent. -/
structure Literal where
  negative : Bool
  whole : List Char
  fraction : List Char
  exponent : Int

/-- Take in digits as long as the significand fits into 64 bits, and count them. -/
def absorb : Nat → List Char → Nat × Nat
  | significand, [] => (significand, 0)
  | significand, c :: rest =>
    let next := significand * 10 + (c.toNat - 48)
    if next < UInt64.size then
      let (s, n) := absorb next rest
      (s, n + 1)
    else (significand, 0)

/-- Divide by `10^n`, in steps of at most `10^308`. -/
def divide (x : Float) (n : Nat) : Float :=
  if n ≤ 308 then x / Float.ofScientific 1 false n
  else if x == 0.0 then x
  else divide (x / Float.ofScientific 1 false 308) (n - 308)
  termination_by n

/-- `significand · 10^exponent`, unless it is beyond the largest float. -/
def scale? (significand : Nat) (exponent : Int) : Option Float :=
  let x := Float.ofNat significand
  if exponent < 0 then some (divide x (-exponent).toNat)
  else if exponent ≤ 308 then
    let y := x * Float.ofScientific 1 false exponent.toNat
    if y.isInf then none else some y
  else if significand = 0 then some x
  else none

def Literal.toFloat? (l : Literal) : Option Float :=
  let (s, taken) := absorb 0 l.whole
  let skipped := l.whole.length - taken
  let (s, kept) := absorb s l.fraction
  (scale? s (l.exponent + skipped - kept)).map fun x => if l.negative then -x else x

end Decimal

end MeshOperator
