import MeshOperator.Text.Words

/-!
Points in time, to the second, in UTC.

A timestamp is written `YYYY-MM-DDTHH:MM:SSZ`; a year outside 0 to 9999 is written with a sign.
`Timestamp.parse?` reads that and looser forms of it: numbers with fewer digits, white space between
the parts, a fraction of a second, which is dropped, and an offset from UTC. The calendar has a
first and a last year.
-/

namespace MeshOperator

set_option autoImplicit false

namespace Calendar

def firstYear : Int := -262143

def lastYear : Int := 262142

def isLeap (year : Int) : Bool := year % 4 = 0 && (year % 100 ≠ 0 || year % 400 = 0)

def monthLength (year : Int) : Nat → Nat
  | 2 => if isLeap year then 29 else 28
  | 4 | 6 | 9 | 11 => 30
  | _ => 31

theorem monthLength_bounds (year : Int) (month : Nat) :
    28 ≤ monthLength year month ∧ monthLength year month ≤ 31 := by
  unfold monthLength
  split
  · split <;> omega
  all_goals omega

end Calendar

open Calendar in
structure Date where
  year : Int
  month : Nat
  day : Nat
  month_bounds : (firstYear ≤ year ∧ year ≤ lastYear) ∧ 1 ≤ month ∧ month ≤ 12
  day_bounds : 1 ≤ day ∧ day ≤ monthLength year month
  deriving DecidableEq

namespace Date

open Calendar

def firstDay (year : Int) (month : Nat)
    (h : (firstYear ≤ year ∧ year ≤ lastYear) ∧ 1 ≤ month ∧ month ≤ 12) : Date where
  year := year
  month := month
  day := 1
  month_bounds := h
  day_bounds := ⟨Nat.le_refl 1, by have := (monthLength_bounds year month).1; omega⟩

def lastDay (year : Int) (month : Nat)
    (h : (firstYear ≤ year ∧ year ≤ lastYear) ∧ 1 ≤ month ∧ month ≤ 12) : Date where
  year := year
  month := month
  day := monthLength year month
  month_bounds := h
  day_bounds := ⟨by have := (monthLength_bounds year month).1; omega, Nat.le_refl _⟩

/-- The next day, except after the last one. -/
def next? (d : Date) : Option Date :=
  if h : d.day < monthLength d.year d.month then
    some { d with day := d.day + 1, day_bounds := ⟨Nat.le_add_left 1 d.day, h⟩ }
  else if h : d.month < 12 then
    some (firstDay d.year (d.month + 1) ⟨d.month_bounds.1, Nat.le_add_left 1 d.month, h⟩)
  else if h : d.year < lastYear then
    some (firstDay (d.year + 1) 1 ⟨by have := d.month_bounds.1; omega, by decide⟩)
  else none

/-- The day before, except before the first one. -/
def previous? (d : Date) : Option Date :=
  if h : 1 < d.day then
    some { d with
      day := d.day - 1
      day_bounds := ⟨Nat.le_sub_one_of_lt h, Nat.le_trans (Nat.sub_le _ _) d.day_bounds.2⟩ }
  else if h : 1 < d.month then
    some (lastDay d.year (d.month - 1) ⟨d.month_bounds.1, Nat.le_sub_one_of_lt h,
      Nat.le_trans (Nat.sub_le _ _) d.month_bounds.2.2⟩)
  else if h : firstYear < d.year then
    some (lastDay (d.year - 1) 12 ⟨by have := d.month_bounds.1; omega, by decide⟩)
  else none

end Date

/-- The sixtieth second is a leap second. -/
structure Timestamp where
  date : Date
  hour : Nat
  minute : Nat
  second : Nat
  clock_bounds : hour ≤ 23 ∧ minute ≤ 59 ∧ second ≤ 60
  deriving DecidableEq

namespace Timestamp

def epoch : Timestamp := ⟨.firstDay 1970 1 (by decide), 0, 0, 0, by decide⟩

open Calendar in
/-- The point in time that these numbers stand for, if they stand for one. -/
def ofNumbers? (year : Int) (month day hour minute second : Nat) : Option Timestamp :=
  if hm : (firstYear ≤ year ∧ year ≤ lastYear) ∧ 1 ≤ month ∧ month ≤ 12 then
    if hd : 1 ≤ day ∧ day ≤ monthLength year month then
      if hc : hour ≤ 23 ∧ minute ≤ 59 ∧ second ≤ 60 then
        some ⟨⟨year, month, day, hm, hd⟩, hour, minute, second, hc⟩
      else none
    else none
  else none

/-- The same second of another minute, counted from the start of a day. -/
def atMinute (t : Timestamp) (date : Date) (minute : Nat) : Timestamp where
  date := date
  hour := minute / 60 % 24
  minute := minute % 60
  second := t.second
  clock_bounds := by have := t.clock_bounds; omega

/-- The same clock reading this many minutes earlier, less than a day. -/
def minus? (t : Timestamp) (minutes : Int) : Option Timestamp :=
  let m : Int := (t.hour * 60 + t.minute : Nat) - minutes
  if m < 0 then t.date.previous?.map fun date => t.atMinute date (m + 1440).toNat
  else if 1440 ≤ m then t.date.next?.map fun date => t.atMinute date (m - 1440).toNat
  else some (t.atMinute t.date m.toNat)

/-! ## Writing -/

def twoDigits (n : Nat) : List Char := [Nat.digitChar (n / 10 % 10), Nat.digitChar (n % 10)]

def fourDigits (n : Nat) : List Char := twoDigits (n / 100) ++ twoDigits (n % 100)

/-- Four digits; outside 0 to 9999 a sign and at least four digits. -/
def yearText (year : Int) : List Char :=
  if 0 ≤ year ∧ year ≤ 9999 then fourDigits year.toNat
  else
    let digits := Nat.toDigits 10 year.natAbs
    (if year < 0 then '-' else '+') :: List.replicate (4 - digits.length) '0' ++ digits

def chars (t : Timestamp) : List Char :=
  yearText t.date.year ++ '-' :: twoDigits t.date.month ++ '-' :: twoDigits t.date.day ++
    'T' :: twoDigits t.hour ++ ':' :: twoDigits t.minute ++ ':' :: twoDigits t.second ++ ['Z']

def text (t : Timestamp) : String := String.ofList t.chars

/-! ## Reading -/

def skipSpace (s : List Char) : List Char := s.dropWhile Text.isWhiteSpace

/-- The number at the start of the text, which has one digit at least. -/
def number? (s : List Char) : Option (Nat × List Char) :=
  match s.takeWhile Char.isDigit with
  | [] => none
  | digits => some (Nat.ofDigitChars 10 digits 0, s.dropWhile Char.isDigit)

/-- A number of at most so many digits, after white space. -/
def shortNumber? (limit : Nat) (s : List Char) : Option (Nat × List Char) := do
  let s := skipSpace s
  let (n, rest) ← number? (s.take limit)
  some (n, rest ++ s.drop limit)

/-- A number of at most four digits, or a sign and a number. -/
def year? (s : List Char) : Option (Int × List Char) :=
  match skipSpace s with
  | '-' :: s => (number? s).map fun (n, s) => (-n, s)
  | '+' :: s => (number? s).map fun (n, s) => (n, s)
  | s => (shortNumber? 4 s).map fun (n, s) => (n, s)

/-- This character, after white space. -/
def literal? (c : Char) (s : List Char) : Option (List Char) :=
  match skipSpace s with
  | d :: rest => if d = c then some rest else none
  | [] => none

/-- What separates the time of day from the date. -/
def separator? : List Char → Option (List Char)
  | 'T' :: rest | 't' :: rest | ' ' :: rest => some rest
  | _ => none

/-- A point and at least one digit, if there is a point. -/
def dropFraction? : List Char → Option (List Char)
  | '.' :: s => (number? s).map (·.2)
  | s => some s

def sign? : List Char → Option (Bool × List Char)
  | '+' :: rest => some (false, rest)
  | '-' :: rest | '\u2212' :: rest => some (true, rest)
  | _ => none

def twoDigits? : List Char → Option (Nat × List Char)
  | a :: b :: rest =>
    if a.isDigit && b.isDigit then some (Nat.ofDigitChars 10 [a, b] 0, rest) else none
  | _ => none

/-- An offset from UTC in minutes, less than a day. -/
def offset? (s : List Char) : Option (Int × List Char) :=
  match s with
  | 'Z' :: rest | 'z' :: rest => some (0, rest)
  | _ =>
    if (s.take 3).map Char.toUpper = ['U', 'T', 'C'] then some (0, s.drop 3)
    else do
      let (negative, s) ← sign? s
      let (hours, s) ← twoDigits? s
      let s := s.dropWhile fun c => c = ':' || Text.isWhiteSpace c
      let (minutes, s) ← twoDigits? s
      if hours ≤ 23 ∧ minutes ≤ 59 then
        let m : Int := (hours * 60 + minutes : Nat)
        some (if negative then -m else m, s)
      else none

def parseChars? (s : List Char) : Option Timestamp := do
  let (year, s) ← year? s
  let s ← literal? '-' s
  let (month, s) ← shortNumber? 2 s
  let s ← literal? '-' s
  let (day, s) ← shortNumber? 2 s
  let s ← separator? s
  let (hour, s) ← shortNumber? 2 s
  let s ← literal? ':' s
  let (minute, s) ← shortNumber? 2 s
  let s ← literal? ':' s
  let (second, s) ← shortNumber? 2 s
  let s ← dropFraction? s
  let (offset, s) ← offset? (skipSpace s)
  if skipSpace s = [] then
    let t ← ofNumbers? year month day hour minute second
    t.minus? offset
  else none

def parse? (s : String) : Option Timestamp := parseChars? s.toList

end Timestamp

end MeshOperator
