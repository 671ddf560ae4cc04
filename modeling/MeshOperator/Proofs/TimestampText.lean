import MeshOperator.Timestamp

/-!
Timestamps and their texts: the text of a timestamp, whatever its year, gives back the timestamp.
-/

namespace MeshOperator

set_option autoImplicit false

namespace Timestamp

/-! ## Numbers -/

theorem number?_append {digits rest : List Char} (hne : digits ≠ [])
    (hdigits : ∀ c ∈ digits, c.isDigit = true) (hrest : ∀ c ∈ rest.head?, c.isDigit = false) :
    number? (digits ++ rest) = some (Nat.ofDigitChars 10 digits 0, rest) := by
  have hstop : rest.takeWhile Char.isDigit = [] ∧ rest.dropWhile Char.isDigit = rest := by
    cases rest with
    | nil => exact ⟨rfl, rfl⟩
    | cons c rest =>
      have hc : c.isDigit = false := hrest c rfl
      simp only [List.takeWhile_cons, List.dropWhile_cons, hc, Bool.false_eq_true, if_false,
        and_self]
  have htake : (digits ++ rest).takeWhile Char.isDigit = digits := by
    rw [List.takeWhile_append_of_pos hdigits, hstop.1, List.append_nil]
  have hdrop : (digits ++ rest).dropWhile Char.isDigit = rest := by
    rw [List.dropWhile_append_of_pos hdigits, hstop.2]
  unfold number?
  rw [htake, hdrop]
  cases digits with
  | nil => exact absurd rfl hne
  | cons c digits => rfl

theorem isWhiteSpace_of_isDigit {c : Char} (h : c.isDigit = true) :
    Text.isWhiteSpace c = false := by
  have hbounds : 48 ≤ c.toNat ∧ c.toNat ≤ 57 := by
    simpa [Char.isDigit, Char.le_def, UInt32.le_iff_toNat_le] using h
  simp only [Text.isWhiteSpace, Bool.or_eq_false_iff, Bool.and_eq_false_iff, decide_eq_false_iff_not]
  omega

theorem skipSpace_cons {c : Char} (h : Text.isWhiteSpace c = false) (s : List Char) :
    skipSpace (c :: s) = c :: s := by
  rw [skipSpace, List.dropWhile_cons, h]
  rfl

theorem literal?_cons {c : Char} (h : Text.isWhiteSpace c = false) (s : List Char) :
    literal? c (c :: s) = some s := by
  rw [literal?, skipSpace_cons h]
  exact if_pos rfl

/-- A number that fills the places it is given. -/
theorem shortNumber?_append {limit : Nat} {digits : List Char} (hlimit : digits.length = limit)
    (hne : digits ≠ []) (hdigits : ∀ c ∈ digits, c.isDigit = true) (rest : List Char) :
    shortNumber? limit (digits ++ rest) = some (Nat.ofDigitChars 10 digits 0, rest) := by
  have hspace : skipSpace (digits ++ rest) = digits ++ rest := by
    cases digits with
    | nil => exact absurd rfl hne
    | cons c digits =>
      exact skipSpace_cons (isWhiteSpace_of_isDigit (hdigits c List.mem_cons_self)) _
  have hnumber : number? (digits ++ []) = _ := number?_append hne hdigits (by simp)
  rw [List.append_nil] at hnumber
  subst hlimit
  simp only [shortNumber?, hspace, List.take_left, hnumber, List.drop_left, Option.bind_eq_bind,
    Option.bind_some, List.nil_append]

theorem isDigit_twoDigits (n : Nat) : ∀ c ∈ twoDigits n, c.isDigit = true := by
  have htens : n / 10 % 10 < 10 := Nat.mod_lt _ (by omega)
  have hunits : n % 10 < 10 := Nat.mod_lt _ (by omega)
  simp [twoDigits, Nat.isDigit_digitChar, htens, hunits]

theorem ofDigitChars_twoDigits (n before : Nat) :
    Nat.ofDigitChars 10 (twoDigits n) before = 100 * before + n % 100 := by
  have htens : n / 10 % 10 < 10 := Nat.mod_lt _ (by omega)
  have hunits : n % 10 < 10 := Nat.mod_lt _ (by omega)
  rw [twoDigits, Nat.ofDigitChars_cons_digitChar_of_lt_ten htens,
    Nat.ofDigitChars_cons_digitChar_of_lt_ten hunits, Nat.ofDigitChars_nil]
  omega

theorem shortNumber?_twoDigits {n : Nat} (h : n < 100) (rest : List Char) :
    shortNumber? 2 (twoDigits n ++ rest) = some (n, rest) := by
  have hread := shortNumber?_append rfl (by simp [twoDigits]) (isDigit_twoDigits n) rest
  rw [ofDigitChars_twoDigits, Nat.mod_eq_of_lt h, Nat.mul_zero, Nat.zero_add] at hread
  exact hread

theorem shortNumber?_fourDigits {n : Nat} (h : n < 10000) (rest : List Char) :
    shortNumber? 4 (fourDigits n ++ rest) = some (n, rest) := by
  have hdigits : ∀ c ∈ fourDigits n, c.isDigit = true := fun c hc =>
    (List.mem_append.1 hc).elim (isDigit_twoDigits _ c) (isDigit_twoDigits _ c)
  have hread := shortNumber?_append rfl (by simp [fourDigits, twoDigits]) hdigits rest
  have hvalue : Nat.ofDigitChars 10 (fourDigits n) 0 = n := by
    rw [fourDigits, Nat.ofDigitChars_append, ofDigitChars_twoDigits, ofDigitChars_twoDigits]
    omega
  rw [hvalue] at hread
  exact hread

/-! ## Years -/

/-- A text that begins with a digit begins with no sign. -/
theorem year?_of_digit {c : Char} (h : c.isDigit = true) (s : List Char) :
    year? (c :: s) = (shortNumber? 4 (c :: s)).map fun (n, s) => ((n : Int), s) := by
  rw [year?, skipSpace_cons (isWhiteSpace_of_isDigit h)]
  split
  next heq =>
    cases heq
    cases h
  next heq =>
    cases heq
    cases h
  next => rfl

/-- The digits after the sign of a year that is written with one. -/
def signedDigits (year : Int) : List Char :=
  List.replicate (4 - (Nat.toDigits 10 year.natAbs).length) '0' ++ Nat.toDigits 10 year.natAbs

theorem number?_signedDigits (year : Int) (rest : List Char) :
    number? (signedDigits year ++ '-' :: rest) = some (year.natAbs, '-' :: rest) := by
  have hdigits : ∀ c ∈ signedDigits year, c.isDigit = true := by
    intro c hc
    rcases List.mem_append.1 hc with hc | hc
    · rw [List.eq_of_mem_replicate hc]
      rfl
    · exact Nat.isDigit_of_mem_toDigits (by omega) (by omega) hc
  have hne : signedDigits year ≠ [] := by
    simp [signedDigits, Nat.toDigits_ne_nil]
  rw [number?_append hne hdigits (by simp)]
  rw [signedDigits, Nat.ofDigitChars_append, Nat.ofDigitChars_replicate_zero, Nat.mul_zero,
    Nat.ofDigitChars_ten_toDigits]

theorem year?_yearText (year : Int) (rest : List Char) :
    year? (yearText year ++ '-' :: rest) = some (year, '-' :: rest) := by
  unfold yearText
  by_cases h : 0 ≤ year ∧ year ≤ 9999
  · rw [if_pos h]
    have hlt : year.toNat < 10000 := by omega
    have hcast : ((year.toNat : Nat) : Int) = year := Int.toNat_of_nonneg h.1
    have hread := shortNumber?_fourDigits hlt ('-' :: rest)
    have hfirst := isDigit_twoDigits (year.toNat / 100) _ List.mem_cons_self
    refine (year?_of_digit hfirst _).trans ?_
    show (shortNumber? 4 (fourDigits year.toNat ++ '-' :: rest)).map _ = _
    simp only [hread, Option.map_some, hcast]
  · rw [if_neg h]
    have hnumber := number?_signedDigits year rest
    by_cases hneg : year < 0
    · have hvalue : -(year.natAbs : Int) = year := by omega
      rw [if_pos hneg]
      show ((number? (signedDigits year ++ '-' :: rest)).map fun (n, s) => (-(n : Int), s)) = _
      simp only [hnumber, Option.map_some, hvalue]
    · have hvalue : (year.natAbs : Int) = year := by omega
      rw [if_neg hneg]
      show ((number? (signedDigits year ++ '-' :: rest)).map fun (n, s) => ((n : Int), s)) = _
      simp only [hnumber, Option.map_some, hvalue]

/-! ## Whole timestamps -/

theorem ofNumbers?_numbers (t : Timestamp) :
    ofNumbers? t.date.year t.date.month t.date.day t.hour t.minute t.second = some t := by
  obtain ⟨⟨year, month, day, hm, hd⟩, hour, minute, second, hc⟩ := t
  simp only [ofNumbers?, hm, hd, hc, and_self, dite_true]

theorem minus?_zero (t : Timestamp) : t.minus? 0 = some t := by
  obtain ⟨date, hour, minute, second, hc⟩ := t
  have hearly : ¬((hour * 60 + minute : Nat) : Int) < 0 := by omega
  have hlate : ¬(1440 : Int) ≤ ((hour * 60 + minute : Nat) : Int) := by omega
  have hhour : (hour * 60 + minute) / 60 % 24 = hour := by omega
  have hminute : (hour * 60 + minute) % 60 = minute := by omega
  simp only [minus?, atMinute, Int.sub_zero, if_neg hearly, if_neg hlate, Int.toNat_natCast, hhour,
    hminute]

theorem parse?_text (t : Timestamp) : parse? t.text = some t := by
  have hmonth : t.date.month < 100 := by
    have := t.date.month_bounds
    omega
  have hday : t.date.day < 100 := by
    have hlength := (Calendar.monthLength_bounds t.date.year t.date.month).2
    have := t.date.day_bounds
    omega
  have hclock := t.clock_bounds
  have hhour : t.hour < 100 := by omega
  have hminute : t.minute < 100 := by omega
  have hsecond : t.second < 100 := by omega
  have hdash (s : List Char) : literal? '-' ('-' :: s) = some s := literal?_cons rfl s
  have hcolon (s : List Char) : literal? ':' (':' :: s) = some s := literal?_cons rfl s
  have hfraction : dropFraction? ['Z'] = some ['Z'] := rfl
  have hoffset : offset? (skipSpace ['Z']) = some (0, []) := rfl
  have hend : skipSpace [] = [] := rfl
  simp only [parse?, text, String.toList_ofList, chars, List.append_assoc, List.cons_append,
    parseChars?, year?_yearText, hdash, hcolon, separator?, shortNumber?_twoDigits hmonth,
    shortNumber?_twoDigits hday, shortNumber?_twoDigits hhour, shortNumber?_twoDigits hminute,
    shortNumber?_twoDigits hsecond, hfraction, hoffset, hend, if_true, ofNumbers?_numbers,
    minus?_zero, Option.bind_eq_bind, Option.bind_some]

end Timestamp

end MeshOperator
