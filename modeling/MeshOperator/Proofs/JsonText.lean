import MeshOperator.Json.Printer
import MeshOperator.Json.Reader

/-!
The text of a value is read as that value.

`Json.Readable` says of a value what its text needs for that: it is not nested too deeply, its
numbers are whole and fit into a word, and the names of its members ascend, since that is how
members are kept. The texts in it can be any. One lemma says what one step of the reader makes of
the beginning of a text, and the induction is on the value, for any text that stands behind its
own: `value_write`, and `items_write` and `members_write` for what stands between brackets.
-/

namespace MeshOperator

set_option autoImplicit false

namespace Json

open Reader

/-! ## Strings -/

theorem hexValue?_hexDigit (n : Nat) : hexValue? (hexDigit n) = some (n % 16) := by
  have hall : ∀ d : Fin 16, hexValue? (Nat.digitChar d) = some d.val := by decide
  exact hall ⟨n % 16, Nat.mod_lt n (by decide)⟩

theorem escapedUnit?_control {c : Char} (h : c.toNat < 32) (rest : List Char) :
    escapedUnit? ('0' :: '0' :: hexDigit (c.toNat / 16) :: hexDigit c.toNat :: rest) =
      some (c, rest) := by
  have hzero : hexValue? '0' = some 0 := rfl
  have hunit : ((0 * 16 + 0) * 16 + c.toNat / 16 % 16) * 16 + c.toNat % 16 = c.toNat := by omega
  have hlow : c.toNat < 0xD800 := by omega
  simp only [escapedUnit?, unit?, hzero, hexValue?_hexDigit, Option.bind_eq_bind, Option.bind_some,
    hunit, hlow, true_or, if_true, Char.ofNat_toNat]

/-- How a character is escaped: with a letter, with its number, or not at all. -/
theorem escape_cases (c : Char) :
    (∃ e, e ≠ 'u' ∧ shortEscape? e = some c ∧ escape c = ['\\', e]) ∨
    (c.toNat < 32 ∧
      escape c = ['\\', 'u', '0', '0', hexDigit (c.toNat / 16), hexDigit c.toNat]) ∨
    (c ≠ '"' ∧ c ≠ '\\' ∧ 32 ≤ c.toNat ∧ escape c = [c]) := by
  by_cases hshort : c ∈ ['"', '\\', '\n', '\r', '\t', '\x08', '\x0c']
  · left
    simp only [List.mem_cons, List.not_mem_nil, or_false] at hshort
    rcases hshort with rfl | rfl | rfl | rfl | rfl | rfl | rfl <;>
      exact ⟨_, by decide, rfl, rfl⟩
  · right
    simp only [List.mem_cons, List.not_mem_nil, or_false, not_or] at hshort
    by_cases hcontrol : c.toNat < 32
    · left
      simp only [escape, hshort, hcontrol, if_true, if_false, and_self]
    · right
      refine ⟨hshort.1, hshort.2.1, Nat.not_lt.1 hcontrol, ?_⟩
      simp only [escape, hshort, hcontrol, if_false]

theorem stringBody_escape (c : Char) (fuel : Nat) (s : List Char) :
    stringBody (fuel + 1) (escape c ++ s) =
      (stringBody fuel s).map fun r => (c :: r.1, r.2) := by
  rcases escape_cases c with ⟨e, hu, he, hc⟩ | ⟨hcontrol, hc⟩ | ⟨hquote, hbackslash, hlarge, hc⟩
  · rw [hc, List.cons_append, List.cons_append, List.nil_append, stringBody, he]
    · cases stringBody fuel s <;> rfl
    · exact hu
  · simp only [hc, List.cons_append, List.nil_append, stringBody, escapedUnit?_control hcontrol,
      Option.bind_eq_bind, Option.bind_some]
    cases stringBody fuel s <;> rfl
  · rw [hc, List.cons_append, List.nil_append, stringBody]
    · rw [if_neg (not_or.2 ⟨hbackslash, Nat.not_lt.2 hlarge⟩)]
      cases stringBody fuel s <;> rfl
    · exact hquote
    · exact fun _ h _ => hbackslash h
    · exact fun _ _ h _ => hbackslash h

theorem length_escape_pos (c : Char) : 0 < (escape c).length := by
  rcases escape_cases c with ⟨e, -, -, hc⟩ | ⟨-, hc⟩ | ⟨-, -, -, hc⟩ <;> simp [hc]

theorem stringBody_flatMap_escape (cs : List Char) (rest : List Char) {fuel : Nat}
    (h : cs.length < fuel) :
    stringBody fuel (cs.flatMap escape ++ '"' :: rest) = some (cs, rest) := by
  induction cs generalizing fuel with
  | nil =>
    obtain ⟨fuel, rfl⟩ := Nat.exists_eq_succ_of_ne_zero (Nat.ne_zero_of_lt h)
    rfl
  | cons c cs ih =>
    obtain ⟨fuel, rfl⟩ := Nat.exists_eq_succ_of_ne_zero (Nat.ne_zero_of_lt h)
    rw [List.flatMap_cons, List.append_assoc, stringBody_escape, ih (Nat.lt_of_succ_lt_succ h)]
    rfl

theorem length_le_flatMap_escape (cs : List Char) : cs.length ≤ (cs.flatMap escape).length := by
  induction cs with
  | nil => exact Nat.le_refl 0
  | cons c cs ih =>
    have hpos := length_escape_pos c
    simp only [List.flatMap_cons, List.length_append, List.length_cons]
    omega

theorem string?_writeString (s : String) (rest : List Char) :
    string? (writeString s rest) = some (s, rest) := by
  have hlength : s.toList.length < (s.toList.flatMap escape ++ '"' :: rest).length + 1 := by
    have hle := length_le_flatMap_escape s.toList
    rw [List.length_append]
    omega
  rw [writeString, List.cons_append, string?, stringBody_flatMap_escape s.toList rest hlength]
  exact congrArg (fun t => some (t, rest)) String.ofList_toList

/-! ## Numbers -/

theorem digitsValue_toDigits (n : Nat) : digitsValue (Nat.toDigits 10 n) = n := by
  have hread := Nat.ofDigitChars_ten_toDigits (n := n)
  rw [Nat.ofDigitChars_eq_foldl] at hread
  simp only [Nat.mul_comm 10] at hread
  exact hread

theorem head?_toDigits {n : Nat} (h : 0 < n) : (Nat.toDigits 10 n).head? ≠ some '0' := by
  induction n using Nat.strongRecOn with
  | ind n ih =>
    rw [Nat.toDigits_eq_if (by decide)]
    split
    next hsmall =>
      have hall : ∀ d : Fin 10, 0 < d.val → Nat.digitChar d ≠ '0' := by decide
      simpa using hall ⟨n, hsmall⟩ h
    next hlarge =>
      rw [List.head?_append, Option.or_of_isSome (List.isSome_head?.2 Nat.toDigits_ne_nil)]
      exact ih (n / 10) (by omega) (by omega)

/-- No number but zero is written with a leading zero. -/
theorem toDigits_wellFormed (n : Nat) : ¬(Nat.toDigits 10 n = [] ∨
    ((Nat.toDigits 10 n).head? = some '0' ∧ Nat.toDigits 10 n ≠ ['0'])) := by
  rintro (hempty | ⟨hhead, hne⟩)
  · exact Nat.toDigits_ne_nil hempty
  · rcases Nat.eq_zero_or_pos n with rfl | hpos
    · exact hne (Nat.toDigits_zero 10)
    · exact head?_toDigits hpos hhead

/-- A number in front of this text ends where the text begins. -/
def EndsNumber (rest : List Char) : Prop :=
  ∀ c ∈ rest.head?, Reader.isDigit c = false ∧ c ≠ '.' ∧ c ≠ 'e' ∧ c ≠ 'E'

theorem digits_toDigits (n : Nat) {rest : List Char} (h : EndsNumber rest) :
    digits (Nat.toDigits 10 n ++ rest) = (Nat.toDigits 10 n, rest) := by
  have hdigits : ∀ c ∈ Nat.toDigits 10 n, Reader.isDigit c = true := fun c hc =>
    Nat.isDigit_of_mem_toDigits (by decide) (by decide) hc
  have hrest : rest.takeWhile Reader.isDigit = [] ∧ rest.dropWhile Reader.isDigit = rest := by
    cases rest with
    | nil => exact ⟨rfl, rfl⟩
    | cons c rest => simp [(h c rfl).1]
  rw [digits, List.takeWhile_append_of_pos hdigits, List.dropWhile_append_of_pos hdigits, hrest.1,
    hrest.2, List.append_nil]

theorem fraction?_of_endsNumber {rest : List Char} (h : EndsNumber rest) :
    fraction? rest = some ([], rest) := by
  unfold fraction?
  split
  next rest => exact absurd rfl (h '.' rfl).2.1
  next => rfl

theorem exponent?_of_endsNumber {rest : List Char} (h : EndsNumber rest) :
    exponent? rest = some (none, rest) := by
  cases rest with
  | nil => rfl
  | cons c rest =>
    obtain ⟨-, -, he, hE⟩ := h c rfl
    unfold exponent?
    exact if_neg (not_or.2 ⟨he, hE⟩)

/-- The numbers that are read as whole numbers. -/
def FitsWord (n : Int) : Prop := -9223372036854775808 ≤ n ∧ n ≤ 18446744073709551615

theorem wholeNumber?_ofNat {n : Nat} (h : n ≤ 18446744073709551615) :
    wholeNumber? false (Nat.toDigits 10 n) = some (.int n) := by
  have hword : n < UInt64.size := Nat.lt_succ_of_le h
  simp [wholeNumber?, digitsValue_toDigits, hword]

theorem wholeNumber?_negSucc {n : Nat} (h : n + 1 ≤ 9223372036854775808) :
    wholeNumber? true (Nat.toDigits 10 (n + 1)) = some (.int (.negSucc n)) := by
  have hword : n + 1 ≤ Nat.pow 2 63 := h
  have hpos : 0 < n + 1 := n.succ_pos
  simp only [wholeNumber?, digitsValue_toDigits, hword, hpos, not_true_eq_false, false_and,
    if_false, and_self, if_true]
  rfl

theorem toDigits_eq_cons (n : Nat) :
    ∃ c ds, Nat.toDigits 10 n = c :: ds ∧ Reader.isDigit c = true := by
  obtain ⟨c, ds, hds⟩ := List.exists_cons_of_ne_nil (Nat.toDigits_ne_nil (n := n) (b := 10))
  have hmem : c ∈ Nat.toDigits 10 n := hds ▸ List.mem_cons_self
  exact ⟨c, ds, hds, Nat.isDigit_of_mem_toDigits (by decide) (by decide) hmem⟩

theorem number?_writeInt {n : Int} (hn : FitsWord n) {rest : List Char} (hrest : EndsNumber rest) :
    number? (writeInt n rest) = some (.int n, rest) := by
  obtain ⟨hlow, hhigh⟩ := hn
  cases n with
  | ofNat n =>
    have hword := wholeNumber?_ofNat (n := n) (by rw [Int.ofNat_eq_natCast] at hhigh; omega)
    obtain ⟨c, ds, hds, hc⟩ := toDigits_eq_cons n
    unfold number? writeInt
    dsimp only
    split
    next heq =>
      rw [hds] at heq
      cases heq
      cases hc
    next =>
      simp only [digits_toDigits n hrest, toDigits_wellFormed, if_false,
        fraction?_of_endsNumber hrest, exponent?_of_endsNumber hrest, Option.bind_eq_bind,
        Option.bind_some, and_self, if_true, hword, Option.map_some]
      rfl
  | negSucc n =>
    have hword := wholeNumber?_negSucc (n := n) (by rw [Int.negSucc_eq] at hlow; omega)
    unfold number? writeInt
    simp only [List.cons_append, digits_toDigits (n + 1) hrest, toDigits_wellFormed, if_false,
      fraction?_of_endsNumber hrest, exponent?_of_endsNumber hrest, Option.bind_eq_bind,
      Option.bind_some, and_self, if_true, hword, Option.map_some]

/-! ## Values -/

mutual

/-- The value is nested at most that deep, its numbers are whole and fit into a word, and the names
of its members ascend. -/
def Readable : Json → Nat → Prop
  | .int n, _ => FitsWord n
  | .float _, _ => False
  | .arr items, depth => 0 < depth ∧ ReadableItems items (depth - 1)
  | .obj members, depth =>
    0 < depth ∧ Assoc.Ascending members ∧ ReadableMembers members (depth - 1)
  | _, _ => True

def ReadableItems : List Json → Nat → Prop
  | [], _ => True
  | item :: rest, depth => Readable item depth ∧ ReadableItems rest depth

def ReadableMembers : Members → Nat → Prop
  | [], _ => True
  | (_, value) :: rest, depth => Readable value depth ∧ ReadableMembers rest depth

end

theorem readableItems_iff (items : List Json) (depth : Nat) :
    ReadableItems items depth ↔ ∀ v ∈ items, v.Readable depth := by
  induction items with
  | nil => simp [ReadableItems]
  | cons v rest ih => simp [ReadableItems, ih]

theorem readableMembers_iff (members : Members) (depth : Nat) :
    ReadableMembers members depth ↔ ∀ m ∈ members, m.2.Readable depth := by
  induction members with
  | nil => simp [ReadableMembers]
  | cons m rest ih => simp [ReadableMembers, ih]

@[simp] theorem readable_null (depth : Nat) : Readable .null depth := trivial

@[simp] theorem readable_bool (b : Bool) (depth : Nat) : Readable (.bool b) depth := trivial

@[simp] theorem readable_str (s : String) (depth : Nat) : Readable (.str s) depth := trivial

@[simp] theorem readable_int (n : Int) (depth : Nat) :
    Readable (.int n) depth ↔ FitsWord n := Iff.rfl

@[simp] theorem readable_arr (items : List Json) (depth : Nat) :
    Readable (.arr items) depth ↔ 0 < depth ∧ ∀ v ∈ items, v.Readable (depth - 1) :=
  and_congr_right fun _ => readableItems_iff items (depth - 1)

@[simp] theorem readable_obj (members : Members) (depth : Nat) :
    Readable (.obj members) depth ↔
      0 < depth ∧ Assoc.Ascending members ∧ ∀ m ∈ members, m.2.Readable (depth - 1) :=
  and_congr_right fun _ => and_congr_right fun _ => readableMembers_iff members (depth - 1)

theorem skipBlanks_cons {c : Char} (h : isBlank c = false) (s : List Char) :
    skipBlanks (c :: s) = c :: s := by
  rw [skipBlanks, h]
  rfl

theorem endsNumber_nil : EndsNumber [] := fun _ h => by cases h

theorem endsNumber_cons {c : Char} (h : c = ',' ∨ c = ']' ∨ c = '\x7d') (s : List Char) :
    EndsNumber (c :: s) := by
  rintro _ ⟨⟩
  rcases h with rfl | rfl | rfl <;> decide

/-! ## Lengths -/

theorem length_le_writeString (s : String) (rest : List Char) :
    rest.length + 2 ≤ (writeString s rest).length := by
  simp [writeString]

mutual

theorem length_le_write : (v : Json) → (rest : List Char) → rest.length ≤ (write v rest).length
  | .null, rest => by
    simp only [write, List.length_cons]
    omega
  | .bool true, rest | .bool false, rest => by
    simp only [write, List.length_cons]
    omega
  | .int n, rest => by
    cases n <;> simp [write, writeInt]
    omega
  | .float x, rest => by simp [write]
  | .str s, rest => by
    have h := length_le_writeString s rest
    rw [write]
    omega
  | .arr [], rest => by
    simp only [write, List.length_cons]
    omega
  | .arr (item :: items), rest => by
    have hitems := length_le_writeItems items (']' :: rest)
    have hitem := length_le_write item (writeItems items (']' :: rest))
    simp only [write, List.length_cons] at *
    omega
  | .obj [], rest => by
    simp only [write, List.length_cons]
    omega
  | .obj ((name, value) :: members), rest => by
    have hmembers := length_le_writeMembers members ('\x7d' :: rest)
    have hvalue := length_le_write value (writeMembers members ('\x7d' :: rest))
    have hname := length_le_writeString name
      (':' :: write value (writeMembers members ('\x7d' :: rest)))
    simp only [write, List.length_cons] at *
    omega

theorem length_le_writeItems : (items : List Json) → (rest : List Char) →
    rest.length ≤ (writeItems items rest).length
  | [], rest => by simp [writeItems]
  | item :: items, rest => by
    have hitems := length_le_writeItems items rest
    have hitem := length_le_write item (writeItems items rest)
    simp only [writeItems, List.length_cons]
    omega

theorem length_le_writeMembers : (members : Members) → (rest : List Char) →
    rest.length ≤ (writeMembers members rest).length
  | [], rest => by simp [writeMembers]
  | (name, value) :: members, rest => by
    have hmembers := length_le_writeMembers members rest
    have hvalue := length_le_write value (writeMembers members rest)
    have hname := length_le_writeString name (':' :: write value (writeMembers members rest))
    simp only [writeMembers, List.length_cons] at *
    omega

end

theorem endsNumber_writeItems (items : List Json) (rest : List Char) :
    EndsNumber (writeItems items (']' :: rest)) := by
  cases items <;> exact endsNumber_cons (by simp) _

theorem endsNumber_writeMembers (members : Members) (rest : List Char) :
    EndsNumber (writeMembers members ('\x7d' :: rest)) := by
  cases members <;> exact endsNumber_cons (by simp) _

/-- A text of a number is not mistaken for anything else. -/
theorem ne_of_number {c d : Char} (h : Reader.isDigit c = true ∨ c = '-')
    (hd : d ∈ [' ', '\n', '\t', '\r', 'n', 't', 'f', '"', '[', ']', '\x7b']) : c ≠ d := by
  have hother : ¬(Reader.isDigit d = true ∨ d = '-') := by
    simp only [List.mem_cons, List.not_mem_nil, or_false] at hd
    rcases hd with rfl | rfl | rfl | rfl | rfl | rfl | rfl | rfl | rfl | rfl | rfl <;> decide
  rintro rfl
  exact hother h

theorem isBlank_of_number {c : Char} (h : Reader.isDigit c = true ∨ c = '-') :
    isBlank c = false := by
  simp [isBlank, ne_of_number h]

/-! ## One step of the reader -/

section Steps

variable {fuel depth : Nat} {s rest : List Char}

theorem value_number {c : Char} (h : Reader.isDigit c = true ∨ c = '-') :
    value (fuel + 1) depth (c :: s) = number? (c :: s) := by
  rw [value, skipBlanks_cons (isBlank_of_number h)]
  split
  case h_7 => rfl
  -- all other alternatives begin with a character that no number begins with
  all_goals
    rename_i heq
    cases heq
    exact absurd rfl (ne_of_number h (by simp))

theorem value_str (t : String) :
    value (fuel + 1) depth (writeString t rest) = some (.str t, rest) := by
  have hread : value (fuel + 1) depth (writeString t rest) =
      (string? (writeString t rest)).map fun r => (.str r.1, r.2) := rfl
  rw [hread, string?_writeString]
  rfl

theorem value_arr (hblank : skipBlanks s = s) (hne : ∀ rest, s ≠ ']' :: rest) :
    value (fuel + 1) (depth + 1) ('[' :: s) =
      (items fuel depth s).map fun r => (.arr r.1, r.2) := by
  rw [value, skipBlanks_cons rfl]
  split
  case h_5 heq =>
    cases heq
    dsimp only
    rw [hblank]
    split
    next rest => exact absurd rfl (hne rest)
    next => rfl
  case h_7 hother _ => exact absurd rfl (hother s)
  all_goals
    rename_i heq
    cases heq

theorem items_last {v : Json} (h : value fuel depth s = some (v, ']' :: rest)) :
    items (fuel + 1) depth s = some ([v], rest) := by
  rw [items, h]
  rfl

theorem items_next {v : Json} (h : value fuel depth s = some (v, ',' :: rest)) :
    items (fuel + 1) depth s = (items fuel depth rest).map fun r => (v :: r.1, r.2) := by
  rw [items, h]
  show ((items fuel depth rest).bind fun r => some (v :: r.1, r.2)) = _
  cases items fuel depth rest <;> rfl

theorem value_obj (name : String) :
    value (fuel + 1) (depth + 1) ('\x7b' :: writeString name s) =
      (members fuel depth (writeString name s)).map fun r => (object r.1, r.2) := rfl

theorem members_writeString (name : String) :
    members (fuel + 1) depth (writeString name (':' :: s)) =
      (value fuel depth s).bind fun r =>
        match skipBlanks r.2 with
        | ',' :: rest =>
          (members fuel depth rest).bind fun more => some ((name, r.1) :: more.1, more.2)
        | '\x7d' :: rest => some ([(name, r.1)], rest)
        | _ => none := by
  have hname : string? (skipBlanks (writeString name (':' :: s))) = some (name, ':' :: s) :=
    string?_writeString name (':' :: s)
  rw [members, hname]
  rfl

theorem members_last {v : Json} (h : value fuel depth s = some (v, '\x7d' :: rest))
    (name : String) :
    members (fuel + 1) depth (writeString name (':' :: s)) = some ([(name, v)], rest) := by
  rw [members_writeString, h]
  rfl

theorem members_next {v : Json} (h : value fuel depth s = some (v, ',' :: rest))
    (name : String) :
    members (fuel + 1) depth (writeString name (':' :: s)) =
      (members fuel depth rest).map fun r => ((name, v) :: r.1, r.2) := by
  rw [members_writeString, h]
  show ((members fuel depth rest).bind fun more => some ((name, v) :: more.1, more.2)) = _
  cases members fuel depth rest <;> rfl

end Steps

/-! ## Whole texts -/

theorem writeInt_eq_cons (n : Int) (rest : List Char) :
    ∃ c s, writeInt n rest = c :: s ∧ (Reader.isDigit c = true ∨ c = '-') := by
  cases n with
  | ofNat n =>
    obtain ⟨c, ds, hds, hc⟩ := toDigits_eq_cons n
    exact ⟨c, ds ++ rest, by rw [writeInt, hds, List.cons_append], .inl hc⟩
  | negSucc n => exact ⟨'-', _, rfl, .inr rfl⟩

/-- The text of a list is not mistaken for that of the empty list. -/
theorem write_eq_cons {v : Json} {depth : Nat} (h : v.Readable depth) (rest : List Char) :
    ∃ c s, write v rest = c :: s ∧ isBlank c = false ∧ c ≠ ']' := by
  match v with
  | .null => exact ⟨_, _, rfl, rfl, by decide⟩
  | .bool true | .bool false => exact ⟨_, _, rfl, rfl, by decide⟩
  | .int n =>
    obtain ⟨c, s, hs, hc⟩ := writeInt_eq_cons n rest
    exact ⟨c, s, hs, isBlank_of_number hc, ne_of_number hc (by simp)⟩
  | .float x => cases h
  | .str s => exact ⟨_, _, rfl, rfl, by decide⟩
  | .arr [] | .arr (_ :: _) => exact ⟨_, _, rfl, rfl, by decide⟩
  | .obj [] | .obj (_ :: _) => exact ⟨_, _, rfl, rfl, by decide⟩

mutual

/-- A value is read from the front of a text, and what stands behind it is left. Two units of fuel
for each of its characters, and two more, are enough. -/
theorem value_write : (v : Json) → {depth : Nat} → (fuel : Nat) → (rest : List Char) →
    v.Readable depth → EndsNumber rest → 2 * (write v rest).length + 2 ≤ fuel + 2 * rest.length →
    value fuel depth (write v rest) = some (v, rest)
  | v, depth, 0, rest, _, _, hfuel => by
    have hlength := length_le_write v rest
    omega
  | .null, _, fuel + 1, rest, _, _, _ => rfl
  | .bool true, _, fuel + 1, rest, _, _, _ => rfl
  | .bool false, _, fuel + 1, rest, _, _, _ => rfl
  | .int n, depth, fuel + 1, rest, h, hrest, _ => by
    obtain ⟨c, s, hs, hc⟩ := writeInt_eq_cons n rest
    rw [write, hs, value_number hc, ← hs, number?_writeInt h hrest]
  | .str s, _, fuel + 1, rest, _, _, _ => value_str s
  | .arr [], depth + 1, fuel + 1, rest, h, _, _ => rfl
  | .arr (item :: items), depth + 1, fuel + 1, rest, h, _, hfuel => by
    have hitems := items_write (item :: items) fuel rest h.2 (by simp) (by
      simp only [write, writeItems, List.length_cons] at hfuel ⊢
      omega)
    obtain ⟨c, s, hs, hblank, hne⟩ := write_eq_cons h.2.1 (writeItems items (']' :: rest))
    rw [writeItems, List.tail_cons, Nat.add_sub_cancel, hs] at hitems
    rw [write, hs, value_arr (skipBlanks_cons hblank s) fun _ heq => hne (List.cons.inj heq).1,
      hitems]
    rfl
  | .obj [], depth + 1, fuel + 1, rest, h, _, _ => rfl
  | .obj ((name, v) :: ms), depth + 1, fuel + 1, rest, h, _, hfuel => by
    have hmembers := members_write ((name, v) :: ms) fuel rest h.2.2 (by simp) (by
      simp only [write, writeMembers, List.length_cons] at hfuel ⊢
      omega)
    rw [writeMembers, List.tail_cons, Nat.add_sub_cancel] at hmembers
    rw [write, value_obj, hmembers, Option.map_some, object, Assoc.insertAll_nil h.2.1]

/-- The first comma is no part of the text between the brackets. -/
theorem items_write : (vs : List Json) → {depth : Nat} → (fuel : Nat) → (rest : List Char) →
    ReadableItems vs depth → vs ≠ [] →
    2 * (writeItems vs (']' :: rest)).length + 1 ≤ fuel + 2 * rest.length →
    items fuel depth (writeItems vs (']' :: rest)).tail = some (vs, rest)
  | [], _, _, _, _, h, _ => absurd rfl h
  | v :: vs, depth, 0, rest, _, _, hfuel => by
    have hlength := length_le_writeItems (v :: vs) (']' :: rest)
    rw [List.length_cons] at hlength
    omega
  | [v], depth, fuel + 1, rest, h, _, hfuel => by
    refine items_last (value_write v fuel _ h.1 (endsNumber_cons (by simp) rest) ?_)
    simp only [writeItems, List.length_cons] at hfuel ⊢
    omega
  | v :: next :: vs, depth, fuel + 1, rest, h, _, hfuel => by
    have hitems := items_write (next :: vs) fuel rest h.2 (by simp) (by
      have hlength := length_le_write v (writeItems (next :: vs) (']' :: rest))
      simp only [writeItems, List.length_cons] at hfuel hlength ⊢
      omega)
    have hvalue := value_write v fuel _ h.1 (endsNumber_writeItems (next :: vs) rest) (by
      have hlength := length_le_writeItems (next :: vs) (']' :: rest)
      simp only [writeItems, List.length_cons] at hfuel hlength ⊢
      omega)
    rw [writeItems, List.tail_cons] at hitems
    rw [writeItems, List.tail_cons, items_next hvalue, hitems]
    rfl

theorem members_write : (ms : Members) → {depth : Nat} → (fuel : Nat) → (rest : List Char) →
    ReadableMembers ms depth → ms ≠ [] →
    2 * (writeMembers ms ('\x7d' :: rest)).length + 1 ≤ fuel + 2 * rest.length →
    members fuel depth (writeMembers ms ('\x7d' :: rest)).tail = some (ms, rest)
  | [], _, _, _, _, h, _ => absurd rfl h
  | (name, v) :: ms, depth, 0, rest, _, _, hfuel => by
    have hlength := length_le_writeMembers ((name, v) :: ms) ('\x7d' :: rest)
    rw [List.length_cons] at hlength
    omega
  | [(name, v)], depth, fuel + 1, rest, h, _, hfuel => by
    refine members_last (value_write v fuel _ h.1 (endsNumber_cons (by simp) rest) ?_) name
    have hname := length_le_writeString name (':' :: write v ('\x7d' :: rest))
    simp only [writeMembers, List.length_cons] at hfuel hname ⊢
    omega
  | (name, v) :: (other, w) :: ms, depth, fuel + 1, rest, h, _, hfuel => by
    have hname := length_le_writeString name
      (':' :: write v (writeMembers ((other, w) :: ms) ('\x7d' :: rest)))
    have hmembers := members_write ((other, w) :: ms) fuel rest h.2 (by simp) (by
      have hlength := length_le_write v (writeMembers ((other, w) :: ms) ('\x7d' :: rest))
      simp only [writeMembers, List.length_cons] at hfuel hname hlength ⊢
      omega)
    have hvalue := value_write v fuel _ h.1 (endsNumber_writeMembers ((other, w) :: ms) rest) (by
      have hlength := length_le_writeMembers ((other, w) :: ms) ('\x7d' :: rest)
      simp only [writeMembers, List.length_cons] at hfuel hname hlength ⊢
      omega)
    rw [writeMembers, List.tail_cons] at hmembers
    rw [writeMembers, List.tail_cons, members_next hvalue, hmembers]
    rfl

end

/-- Reading undoes writing. -/
theorem parse_text {v : Json} (h : v.Readable depthLimit) : parse v.text = some v := by
  have hread := value_write v (2 * (write v []).length + 2) [] h endsNumber_nil (by simp)
  rw [parse, text, String.toList_ofList, parseChars, hread]
  rfl

end Json

end MeshOperator
