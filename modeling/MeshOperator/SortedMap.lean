/-!
Finite maps kept as an ascending list of entries.

`Assoc` holds the operations on plain lists of entries; a JSON object is such a list.
`SortedMap` is a list of entries together with the fact that its keys ascend strictly, so two
maps with the same entries are equal. Labels, annotations and the contents of a store are
`SortedMap`s.
-/

namespace MeshOperator

set_option autoImplicit false

namespace Assoc

variable {κ α : Type} [Ord κ]

def find? (key : κ) : List (κ × α) → Option α
  | [] => none
  | (k, v) :: rest => if compare key k == .eq then some v else find? key rest

/-- Put an entry in front of the first entry with a greater key; an entry with the same key is
replaced. -/
def insert (key : κ) (value : α) : List (κ × α) → List (κ × α)
  | [] => [(key, value)]
  | (k, v) :: rest =>
    match compare key k with
    | .lt => (key, value) :: (k, v) :: rest
    | .eq => (key, value) :: rest
    | .gt => (k, v) :: insert key value rest

def erase (key : κ) (entries : List (κ × α)) : List (κ × α) :=
  entries.filter fun e => compare key e.1 != .eq

/-- Insert all entries, later ones winning. -/
def insertAll (new entries : List (κ × α)) : List (κ × α) :=
  new.foldl (fun m e => insert e.1 e.2 m) entries

def Ascending (entries : List (κ × α)) : Prop :=
  entries.Pairwise fun a b => compare a.1 b.1 = .lt

theorem ascending_nil : Ascending ([] : List (κ × α)) := List.Pairwise.nil

theorem mem_insert {key : κ} {value : α} {entries : List (κ × α)} {e : κ × α}
    (h : e ∈ insert key value entries) : e = (key, value) ∨ e ∈ entries := by
  induction entries with
  | nil => exact Or.inl (by simpa [insert] using h)
  | cons head rest ih =>
    obtain ⟨k, v⟩ := head
    simp only [insert] at h
    split at h
    · rcases List.mem_cons.1 h with h | h
      · exact Or.inl h
      · exact Or.inr h
    · rcases List.mem_cons.1 h with h | h
      · exact Or.inl h
      · exact Or.inr (List.mem_cons_of_mem _ h)
    · rcases List.mem_cons.1 h with h | h
      · exact Or.inr (h ▸ List.mem_cons_self)
      · rcases ih h with h | h
        · exact Or.inl h
        · exact Or.inr (List.mem_cons_of_mem _ h)

theorem ascending_insert [Std.TransOrd κ] [Std.LawfulEqOrd κ] (key : κ) (value : α)
    {entries : List (κ × α)} (h : Ascending entries) : Ascending (insert key value entries) := by
  induction entries with
  | nil => simp [insert, Ascending]
  | cons head rest ih =>
    obtain ⟨k, v⟩ := head
    have hrest : Ascending rest := (List.pairwise_cons.1 h).2
    have hhead : ∀ e ∈ rest, compare k e.1 = .lt := (List.pairwise_cons.1 h).1
    simp only [insert]
    split
    next hc =>
      refine List.pairwise_cons.2 ⟨?_, h⟩
      intro e he
      rcases List.mem_cons.1 he with he | he
      · exact he ▸ hc
      · exact Std.TransCmp.lt_trans hc (hhead e he)
    next hc =>
      have hk : key = k := Std.LawfulEqCmp.eq_of_compare hc
      exact List.pairwise_cons.2 ⟨fun e he => hk ▸ hhead e he, hrest⟩
    next hc =>
      refine List.pairwise_cons.2 ⟨?_, ih hrest⟩
      intro e he
      rcases mem_insert he with he | he
      · rw [he]
        exact Std.OrientedCmp.lt_of_gt hc
      · exact hhead e he

theorem ascending_erase (key : κ) {entries : List (κ × α)} (h : Ascending entries) :
    Ascending (erase key entries) := List.Pairwise.filter _ h

theorem ascending_insertAll [Std.TransOrd κ] [Std.LawfulEqOrd κ] (new : List (κ × α))
    {entries : List (κ × α)} (h : Ascending entries) : Ascending (insertAll new entries) := by
  induction new generalizing entries with
  | nil => exact h
  | cons e rest ih => exact ih (ascending_insert e.1 e.2 h)

/-! ## Lookups -/

theorem mem_of_find? [Std.LawfulEqOrd κ] {key : κ} {value : α} {entries : List (κ × α)}
    (h : find? key entries = some value) : (key, value) ∈ entries := by
  induction entries with
  | nil => simp [find?] at h
  | cons head rest ih =>
    obtain ⟨k, v⟩ := head
    simp only [find?, beq_iff_eq] at h
    split at h
    next hc =>
      have hk : key = k := Std.LawfulEqCmp.eq_of_compare hc
      have hv : v = value := Option.some.inj h
      subst hk hv
      exact List.mem_cons_self
    next => exact List.mem_cons_of_mem _ (ih h)

theorem find?_eq_none_iff [Std.LawfulEqOrd κ] (key : κ) (entries : List (κ × α)) :
    find? key entries = none ↔ ∀ e ∈ entries, e.1 ≠ key := by
  induction entries with
  | nil => simp [find?]
  | cons head rest ih =>
    obtain ⟨k, v⟩ := head
    simp only [find?, beq_iff_eq, List.forall_mem_cons]
    split
    next hc =>
      have hk : key = k := Std.LawfulEqCmp.eq_of_compare hc
      simp [hk]
    next hc =>
      have hk : k ≠ key := fun e => hc (e ▸ Std.ReflCmp.compare_self)
      simp [ih, hk]

/-- With every key once, a lookup finds whatever entry there is. -/
theorem find?_of_mem [Std.LawfulEqOrd κ] {key : κ} {value : α} {entries : List (κ × α)}
    (hd : (entries.map (·.1)).Nodup) (h : (key, value) ∈ entries) :
    find? key entries = some value := by
  induction entries with
  | nil => simp at h
  | cons head rest ih =>
    obtain ⟨k, v⟩ := head
    obtain ⟨hhead, hrest⟩ := List.nodup_cons.1 hd
    rcases List.mem_cons.1 h with he | hm
    · cases he
      simp [find?, Std.ReflCmp.compare_self]
    · have hk : key ≠ k := fun e => hhead (e ▸ List.mem_map.2 ⟨_, hm, rfl⟩)
      have hc : compare key k ≠ .eq := fun e => hk (Std.LawfulEqCmp.eq_of_compare e)
      simp [find?, hc, ih hrest hm]

theorem find?_insert_self [Std.ReflOrd κ] (key : κ) (value : α) (entries : List (κ × α)) :
    find? key (insert key value entries) = some value := by
  induction entries with
  | nil => simp [insert, find?, Std.ReflCmp.compare_self]
  | cons head rest ih =>
    obtain ⟨k, v⟩ := head
    simp only [insert]
    split
    · simp [find?, Std.ReflCmp.compare_self]
    · simp [find?, Std.ReflCmp.compare_self]
    next hc => simp [find?, hc, ih]

theorem find?_insert_ne [Std.LawfulEqOrd κ] {key other : κ} (h : other ≠ key) (value : α)
    (entries : List (κ × α)) : find? other (insert key value entries) = find? other entries := by
  have ho : compare other key ≠ .eq := fun e => h (Std.LawfulEqCmp.eq_of_compare e)
  induction entries with
  | nil => simp [insert, find?, ho]
  | cons head rest ih =>
    obtain ⟨k, v⟩ := head
    simp only [insert]
    split
    · simp [find?, ho]
    next hc =>
      have hk : key = k := Std.LawfulEqCmp.eq_of_compare hc
      subst hk
      simp [find?, ho]
    · simp [find?, ih]

theorem find?_erase_self (key : κ) (entries : List (κ × α)) :
    find? key (erase key entries) = none := by
  induction entries with
  | nil => rfl
  | cons head rest ih =>
    obtain ⟨k, v⟩ := head
    simp only [erase, List.filter_cons]
    split
    next hc =>
      have hc : compare key k ≠ .eq := by simpa using hc
      simp only [find?, beq_iff_eq, hc, if_false]
      exact ih
    next => exact ih

/-- Dropping entries by their keys does not change the lookup of a key that stays. -/
theorem find?_filter_of_pos [Std.LawfulEqOrd κ] {p : κ → Bool} {key : κ} (h : p key = true)
    (entries : List (κ × α)) :
    find? key (entries.filter fun e => p e.1) = find? key entries := by
  induction entries with
  | nil => rfl
  | cons head rest ih =>
    obtain ⟨k, v⟩ := head
    by_cases hc : compare key k = .eq
    · have hk : key = k := Std.LawfulEqCmp.eq_of_compare hc
      subst hk
      simp [h, find?]
    · rw [List.filter_cons]
      split
      · simp [find?, hc, ih]
      · simp [find?, hc, ih]

theorem find?_erase_ne [Std.LawfulEqOrd κ] {key other : κ} (h : other ≠ key)
    (entries : List (κ × α)) : find? other (erase key entries) = find? other entries := by
  have hp : (compare key other != .eq) = true := by
    have hc : compare key other ≠ .eq := fun e => h (Std.LawfulEqCmp.eq_of_compare e).symm
    simpa using hc
  exact find?_filter_of_pos (p := fun k => compare key k != .eq) hp entries

/-- The lookup in entries whose values have been replaced. -/
theorem find?_map_values [Std.LawfulEqOrd κ] {β : Type} (f : κ → α → β) (key : κ)
    (entries : List (κ × α)) :
    find? key (entries.map fun e => (e.1, f e.1 e.2)) = (find? key entries).map (f key) := by
  induction entries with
  | nil => rfl
  | cons head rest ih =>
    obtain ⟨k, v⟩ := head
    by_cases hc : compare key k = .eq
    · cases Std.LawfulEqCmp.eq_of_compare hc
      simp [find?]
    · simp [find?, hc, ih]

theorem nodup_keys [Std.ReflOrd κ] {entries : List (κ × α)} (h : Ascending entries) :
    (entries.map (·.1)).Nodup := by
  refine List.pairwise_map.2 (h.imp ?_)
  intro a b hab he
  have hself : compare b.1 b.1 = .eq := Std.ReflCmp.compare_self
  rw [he, hself] at hab
  exact Ordering.noConfusion hab

/-- What is there can be put in ascending order in one way only. -/
theorem eq_of_perm [Std.TransOrd κ] {β : Type} (key : β → κ) {a b : List β}
    (ha : a.Pairwise fun x y => compare (key x) (key y) = .lt)
    (hb : b.Pairwise fun x y => compare (key x) (key y) = .lt) (h : a.Perm b) : a = b := by
  refine List.Perm.eq_of_pairwise (fun x y _ _ hxy hyx => ?_) ha hb h
  -- no key is before one that is before it
  rw [Std.OrientedCmp.gt_iff_lt.2 hxy] at hyx
  cases hyx

/-- Ascending lists in which every key has the same value are the same. -/
theorem eq_of_find? [Std.TransOrd κ] [Std.LawfulEqOrd κ] {a b : List (κ × α)} (ha : Ascending a)
    (hb : Ascending b) (h : ∀ key, find? key a = find? key b) : a = b := by
  have hnodup : ∀ {entries : List (κ × α)}, Ascending entries → entries.Nodup := fun h =>
    List.Pairwise.of_map _ (fun _ _ hne heq => hne (congrArg Prod.fst heq)) (nodup_keys h)
  have hmem : ∀ {entries : List (κ × α)}, Ascending entries → ∀ e : κ × α,
      e ∈ entries ↔ find? e.1 entries = some e.2 := fun h e =>
    ⟨find?_of_mem (nodup_keys h), mem_of_find?⟩
  have hperm : a.Perm b := (List.perm_ext_iff_of_nodup (hnodup ha) (hnodup hb)).2 fun e => by
    rw [hmem ha, hmem hb, h]
  exact eq_of_perm Prod.fst ha hb hperm

theorem find?_insertAll [Std.LawfulEqOrd κ] (key : κ) {new : List (κ × α)}
    (hd : (new.map (·.1)).Nodup) (entries : List (κ × α)) :
    find? key (insertAll new entries) = (find? key new).or (find? key entries) := by
  induction new generalizing entries with
  | nil => rfl
  | cons head rest ih =>
    obtain ⟨k, v⟩ := head
    obtain ⟨hhead, hrest⟩ := List.nodup_cons.1 hd
    have hstep := ih hrest (insert k v entries)
    rw [insertAll, List.foldl_cons]
    refine hstep.trans ?_
    by_cases hc : compare key k = .eq
    · have hk : key = k := Std.LawfulEqCmp.eq_of_compare hc
      subst hk
      have hnone : find? key rest = none :=
        (find?_eq_none_iff key rest).2 fun e he hk => hhead (hk ▸ List.mem_map.2 ⟨e, he, rfl⟩)
      simp [find?, hnone, find?_insert_self]
    · have hk : key ≠ k := fun e => hc (e ▸ Std.ReflCmp.compare_self)
      simp [find?, hc, find?_insert_ne hk]

/-! ## Ascending lists are in normal form -/

theorem insert_append_last [Std.OrientedOrd κ] {key : κ} {value : α} {entries : List (κ × α)}
    (h : Ascending (entries ++ [(key, value)])) :
    insert key value entries = entries ++ [(key, value)] := by
  induction entries with
  | nil => rfl
  | cons head rest ih =>
    obtain ⟨k, v⟩ := head
    obtain ⟨hhead, hrest⟩ := List.pairwise_cons.1 h
    have hlt : compare k key = .lt := hhead (key, value) (by simp)
    have hgt : compare key k = .gt := Std.OrientedCmp.gt_of_lt hlt
    simp [insert, hgt, ih hrest]

theorem insertAll_append [Std.OrientedOrd κ] {done rest : List (κ × α)}
    (h : Ascending (done ++ rest)) : insertAll rest done = done ++ rest := by
  induction rest generalizing done with
  | nil => simp [insertAll]
  | cons head rest ih =>
    have hassoc : done ++ head :: rest = (done ++ [head]) ++ rest := by simp
    have hdone : Ascending (done ++ [head]) := by
      rw [hassoc] at h
      exact (List.pairwise_append.1 h).1
    rw [insertAll, List.foldl_cons, insert_append_last hdone]
    rw [hassoc] at h ⊢
    exact ih h

/-- Entries in ascending order stay as they are. -/
theorem insertAll_nil [Std.OrientedOrd κ] {entries : List (κ × α)} (h : Ascending entries) :
    insertAll entries [] = entries := @insertAll_append κ α _ _ [] entries h

/-- Which keys there are after an insertion does not depend on the values. -/
theorem keys_insert (key : κ) (v w : α) {entries others : List (κ × α)}
    (h : entries.map (·.1) = others.map (·.1)) :
    (insert key v entries).map (·.1) = (insert key w others).map (·.1) := by
  induction entries generalizing others with
  | nil =>
    cases List.map_eq_nil_iff.1 h.symm
    rfl
  | cons head rest ih =>
    cases others with
    | nil => cases h
    | cons other others =>
      obtain ⟨hhead, hrest⟩ := List.cons_eq_cons.1 h
      simp only [insert, ← hhead]
      cases compare key head.1 with
      | lt => simp only [List.map_cons, hrest, hhead]
      | eq => simp only [List.map_cons, hrest]
      | gt => simp only [List.map_cons, ih hrest, hhead]

theorem keys_insertAll {new news entries others : List (κ × α)}
    (hnew : new.map (·.1) = news.map (·.1)) (h : entries.map (·.1) = others.map (·.1)) :
    (insertAll new entries).map (·.1) = (insertAll news others).map (·.1) := by
  induction new generalizing news entries others with
  | nil =>
    cases List.map_eq_nil_iff.1 hnew.symm
    exact h
  | cons e rest ih =>
    cases news with
    | nil => cases hnew
    | cons f news =>
      obtain ⟨key, v⟩ := e
      obtain ⟨other, w⟩ := f
      obtain ⟨hkey, hrest⟩ := List.cons_eq_cons.1 hnew
      have hkey : key = other := hkey
      subst hkey
      have hinserted := ih hrest (keys_insert key v w h)
      exact hinserted

end Assoc

/-- A finite map: entries in strictly ascending order of their keys. -/
structure SortedMap (κ α : Type) [Ord κ] where
  entries : List (κ × α)
  ascending : Assoc.Ascending entries

namespace SortedMap

variable {κ α : Type} [Ord κ]

def empty : SortedMap κ α := ⟨[], Assoc.ascending_nil⟩

instance : Inhabited (SortedMap κ α) := ⟨empty⟩

instance [DecidableEq κ] [DecidableEq α] : DecidableEq (SortedMap κ α) := fun a b =>
  if h : a.entries = b.entries then isTrue (by cases a; cases b; simp_all)
  else isFalse fun e => h (e ▸ rfl)

def isEmpty (m : SortedMap κ α) : Bool := m.entries.isEmpty

def size (m : SortedMap κ α) : Nat := m.entries.length

def keys (m : SortedMap κ α) : List κ := m.entries.map (·.1)

def values (m : SortedMap κ α) : List α := m.entries.map (·.2)

def get? (m : SortedMap κ α) (key : κ) : Option α := Assoc.find? key m.entries

def contains (m : SortedMap κ α) (key : κ) : Bool := (m.get? key).isSome

def erase (m : SortedMap κ α) (key : κ) : SortedMap κ α :=
  ⟨Assoc.erase key m.entries, Assoc.ascending_erase key m.ascending⟩

variable [Std.TransOrd κ] [Std.LawfulEqOrd κ]

def insert (m : SortedMap κ α) (key : κ) (value : α) : SortedMap κ α :=
  ⟨Assoc.insert key value m.entries, Assoc.ascending_insert key value m.ascending⟩

/-- All entries of both maps; those of `upper` win. -/
def merge (lower upper : SortedMap κ α) : SortedMap κ α :=
  ⟨Assoc.insertAll upper.entries lower.entries,
    Assoc.ascending_insertAll upper.entries lower.ascending⟩

/-- Later entries win over earlier ones with the same key. -/
def ofList (entries : List (κ × α)) : SortedMap κ α :=
  ⟨Assoc.insertAll entries [], Assoc.ascending_insertAll entries Assoc.ascending_nil⟩

theorem keys_ofList {entries others : List (κ × α)} (h : entries.map (·.1) = others.map (·.1)) :
    (ofList entries).keys = (ofList others).keys := Assoc.keys_insertAll h rfl

theorem entries_ofList {entries : List (κ × α)} (h : Assoc.Ascending entries) :
    (ofList entries).entries = entries := Assoc.insertAll_nil h

/-! ## Lookups -/

variable (m : SortedMap κ α) {key other : κ} (value : α)

@[simp] theorem get?_insert_self : (m.insert key value).get? key = some value :=
  Assoc.find?_insert_self key value m.entries

theorem get?_insert_ne (h : other ≠ key) : (m.insert key value).get? other = m.get? other :=
  Assoc.find?_insert_ne h value m.entries

omit [Std.TransOrd κ] [Std.LawfulEqOrd κ] in
@[simp] theorem get?_erase_self : (m.erase key).get? key = none :=
  Assoc.find?_erase_self key m.entries

omit [Std.TransOrd κ] in
theorem get?_erase_ne (h : other ≠ key) : (m.erase key).get? other = m.get? other :=
  Assoc.find?_erase_ne h m.entries

theorem get?_merge (lower upper : SortedMap κ α) :
    (lower.merge upper).get? key = (upper.get? key).or (lower.get? key) :=
  Assoc.find?_insertAll key (Assoc.nodup_keys upper.ascending) lower.entries

/-- Entries with different keys are all found. -/
theorem get?_ofList {entries : List (κ × α)} (hd : (entries.map (·.1)).Nodup) :
    (ofList entries).get? key = Assoc.find? key entries :=
  (Assoc.find?_insertAll key hd []).trans (Option.or_none ..)

theorem ofList_entries : ofList m.entries = m := by
  cases m with
  | mk entries ascending => simp [ofList, Assoc.insertAll_nil ascending]

end SortedMap

/-- Text values under text keys: labels, annotations, node selectors, data entries. -/
abbrev StringMap := SortedMap String String

end MeshOperator
