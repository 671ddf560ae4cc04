import MeshOperator.Json.Basic

/-!
Canonical values.

A value is canonical if its lists and objects hold canonical values, the names of its members
ascend, and its floats are finite: the reader returns no other values, and no other value has a
text. Being canonical can be decided.
-/

namespace MeshOperator

set_option autoImplicit false

namespace Assoc

variable {κ α : Type} [Ord κ]

/-- Whether entries ascend is a matter of their keys. -/
theorem ascending_iff_keys (entries : List (κ × α)) :
    Ascending entries ↔ (entries.map (·.1)).Pairwise fun a b => compare a b = .lt := by
  rw [Ascending, List.pairwise_map]

instance (entries : List (κ × α)) : Decidable (Ascending entries) :=
  inferInstanceAs (Decidable (entries.Pairwise fun a b => compare a.1 b.1 = .lt))

theorem ascending_filterMap {entries : List (κ × Option α)} (h : Ascending entries) :
    Ascending (entries.filterMap fun e => e.2.map fun v => (e.1, v)) := by
  refine List.Pairwise.filterMap _ ?_ h
  intro a b hab a' ha b' hb
  obtain ⟨v, -, rfl⟩ := Option.map_eq_some_iff.1 ha
  obtain ⟨w, -, rfl⟩ := Option.map_eq_some_iff.1 hb
  exact hab

theorem forall_mem_insertAll {P : κ × α → Prop} {new entries : List (κ × α)}
    (hnew : ∀ e ∈ new, P e) (h : ∀ e ∈ entries, P e) : ∀ e ∈ insertAll new entries, P e := by
  induction new generalizing entries with
  | nil => exact h
  | cons head rest ih =>
    refine ih (fun e he => hnew e (List.mem_cons_of_mem _ he)) ?_
    intro e he
    rcases mem_insert he with rfl | he
    · exact hnew _ List.mem_cons_self
    · exact h e he

end Assoc

namespace Json

theorem canonicalItems_iff (items : List Json) :
    CanonicalItems items ↔ ∀ v ∈ items, v.Canonical := by
  induction items with
  | nil => simp [CanonicalItems]
  | cons v rest ih => simp [CanonicalItems, ih]

theorem canonicalMembers_iff (members : Members) :
    CanonicalMembers members ↔ ∀ m ∈ members, m.2.Canonical := by
  induction members with
  | nil => simp [CanonicalMembers]
  | cons m rest ih => simp [CanonicalMembers, ih]

@[simp] theorem canonical_null : Canonical .null := trivial

@[simp] theorem canonical_bool (b : Bool) : Canonical (.bool b) := trivial

@[simp] theorem canonical_int (n : Int) : Canonical (.int n) := trivial

@[simp] theorem canonical_str (s : String) : Canonical (.str s) := trivial

@[simp] theorem canonical_arr (items : List Json) :
    Canonical (.arr items) ↔ ∀ v ∈ items, v.Canonical := canonicalItems_iff items

@[simp] theorem canonical_obj (members : Members) :
    Canonical (.obj members) ↔ Assoc.Ascending members ∧ ∀ m ∈ members, m.2.Canonical :=
  and_congr_right fun _ => canonicalMembers_iff members

@[simp] theorem canonical_strings (items : List String) : (strings items).Canonical := by
  simp [strings]

theorem canonical_texts {entries : List (String × String)} (h : Assoc.Ascending entries)
    (f : String → String) : Canonical (.obj (entries.map fun e => (e.1, .str (f e.2)))) := by
  rw [canonical_obj]
  constructor
  · exact List.pairwise_map.2 h
  · intro m hm
    obtain ⟨e, -, rfl⟩ := List.mem_map.1 hm
    exact canonical_str _

@[simp] theorem canonical_ofStringMap (m : StringMap) : (ofStringMap m).Canonical :=
  canonical_texts m.ascending id

theorem canonical_present {fields : List (String × Option Json)} (h : Assoc.Ascending fields)
    (hv : ∀ f ∈ fields, ∀ v ∈ f.2, v.Canonical) : (present fields).Canonical := by
  rw [present, canonical_obj]
  constructor
  · exact Assoc.ascending_filterMap h
  · intro m hm
    obtain ⟨f, hf, hfm⟩ := List.mem_filterMap.1 hm
    obtain ⟨v, hfv, rfl⟩ := Option.map_eq_some_iff.1 hfm
    exact hv f hf v hfv

theorem canonical_mem_some (w : Json) : (∀ v ∈ some w, v.Canonical) ↔ w.Canonical := by simp

theorem canonical_mem_map {α : Type} (a : Option α) (f : α → Json) :
    (∀ v ∈ a.map f, v.Canonical) ↔ ∀ x ∈ a, (f x).Canonical := by
  cases a <;> simp

theorem canonical_object {members : Members} (h : ∀ m ∈ members, m.2.Canonical) :
    (object members).Canonical := by
  rw [object, canonical_obj]
  exact ⟨Assoc.ascending_insertAll members Assoc.ascending_nil,
    Assoc.forall_mem_insertAll h (by simp)⟩

theorem Canonical.find? {members : Members} (h : Canonical (.obj members)) {name : String}
    {v : Json} (hv : Assoc.find? name members = some v) : v.Canonical :=
  ((canonical_obj members).1 h).2 _ (Assoc.mem_of_find? hv)

/-! ## Deciding -/

mutual

def decideCanonical : (v : Json) → Decidable v.Canonical
  | .null | .bool _ | .int _ | .str _ => .isTrue trivial
  | .float x => inferInstanceAs (Decidable (x.isFinite = true))
  | .arr items => decideCanonicalItems items
  | .obj members =>
    have := decideCanonicalMembers members
    inferInstanceAs (Decidable (Assoc.Ascending members ∧ CanonicalMembers members))

def decideCanonicalItems : (items : List Json) → Decidable (CanonicalItems items)
  | [] => .isTrue trivial
  | item :: rest =>
    have := decideCanonical item
    have := decideCanonicalItems rest
    inferInstanceAs (Decidable (item.Canonical ∧ CanonicalItems rest))

def decideCanonicalMembers : (members : Members) → Decidable (CanonicalMembers members)
  | [] => .isTrue trivial
  | (_, value) :: rest =>
    have := decideCanonical value
    have := decideCanonicalMembers rest
    inferInstanceAs (Decidable (value.Canonical ∧ CanonicalMembers rest))

end

instance : DecidablePred Canonical := decideCanonical

/-- A value that is kept as it is. -/
abbrev Raw := { v : Json // v.Canonical }

/-- A value other than `null` that is kept as it is. -/
abbrev Given := { v : Json // v.Canonical ∧ v.isNull = false }

theorem canonical_given (v : Given) : v.val.Canonical := v.property.1

def asGiven? (v : Json) : Option Given :=
  if h : v.Canonical ∧ v.isNull = false then some ⟨v, h⟩ else none

end Json

end MeshOperator
