import MeshOperator.Json.Canonical
import MeshOperator.ReadAll

/-!
Shapes of structured values, and pruning.

A shape says which values a field may have. `Shape.prune` checks a value against a shape and
brings it to normal form: members that the shape does not name are dropped, a `null` member counts
as absent, and a required member that is absent gets its default. A `Pruned` value is one in normal
form.

The normal form of a well-formed shape is canonical, and pruning it again changes nothing.
-/

namespace MeshOperator

set_option autoImplicit false

inductive Shape where
  | text
  | flag
  | whole (low high : Int)
  | list (item : Shape)
  /-- An object with arbitrary names over values of one shape. -/
  | dict (value : Shape)
  /-- An object with the given members in ascending order of their names. A member with a default
  is required. -/
  | object (fields : List (String × Option Json × Shape))
  deriving Inhabited

namespace Shape

mutual

def prune : Shape → Json → Option Json
  | .text => fun v => match v with
    | .str s => some (.str s)
    | _ => none
  | .flag => fun v => match v with
    | .bool b => some (.bool b)
    | _ => none
  | .whole low high => fun v => match v with
    | .int n => if low ≤ n ∧ n ≤ high then some (.int n) else none
    | _ => none
  | .list item => fun v => match v with
    | .arr items => (items.mapM (prune item)).map .arr
    | _ => none
  | .dict value => fun v => match v with
    | .obj members =>
      (members.mapM fun (m : String × Json) => (prune value m.2).map fun w => (m.1, w)).map
        Json.object
    | _ => none
  | .object fields => fun v => match v with
    | .obj members => (pruneFields fields members).map .obj
    | _ => none

def pruneFields : List (String × Option Json × Shape) → Json.Members → Option Json.Members
  | [], _ => some []
  | (name, default, shape) :: rest, members => do
    let tail ← pruneFields rest members
    match Assoc.find? name members with
    | none | some .null =>
      match default with
      | none => some tail
      | some d => some ((name, d) :: tail)
    | some v =>
      let w ← prune shape v
      some ((name, w) :: tail)

end

def int32 : Shape := .whole (-2147483648) 2147483647

def int64 : Shape := .whole (-9223372036854775808) 9223372036854775807

def texts : Shape := .list .text

def textMap : Shape := .dict .text

def optional (name : String) (shape : Shape) : String × Option Json × Shape := (name, none, shape)

/-- A text that is empty unless given. -/
def requiredText (name : String) : String × Option Json × Shape := (name, some (.str ""), .text)

/-- A list that is empty unless given. -/
def requiredList (name : String) (item : Shape) : String × Option Json × Shape :=
  (name, some (.arr []), .list item)

/-! ## Normal form -/

mutual

/-- Members are named in ascending order, and defaults are in normal form. -/
def WellFormed : Shape → Prop
  | .text | .flag | .whole _ _ => True
  | .list item => item.WellFormed
  | .dict value => value.WellFormed
  | .object fields =>
    ((fields.map (·.1)).Pairwise fun a b => compare a b = .lt) ∧ WellFormedFields fields

def WellFormedFields : List (String × Option Json × Shape) → Prop
  | [] => True
  | (_, default, shape) :: rest =>
    (∀ d ∈ default, shape.prune d = some d) ∧ shape.WellFormed ∧ WellFormedFields rest

end

theorem wellFormed_object {fields : List (String × Option Json × Shape)}
    (ho : (fields.map (·.1)).Pairwise fun a b => compare a b = .lt)
    (hf : WellFormedFields fields) : (object fields).WellFormed := ⟨ho, hf⟩

@[simp] theorem wellFormed_texts : texts.WellFormed := trivial

@[simp] theorem wellFormed_textMap : textMap.WellFormed := trivial

@[simp] theorem wellFormed_int32 : int32.WellFormed := trivial

@[simp] theorem wellFormed_int64 : int64.WellFormed := trivial

section Fields

variable (name : String) (shape : Shape) (rest : List (String × Option Json × Shape))

@[simp] theorem wellFormedFields_nil : WellFormedFields [] := trivial

@[simp] theorem wellFormedFields_default (d : Json) :
    WellFormedFields ((name, some d, shape) :: rest) ↔
      shape.prune d = some d ∧ shape.WellFormed ∧ WellFormedFields rest := by
  simp [WellFormedFields]

@[simp] theorem wellFormedFields_optional :
    WellFormedFields (optional name shape :: rest) ↔ shape.WellFormed ∧ WellFormedFields rest := by
  simp [WellFormedFields, optional]

@[simp] theorem wellFormedFields_requiredText :
    WellFormedFields (requiredText name :: rest) ↔ WellFormedFields rest := by
  simp [WellFormedFields, requiredText, WellFormed, prune]

@[simp] theorem wellFormedFields_requiredList :
    WellFormedFields (requiredList name shape :: rest) ↔
      shape.WellFormed ∧ WellFormedFields rest := by
  simp [WellFormedFields, requiredList, WellFormed, prune]

end Fields

/-- How the value of a member comes about: pruned, the default, or not at all. -/
theorem pruneFields_cons {name : String} {default : Option Json} {shape : Shape}
    {rest : List (String × Option Json × Shape)} {members out : Json.Members}
    (h : pruneFields ((name, default, shape) :: rest) members = some out) :
    ∃ tail, pruneFields rest members = some tail ∧
      ((default = none ∧ out = tail) ∨
        ∃ w, out = (name, w) :: tail ∧ (default = some w ∨ ∃ v, shape.prune v = some w)) := by
  simp only [pruneFields, Option.bind_eq_bind, Option.bind_eq_some_iff] at h
  obtain ⟨tail, htail, h⟩ := h
  refine ⟨tail, htail, ?_⟩
  split at h
  · split at h
    · exact .inl ⟨rfl, (Option.some.inj h).symm⟩
    · exact .inr ⟨_, (Option.some.inj h).symm, .inl rfl⟩
  · split at h
    · exact .inl ⟨rfl, (Option.some.inj h).symm⟩
    · exact .inr ⟨_, (Option.some.inj h).symm, .inl rfl⟩
  · obtain ⟨w, hw, h⟩ := Option.bind_eq_some_iff.1 h
    exact .inr ⟨w, (Option.some.inj h).symm, .inr ⟨_, hw⟩⟩

/-- Pruning keeps the order in which the shape names members. -/
theorem keys_pruneFields {fields : List (String × Option Json × Shape)}
    {members out : Json.Members} (h : pruneFields fields members = some out) :
    (out.map (·.1)).Sublist (fields.map (·.1)) := by
  induction fields generalizing out with
  | nil =>
    simp only [pruneFields, Option.some.injEq] at h
    subst h
    exact .slnil
  | cons field rest ih =>
    obtain ⟨name, default, shape⟩ := field
    obtain ⟨tail, htail, ⟨-, rfl⟩ | ⟨w, rfl, -⟩⟩ := pruneFields_cons h
    · exact (ih htail).cons _
    · exact (ih htail).cons_cons _

theorem prune_ne_null {s : Shape} {v : Json} (h : s.prune v = some .null) : False := by
  cases s <;> cases v <;>
    simp only [prune, Option.map_eq_some_iff, reduceCtorEq, Json.object, Option.some.injEq,
      and_false, exists_false] at h
  split at h <;> cases h

mutual

theorem canonical_prune : (s : Shape) → s.WellFormed → ∀ v w, s.prune v = some w → w.Canonical
  | .text, _, v, w, h => by
    cases v <;> simp only [prune, Option.some.injEq, reduceCtorEq] at h
    subst h
    exact Json.canonical_str _
  | .flag, _, v, w, h => by
    cases v <;> simp only [prune, Option.some.injEq, reduceCtorEq] at h
    subst h
    exact Json.canonical_bool _
  | .whole low high, _, v, w, h => by
    cases v <;> simp only [prune, reduceCtorEq] at h
    split at h
    · cases h
      exact Json.canonical_int _
    · cases h
  | .list item, hs, v, w, h => by
    cases v <;> simp only [prune, Option.map_eq_some_iff, reduceCtorEq] at h
    obtain ⟨out, hout, rfl⟩ := h
    rw [Json.canonical_arr]
    intro x hx
    obtain ⟨y, -, hy⟩ := ReadAll.exists_of_mem hout hx
    exact canonical_prune item hs y x hy
  | .dict value, hs, v, w, h => by
    cases v <;> simp only [prune, Option.map_eq_some_iff, reduceCtorEq] at h
    obtain ⟨out, hout, rfl⟩ := h
    refine Json.canonical_object fun m hm => ?_
    obtain ⟨e, -, he⟩ := ReadAll.exists_of_mem hout hm
    obtain ⟨x, hx, rfl⟩ := Option.map_eq_some_iff.1 he
    exact canonical_prune value hs e.2 x hx
  | .object fields, hs, v, w, h => by
    cases v <;> simp only [prune, Option.map_eq_some_iff, reduceCtorEq] at h
    obtain ⟨out, hout, rfl⟩ := h
    rw [Json.canonical_obj, Assoc.ascending_iff_keys]
    exact ⟨hs.1.sublist (keys_pruneFields hout), canonical_pruneFields fields hs.2 _ out hout⟩

theorem canonical_pruneFields : (fields : List (String × Option Json × Shape)) →
    WellFormedFields fields → ∀ members out, pruneFields fields members = some out →
      ∀ m ∈ out, m.2.Canonical
  | [], _, members, out, h => by
    simp only [pruneFields, Option.some.injEq] at h
    subst h
    simp
  | (name, default, shape) :: rest, ⟨hdefault, hshape, hrest⟩, members, out, h => by
    obtain ⟨tail, htail, ⟨-, rfl⟩ | ⟨w, rfl, hw⟩⟩ := pruneFields_cons h
    · exact canonical_pruneFields rest hrest members _ htail
    · have ih := canonical_pruneFields rest hrest members tail htail
      rcases hw with rfl | ⟨v, hv⟩
      · exact List.forall_mem_cons.2 ⟨canonical_prune shape hshape w w (hdefault w rfl), ih⟩
      · exact List.forall_mem_cons.2 ⟨canonical_prune shape hshape v w hv, ih⟩

end

/-- Members that the shape does not name play no part. -/
theorem pruneFields_skip {fields : List (String × Option Json × Shape)} {name : String}
    (h : name ∉ fields.map (·.1)) (value : Json) (members : Json.Members) :
    pruneFields fields ((name, value) :: members) = pruneFields fields members := by
  induction fields with
  | nil => rfl
  | cons field rest ih =>
    obtain ⟨other, default, shape⟩ := field
    simp only [List.map_cons, List.mem_cons, not_or] at h
    have hc : compare other name ≠ .eq := fun e => h.1 (Std.LawfulEqCmp.eq_of_compare e).symm
    simp only [pruneFields, ih h.2, Assoc.find?, beq_iff_eq, hc, if_false]

mutual

/-- Pruning a value in normal form changes nothing. -/
theorem prune_prune : (s : Shape) → s.WellFormed → ∀ v w, s.prune v = some w → s.prune w = some w
  | .text, _, v, w, h => by
    cases v <;> simp only [prune, Option.some.injEq, reduceCtorEq] at h
    subst h
    rfl
  | .flag, _, v, w, h => by
    cases v <;> simp only [prune, Option.some.injEq, reduceCtorEq] at h
    subst h
    rfl
  | .whole low high, _, v, w, h => by
    cases v <;> simp only [prune, reduceCtorEq] at h
    split at h
    next hb =>
      cases h
      simp [prune, hb]
    · cases h
  | .list item, hs, v, w, h => by
    cases v <;> simp only [prune, Option.map_eq_some_iff, reduceCtorEq] at h
    obtain ⟨out, hout, rfl⟩ := h
    have hsame : out.mapM item.prune = some out := by
      refine ReadAll.of_fixed fun x hx => ?_
      obtain ⟨y, -, hy⟩ := ReadAll.exists_of_mem hout hx
      exact prune_prune item hs y x hy
    simp [prune, hsame]
  | .dict value, hs, v, w, h => by
    cases v <;> simp only [prune, Option.map_eq_some_iff, reduceCtorEq] at h
    obtain ⟨out, hout, rfl⟩ := h
    have hvalues : ∀ m ∈ out, value.prune m.2 = some m.2 := by
      intro m hm
      obtain ⟨e, -, he⟩ := ReadAll.exists_of_mem hout hm
      obtain ⟨x, hx, rfl⟩ := Option.map_eq_some_iff.1 he
      exact prune_prune value hs e.2 x hx
    have hsorted : ∀ m ∈ Assoc.insertAll out [], value.prune m.2 = some m.2 :=
      Assoc.forall_mem_insertAll hvalues (by simp)
    have hsame : ((Assoc.insertAll out []).mapM fun (m : String × Json) =>
        (value.prune m.2).map fun w => (m.1, w)) = some (Assoc.insertAll out []) :=
      ReadAll.of_fixed fun m hm => by rw [hsorted m hm]; rfl
    have hasc := Assoc.ascending_insertAll out Assoc.ascending_nil
    simp only [Json.object, prune, hsame, Option.map_some, Assoc.insertAll_nil hasc]
  | .object fields, hs, v, w, h => by
    cases v <;> simp only [prune, Option.map_eq_some_iff, reduceCtorEq] at h
    obtain ⟨out, hout, rfl⟩ := h
    simp [prune, pruneFields_pruneFields fields hs.1 hs.2 _ out hout]

theorem pruneFields_pruneFields : (fields : List (String × Option Json × Shape)) →
    ((fields.map (·.1)).Pairwise fun a b => compare a b = .lt) → WellFormedFields fields →
      ∀ members out, pruneFields fields members = some out → pruneFields fields out = some out
  | [], _, _, members, out, h => by
    simp only [pruneFields, Option.some.injEq] at h
    subst h
    rfl
  | (name, default, shape) :: rest, ho, ⟨hdefault, hshape, hrest⟩, members, out, h => by
    obtain ⟨hname, hordered⟩ := List.pairwise_cons.1 ho
    have hfresh : name ∉ rest.map (·.1) := fun hm => by
      have hlt := hname name hm
      simp at hlt
    obtain ⟨tail, htail, hout⟩ := pruneFields_cons h
    have ih := pruneFields_pruneFields rest hordered hrest members tail htail
    rcases hout with ⟨rfl, rfl⟩ | ⟨w, rfl, hw⟩
    · have hnone : Assoc.find? name out = none := by
        rw [Assoc.find?_eq_none_iff]
        intro e he hk
        exact hfresh ((keys_pruneFields htail).subset (hk ▸ List.mem_map_of_mem he))
      simp [pruneFields, ih, hnone]
    · have hprune : shape.prune w = some w := by
        rcases hw with rfl | ⟨v, hv⟩
        · exact hdefault w rfl
        · exact prune_prune shape hshape v w hv
      have hnull : w ≠ .null := fun e => prune_ne_null (e ▸ hprune)
      have hfind : Assoc.find? name ((name, w) :: tail) = some w := by
        simp [Assoc.find?]
      simp only [pruneFields, pruneFields_skip hfresh, ih, hfind, Option.bind_eq_bind,
        Option.bind_some, hprune]

end

end Shape

/-- A value in the normal form of a shape: what pruning makes of some value. -/
structure Pruned (s : Shape) where
  value : Json
  isPruned : ∃ v, s.prune v = some value

namespace Pruned

variable {s : Shape}

def ofJson? (v : Json) : Option (Pruned s) :=
  match h : s.prune v with
  | none => none
  | some w => some ⟨w, v, h⟩

theorem ext_value {a b : Pruned s} (h : a.value = b.value) : a = b := by
  cases a
  cases b
  cases h
  rfl

theorem canonical (hs : s.WellFormed) (p : Pruned s) : p.value.Canonical := by
  obtain ⟨v, hv⟩ := p.isPruned
  exact Shape.canonical_prune s hs v p.value hv

theorem ofJson?_value (hs : s.WellFormed) (p : Pruned s) : ofJson? p.value = some p := by
  obtain ⟨v, hv⟩ := p.isPruned
  have hsame : s.prune p.value = some p.value := Shape.prune_prune s hs v p.value hv
  unfold ofJson?
  split
  next h => simp [hsame] at h
  next w h =>
    have hw : w = p.value := by
      rw [hsame] at h
      exact (Option.some.inj h).symm
    exact congrArg some (ext_value hw)

theorem value_ne_null (p : Pruned s) : p.value ≠ .null := by
  obtain ⟨v, hv⟩ := p.isPruned
  exact fun h => Shape.prune_ne_null (h ▸ hv)

end Pruned

end MeshOperator
