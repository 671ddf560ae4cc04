import MeshOperator.Json.Canonical
import MeshOperator.ReadAll

/-!
Fields that are written and read back.

A structure is written field by field under different names, and each field is read back by its
name. So a structure comes back as it was if each of its fields does.
-/

namespace MeshOperator

set_option autoImplicit false

namespace Json

/-! ## Single values -/

theorem asStringMap?_ofStringMap (m : StringMap) : asStringMap? (ofStringMap m) = some m := by
  have hread : (m.entries.map fun e => (e.1, Json.str e.2)).mapM
      (fun (m : String × Json) => m.2.asString?.map fun s => (m.1, s)) = some m.entries :=
    ReadAll.of_written fun e _ => rfl
  rw [ofStringMap, asStringMap?, hread, Option.map_some, SortedMap.ofList_entries]

theorem asStrings?_strings (items : List String) : asStrings? (strings items) = some items :=
  ReadAll.of_written fun _ _ => rfl

theorem asList?_arr {α : Type} {read : Json → Option α} {write : α → Json} {items : List α}
    (h : ∀ a ∈ items, read (write a) = some a) :
    asList? read (.arr (items.map write)) = some items := ReadAll.of_written h

theorem asInt32?_toInt (n : Int32) : asInt32? (.int n.toInt) = some n := by
  have hlow := n.le_toInt
  have hhigh := n.toInt_lt
  have hb : (-2147483648 : Int) ≤ n.toInt ∧ n.toInt ≤ 2147483647 := by omega
  simp only [asInt32?, asInt?, hb, and_self, if_true, Option.map_some, Int32.ofInt_toInt]

theorem asInt64?_toInt (n : Int64) : asInt64? (.int n.toInt) = some n := by
  have hlow := n.le_toInt
  have hhigh := n.toInt_lt
  have hb : (-9223372036854775808 : Int) ≤ n.toInt ∧ n.toInt ≤ 9223372036854775807 := by omega
  simp only [asInt64?, asInt?, hb, and_self, if_true, Option.map_some, Int64.ofInt_toInt]

theorem asGiven?_val (v : Given) : asGiven? v.val = some v := dif_pos v.property

/-! ## Members -/

section Fields

variable {α : Type} {fields : List (String × Option Json)} {members : Members}

theorem find?_presentMembers (ha : Assoc.Ascending fields) {name : String} {v : Option Json}
    (h : (name, v) ∈ fields) : Assoc.find? name (presentMembers fields) = v := by
  have hd : ((presentMembers fields).map (·.1)).Nodup :=
    Assoc.nodup_keys (Assoc.ascending_filterMap ha)
  cases v with
  | some value =>
    have hm : (name, value) ∈ presentMembers fields := List.mem_filterMap.2 ⟨_, h, rfl⟩
    exact Assoc.find?_of_mem hd hm
  | none =>
    rw [Assoc.find?_eq_none_iff]
    intro m hm hk
    obtain ⟨⟨other, w⟩, hf, hfm⟩ := List.mem_filterMap.1 hm
    obtain ⟨value, rfl, rfl⟩ := Option.map_eq_some_iff.1 hfm
    subst hk
    have hsame : Assoc.find? other fields = some (some value) :=
      Assoc.find?_of_mem (Assoc.nodup_keys ha) hf
    have hnone : Assoc.find? other fields = some none :=
      Assoc.find?_of_mem (Assoc.nodup_keys ha) h
    rw [hsame] at hnone
    cases hnone

theorem optionalField?_present (ha : Assoc.Ascending fields) {name : String} {field : Option α}
    (write : α → Json) {read : Json → Option α} (hf : (name, field.map write) ∈ fields)
    (hnull : ∀ a, write a ≠ .null) (hread : ∀ a ∈ field, read (write a) = some a) :
    optionalField? (presentMembers fields) name read = some field := by
  have hfind := find?_presentMembers ha hf
  cases field with
  | none => simp only [optionalField?, hfind, Option.map_none, optional?]
  | some a =>
    have hne : write a ≠ .null := hnull a
    have hsome : read (write a) = some a := hread a rfl
    simp only [optionalField?, hfind, Option.map_some, optional?, hsome]

/-- A field of which nothing is written while it has its default. -/
theorem fieldOr?_present (ha : Assoc.Ascending fields) {name : String} {value default : α}
    {written : Option Json} {read : Json → Option α} (hf : (name, written) ∈ fields)
    (habsent : written = none → value = default) (hread : ∀ v ∈ written, read v = some value) :
    fieldOr? (presentMembers fields) name default read = some value := by
  have hfind := find?_presentMembers ha hf
  cases written with
  | none => rw [fieldOr?, hfind, orDefault?, habsent rfl]
  | some v => rw [fieldOr?, hfind, orDefault?, hread v rfl]

end Fields

end Json

end MeshOperator
