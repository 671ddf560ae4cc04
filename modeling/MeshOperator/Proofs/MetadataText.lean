import MeshOperator.Object.Metadata
import MeshOperator.Proofs.FieldText
import MeshOperator.Proofs.TimestampText

/-!
Metadata, written and read back.

Metadata whose timestamps can be read comes back as it was; any other cannot be read at all.
-/

namespace MeshOperator

set_option autoImplicit false

/-! ## Single fields -/

namespace Json

theorem asTimestamp?_str (s : String) : asTimestamp? (.str s) = Timestamp.parse? s := by
  rw [asTimestamp?, asString?, Option.bind_some]

section Fields

variable {fields : List (String × Option Json)} (ha : Assoc.Ascending fields) {name : String}

include ha

theorem optionalText_present {field : Option String} (hf : (name, field.map str) ∈ fields) :
    optionalField? (presentMembers fields) name asString? = some field :=
  optionalField?_present ha str hf (fun _ => Json.noConfusion) (fun _ _ => rfl)

theorem optionalFlag_present {field : Option Bool} (hf : (name, field.map bool) ∈ fields) :
    optionalField? (presentMembers fields) name asBool? = some field :=
  optionalField?_present ha bool hf (fun _ => Json.noConfusion) (fun _ _ => rfl)

theorem textField?_present {s : String} (hf : (name, some (str s)) ∈ fields) :
    textField? (presentMembers fields) name = some s := by
  have hread : optionalField? (presentMembers fields) name asString? = some (some s) :=
    optionalText_present ha hf
  rw [textField?, hread, Option.map_some, Option.getD_some]

theorem optionalInt64_present {field : Option Int64}
    (hf : (name, field.map fun n => int n.toInt) ∈ fields) :
    optionalField? (presentMembers fields) name asInt64? = some field :=
  optionalField?_present ha (fun n : Int64 => int n.toInt) hf (fun _ => Json.noConfusion)
    (fun n _ => asInt64?_toInt n)

theorem optionalTexts_present {field : Option (List String)}
    (hf : (name, field.map strings) ∈ fields) :
    optionalField? (presentMembers fields) name asStrings? = some field :=
  optionalField?_present ha strings hf (fun _ => Json.noConfusion)
    (fun items _ => asStrings?_strings items)

theorem optionalList_present {α : Type} (write : α → Json) {read : Json → Option α}
    {field : Option (List α)} (hf : (name, field.map fun items => arr (items.map write)) ∈ fields)
    (h : ∀ items ∈ field, ∀ a ∈ items, read (write a) = some a) :
    optionalField? (presentMembers fields) name (asList? read) = some field :=
  optionalField?_present ha (fun items => arr (items.map write)) hf (fun _ => Json.noConfusion)
    (fun items hi => asList?_arr (h items hi))

theorem optionalMap_present {field : Option StringMap}
    (hf : (name, field.map ofStringMap) ∈ fields) :
    optionalField? (presentMembers fields) name asStringMap? = some field :=
  optionalField?_present ha ofStringMap hf (fun _ => Json.noConfusion)
    (fun m _ => asStringMap?_ofStringMap m)

theorem optionalGiven_present {field : Option Given}
    (hf : (name, field.map fun v => v.val) ∈ fields) :
    optionalField? (presentMembers fields) name asGiven? = some field := by
  refine optionalField?_present ha (fun v : Given => v.val) hf ?_ (fun v _ => asGiven?_val v)
  intro v hv
  have hnull := v.property.2
  rw [hv] at hnull
  exact Bool.noConfusion hnull

theorem optionalTimestamp_present {field : Option Timestamp}
    (hf : (name, field.map fun t => str t.text) ∈ fields) :
    optionalField? (presentMembers fields) name asTimestamp? = some field := by
  refine optionalField?_present ha (fun t => str t.text) hf (fun _ => Json.noConfusion) ?_
  intro t _
  rw [asTimestamp?_str, t.parse?_text]

end Fields

end Json

/-! ## Owners and managers -/

namespace OwnerReference

theorem ofJson?_toJson (o : OwnerReference) : ofJson? o.toJson = some o := by
  have ha := o.ascending_fields
  have hversion : Json.textField? (Json.presentMembers o.fields) "apiVersion" = some o.apiVersion :=
    Json.textField?_present ha (by simp [fields])
  have hblock : Json.optionalField? (Json.presentMembers o.fields) "blockOwnerDeletion"
      Json.asBool? = some o.blockOwnerDeletion :=
    Json.optionalFlag_present ha (by simp [fields])
  have hcontroller : Json.optionalField? (Json.presentMembers o.fields) "controller"
      Json.asBool? = some o.controller :=
    Json.optionalFlag_present ha (by simp [fields])
  have hkind : Json.textField? (Json.presentMembers o.fields) "kind" = some o.kind :=
    Json.textField?_present ha (by simp [fields])
  have hname : Json.textField? (Json.presentMembers o.fields) "name" = some o.name :=
    Json.textField?_present ha (by simp [fields])
  have huid : Json.textField? (Json.presentMembers o.fields) "uid" = some o.uid :=
    Json.textField?_present ha (by simp [fields])
  simp only [toJson, Json.present, ofJson?, hversion, hblock, hcontroller, hkind, hname, huid,
    Option.bind_eq_bind, Option.bind_some]

end OwnerReference

namespace ManagedFields

theorem ofJson?_toJson (f : ManagedFields) : ofJson? f.toJson = some f := by
  have ha := f.ascending_fields
  have hversion : Json.optionalField? (Json.presentMembers f.fields) "apiVersion" Json.asString?
      = some f.apiVersion := Json.optionalText_present ha (by simp [fields])
  have htype : Json.optionalField? (Json.presentMembers f.fields) "fieldsType" Json.asString?
      = some f.fieldsType := Json.optionalText_present ha (by simp [fields])
  have hgiven : Json.optionalField? (Json.presentMembers f.fields) "fieldsV1" Json.asGiven?
      = some f.fieldsV1 := Json.optionalGiven_present ha (by simp [fields])
  have hmanager : Json.optionalField? (Json.presentMembers f.fields) "manager" Json.asString?
      = some f.manager := Json.optionalText_present ha (by simp [fields])
  have hoperation : Json.optionalField? (Json.presentMembers f.fields) "operation" Json.asString?
      = some f.operation := Json.optionalText_present ha (by simp [fields])
  have hsubresource : Json.optionalField? (Json.presentMembers f.fields) "subresource"
      Json.asString? = some f.subresource := Json.optionalText_present ha (by simp [fields])
  have htime : Json.optionalField? (Json.presentMembers f.fields) "time" Json.asTimestamp?
      = some f.time := Json.optionalTimestamp_present ha (by simp [fields])
  simp only [toJson, Json.present, ofJson?, hversion, htype, hgiven, hmanager, hoperation,
    hsubresource, htime, Option.bind_eq_bind, Option.bind_some]

end ManagedFields

/-! ## Metadata -/

namespace Metadata

theorem ofJson?_toJson (m : Metadata) : ofJson? m.toJson = some m := by
  have ha := m.ascending_fields
  have hannotations : Json.optionalField? (Json.presentMembers m.fields) "annotations"
      Json.asStringMap? = some m.annotations := Json.optionalMap_present ha (by simp [fields])
  have hcreation : Json.optionalField? (Json.presentMembers m.fields) "creationTimestamp"
      Json.asTimestamp? = some m.creationTimestamp :=
    Json.optionalTimestamp_present ha (by simp [fields])
  have hgrace : Json.optionalField? (Json.presentMembers m.fields) "deletionGracePeriodSeconds"
      Json.asInt64? = some m.deletionGracePeriodSeconds :=
    Json.optionalInt64_present ha (by simp [fields])
  have hdeletion : Json.optionalField? (Json.presentMembers m.fields) "deletionTimestamp"
      Json.asTimestamp? = some m.deletionTimestamp :=
    Json.optionalTimestamp_present ha (by simp [fields])
  have hfinalizers : Json.optionalField? (Json.presentMembers m.fields) "finalizers"
      Json.asStrings? = some m.finalizers := Json.optionalTexts_present ha (by simp [fields])
  have hgenerate : Json.optionalField? (Json.presentMembers m.fields) "generateName"
      Json.asString? = some m.generateName := Json.optionalText_present ha (by simp [fields])
  have hgeneration : Json.optionalField? (Json.presentMembers m.fields) "generation"
      Json.asInt64? = some m.generation := Json.optionalInt64_present ha (by simp [fields])
  have hlabels : Json.optionalField? (Json.presentMembers m.fields) "labels"
      Json.asStringMap? = some m.labels := Json.optionalMap_present ha (by simp [fields])
  have hmanagers : Json.optionalField? (Json.presentMembers m.fields) "managedFields"
      (Json.asList? ManagedFields.ofJson?) = some m.managedFields :=
    Json.optionalList_present ha ManagedFields.toJson (by simp [fields])
      fun _ _ f _ => f.ofJson?_toJson
  have hname : Json.optionalField? (Json.presentMembers m.fields) "name" Json.asString?
      = some m.name := Json.optionalText_present ha (by simp [fields])
  have hns : Json.optionalField? (Json.presentMembers m.fields) "namespace" Json.asString?
      = some m.ns := Json.optionalText_present ha (by simp [fields])
  have howners : Json.optionalField? (Json.presentMembers m.fields) "ownerReferences"
      (Json.asList? OwnerReference.ofJson?) = some m.ownerReferences :=
    Json.optionalList_present ha OwnerReference.toJson (by simp [fields])
      fun _ _ o _ => o.ofJson?_toJson
  have hversion : Json.optionalField? (Json.presentMembers m.fields) "resourceVersion"
      Json.asString? = some m.resourceVersion := Json.optionalText_present ha (by simp [fields])
  have hlink : Json.optionalField? (Json.presentMembers m.fields) "selfLink" Json.asString?
      = some m.selfLink := Json.optionalText_present ha (by simp [fields])
  have huid : Json.optionalField? (Json.presentMembers m.fields) "uid" Json.asString?
      = some m.uid := Json.optionalText_present ha (by simp [fields])
  show ofMembers? (Json.presentMembers m.fields) = some m
  unfold ofMembers?
  rw [hannotations, hcreation, hgrace, hdeletion, hfinalizers, hgenerate, hgeneration, hlabels,
    hmanagers, hname, hns, howners, hversion, hlink, huid]
  rfl

end Metadata

end MeshOperator
