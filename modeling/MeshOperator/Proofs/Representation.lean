import MeshOperator.Proofs.MemoryHistory
import MeshOperator.Proofs.RecordWrites

/-!
What a store in memory makes sure of.

Whatever is done to a store, every object is kept under its own key and bears a unique identifier, a
time of creation and the number of the write that put it there. `Identified` is carried along the
run; the numbers come from the revision, which every write counts up, so a new one is greater than
all that were given out before.
-/

namespace MeshOperator

set_option autoImplicit false

/-- The object has a unique identifier and a time of creation. -/
structure Object.Identified (o : Object) : Prop where
  uid : o.metadata.uid.isSome
  creation : o.metadata.creationTimestamp.isSome

namespace Memory

/-! ## What is written is identified -/

section Identified

variable {m : Memory} {key : ObjectKey} {x stored : Object}

theorem identified_created (m : Memory) (key : ObjectKey) (x : Object) :
    (m.created key x).Identified := ⟨rfl, rfl⟩

theorem identified_replaced (h : stored.Identified) : (m.replaced key x stored).Identified :=
  ⟨h.uid, h.creation⟩

theorem identified_inserted (m : Memory) (x : Object) : (m.inserted x).Identified := by
  constructor <;> simp [inserted]

theorem identified_stamp (m : Memory) (h : x.Identified) : (m.stamp x).Identified :=
  ⟨h.uid, h.creation⟩

/-- What a call writes is identified, if all that is stored is. -/
theorem identified_call (hm : ∀ key o, m.objects.get? key = some o → o.Identified) {c : Call}
    (h : callEffect? c (m.answer c).1 = some (.wrote key x)) : x.Identified := by
  rcases m.answer_cases c with hrefused | hserved
  · rw [callEffect?_refused hrefused] at h
    cases h
  · generalize m.answer c = result at hserved h
    cases hserved with
    | get _ => cases h
    | list _ => cases h
    | delete _ => cases h
    | create hkey _ =>
      cases (callEffect?_create hkey).symm.trans h
      exact identified_stamp _ (identified_created m _ _)
    | replace hkey hget _ =>
      cases (callEffect?_replace hkey).symm.trans h
      exact identified_stamp m (identified_replaced (hm _ _ hget))
    | replaceStatus hkey hget _ =>
      cases (callEffect?_replaceStatus hkey).symm.trans h
      exact identified_stamp m ⟨(hm _ _ hget).uid, (hm _ _ hget).creation⟩

theorem identified_effect (hm : ∀ key o, m.objects.get? key = some o → o.Identified)
    {op : Operation} (h : op.effect? m = some (.wrote key x)) : x.Identified := by
  cases op with
  | call c => exact identified_call hm h
  | insert object =>
    obtain ⟨_, -, heffect⟩ := Option.map_eq_some_iff.1 h
    cases heffect
    exact identified_stamp m (identified_inserted m object)
  | touch other =>
    obtain ⟨stored, hget, heffect⟩ := Option.map_eq_some_iff.1 h
    cases heffect
    exact identified_stamp m (hm _ _ hget)
  | _ => cases h

end Identified

/-! ## Runs -/

section Runs

variable {h : List Effect} {m m' : Memory} {op : Operation} {key : ObjectKey} {x : Object}

/-- A write brings the next number. -/
theorem Change.numbered (hc : Change m m' (some (.wrote key x))) :
    x.metadata.resourceVersion = some (toString (m.revision + 1)) ∧
      m'.objects.get? key = some x := by
  cases hc with
  | wrote hkey hversion hobjects hrevision =>
    rw [hobjects]
    exact ⟨hversion, SortedMap.get?_insert_self _ _⟩

theorem Run.wrote (hrun : Run h m) :
    ∀ key x, .wrote key x ∈ h →
      x.Identified ∧ ∃ n : Nat, x.metadata.resourceVersion = some (toString (n + 1)) := by
  induction hrun with
  | start clock => simp
  | @step h m op hrun ih =>
    intro key x hx
    have hstored : ∀ key o, m.objects.get? key = some o → o.Identified :=
      fun key o hget => (ih key o (hrun.recorded.mem_history hget)).1
    rcases List.mem_append.1 hx with hx | hx
    · exact ih key x hx
    · have heffect : op.effect? m = some (.wrote key x) := Option.mem_toList.1 hx
      have hchange := m.change hrun.recorded.keyed_store op
      rw [heffect] at hchange
      exact ⟨identified_effect hstored heffect, m.revision, hchange.numbered.1⟩

/-- The resource versions that were given out so far. -/
def versions (h : List Effect) : List String := h.filterMap Effect.version?

theorem Recorded.versions_le (hr : Recorded h m) {v : String} (hv : v ∈ versions h) :
    ∃ n, n ≤ m.revision ∧ v = toString n := by
  obtain ⟨e, he, hev⟩ := List.mem_filterMap.1 hv
  cases e with
  | removed key => cases hev
  | wrote key x =>
    obtain ⟨n, hn, hx⟩ := hr.numbered key x he
    exact ⟨n, hn, Option.some.inj (hev.symm.trans hx)⟩

end Runs

/-! ## Operations that put an object in its place -/

/-- The operation has succeeded, and what it has left under this key is this object. -/
inductive Operation.Puts (m : Memory) : Operation → ObjectKey → Object → Prop where
  | insert {object x : Object} {key : ObjectKey} (hkey : object.key = .ok key)
      (h : (m.insert object).1 = .ok x) : Puts m (.insert object) key x
  | create {object x : Object} {key : ObjectKey} (hkey : object.key = .ok key)
      (h : (m.create object).1 = .ok x) : Puts m (.call (.create object)) key x
  | replace {object x : Object} {key : ObjectKey} (hkey : object.key = .ok key)
      (h : (m.replace object).1 = .ok x) : Puts m (.call (.replace object)) key x
  | replaceStatus {object x : Object} {key : ObjectKey} (hkey : object.key = .ok key)
      (h : (m.replaceStatus object).1 = .ok x) : Puts m (.call (.replaceStatus object)) key x
  | touch {key : ObjectKey} {x : Object} (h : (m.touch key).1 = .ok ())
      (hx : (m.touch key).2.objects.get? key = some x) : Puts m (.touch key) key x

theorem Operation.Puts.effect {m : Memory} {op : Operation} {key : ObjectKey} {x : Object}
    (h : op.Puts m key x) : op.effect? m = some (.wrote key x) := by
  cases h with
  | insert hkey h =>
    simp only [Memory.insert, withKey, hkey] at h
    cases h
    simp only [Operation.effect?, hkey, Except.toOption, Option.map_some]
  | @create object x key hkey h =>
    have ha : (m.answer (.create object)).1 = .ok x := h
    rw [Operation.effect?, ha, callEffect?_create hkey]
  | @replace object x key hkey h =>
    have ha : (m.answer (.replace object)).1 = .ok x := h
    rw [Operation.effect?, ha, callEffect?_replace hkey]
  | @replaceStatus object x key hkey h =>
    have ha : (m.answer (.replaceStatus object)).1 = .ok x := h
    rw [Operation.effect?, ha, callEffect?_replaceStatus hkey]
  | touch h hx =>
    rcases m.find?_cases key with ⟨e, he, -⟩ | ⟨stored, hs, hget⟩
    · rw [Memory.touch, he] at h
      cases h
    · rw [Memory.touch, hs] at hx
      cases hx.symm.trans (SortedMap.get?_insert_self _ _)
      simp only [Operation.effect?, hget, Option.map_some]

/-- The operation is about an object that is there already. -/
def Operation.Revises : Operation → Prop
  | .call (.replace _) | .call (.replaceStatus _) | .touch _ => True
  | _ => False

theorem revises_cases (m : Memory) {op : Operation} (h : op.Revises) :
    (op.apply m).objects = m.objects ∨ ∃ key stored x, m.objects.get? key = some stored ∧
      (op.apply m).objects = m.objects.insert key x ∧ x.metadata.uid = stored.metadata.uid ∧
        x.metadata.creationTimestamp = stored.metadata.creationTimestamp := by
  cases op with
  | call c =>
    cases c with
    | replace object =>
      rcases m.replace_cases object with ⟨e, f, he⟩ | ⟨key, stored, -, hget, -, hw⟩
      · exact .inl (congrArg (fun result => result.2.objects) he :)
      · exact .inr ⟨key, stored, _, hget, (congrArg (fun result => result.2.objects) hw :),
          rfl, rfl⟩
    | replaceStatus object =>
      rcases m.replaceStatus_cases object with ⟨e, f, he⟩ | ⟨key, stored, -, hget, -, -, hw⟩
      · exact .inl (congrArg (fun result => result.2.objects) he :)
      · exact .inr ⟨key, stored, _, hget, (congrArg (fun result => result.2.objects) hw :),
          rfl, rfl⟩
    | _ => cases h
  | touch key =>
    rcases m.find?_cases key with ⟨e, he, -⟩ | ⟨stored, hs, hget⟩
    · refine .inl ?_
      simp only [Operation.apply, touch, he]
    · refine .inr ⟨key, stored, m.stamp stored, hget, ?_, rfl, rfl⟩
      simp only [Operation.apply, touch, hs, store]
  | _ => cases h

theorem Operation.Revises.keeps {m : Memory} {op : Operation} (h : op.Revises) {key : ObjectKey}
    {o : Object} (hget : m.objects.get? key = some o) :
    ∃ o', (op.apply m).objects.get? key = some o' ∧ o'.metadata.uid = o.metadata.uid ∧
      o'.metadata.creationTimestamp = o.metadata.creationTimestamp := by
  rcases m.revises_cases h with hsame | ⟨other, stored, x, hstored, hobjects, huid, hcreation⟩
  · exact ⟨o, hsame ▸ hget, rfl, rfl⟩
  · rw [hobjects]
    by_cases hkey : key = other
    · subst hkey
      cases hget.symm.trans hstored
      exact ⟨x, SortedMap.get?_insert_self _ _, huid, hcreation⟩
    · exact ⟨o, (SortedMap.get?_insert_ne _ _ hkey).trans hget, rfl, rfl⟩

/-! ## The representation -/

/-- In every state of a store that was empty at first, after any operations, successful or not:

* every object is kept under its own key, has a unique identifier and a time of creation, and its
  resource version is the number of a write, at most the current revision;
* objects with different keys have different resource versions;
* an operation that puts an object in its place gives it a greater resource version than all that
  were given out before;
* an operation on an object that is there leaves every unique identifier and time of creation as it
  is. -/
theorem representation_kept {h : List Effect} {m : Memory} (hrun : Run h m) :
    (∀ key o, m.objects.get? key = some o → o.key = .ok key ∧ o.metadata.uid.isSome ∧
      o.metadata.creationTimestamp.isSome ∧ ∃ n : Nat, 1 ≤ n ∧ n ≤ m.revision ∧
        o.metadata.resourceVersion = some (toString n)) ∧
    (∀ key other o x, m.objects.get? key = some o → m.objects.get? other = some x → key ≠ other →
      o.metadata.resourceVersion ≠ x.metadata.resourceVersion) ∧
    (∀ (op : Operation) key x, op.Puts m key x → (op.apply m).objects.get? key = some x ∧
      ∃ n : Nat, x.metadata.resourceVersion = some (toString n) ∧
        ∀ v ∈ versions h, ∃ k : Nat, k < n ∧ v = toString k) ∧
    ∀ op : Operation, op.Revises → ∀ key o, m.objects.get? key = some o →
      ∃ o', (op.apply m).objects.get? key = some o' ∧ o'.metadata.uid = o.metadata.uid ∧
        o'.metadata.creationTimestamp = o.metadata.creationTimestamp := by
  have hr := hrun.recorded
  refine ⟨fun key o hget => ?_, fun key other o x hget hget' hne hv => ?_,
    fun op key x hputs => ?_, fun op hop key o hget => hop.keeps hget⟩
  · have hwrote := hr.mem_history hget
    obtain ⟨hidentified, n, hn⟩ := hrun.wrote key o hwrote
    obtain ⟨k, hk, hv⟩ := hr.numbered key o hwrote
    have hsame : n + 1 = k := toString_injective (Option.some.inj (hn.symm.trans hv))
    exact ⟨hr.keyed_store key o hget, hidentified.uid, hidentified.creation, n + 1, by omega,
      by omega, hn⟩
  · exact hne (hr.eq_of_version (hr.mem_history hget) (hr.mem_history hget') hv).1
  · have hchange := m.change hr.keyed_store op
    rw [hputs.effect] at hchange
    obtain ⟨hversion, hget⟩ := hchange.numbered
    refine ⟨hget, m.revision + 1, hversion, fun v hv => ?_⟩
    obtain ⟨k, hk, hvk⟩ := hr.versions_le hv
    exact ⟨k, by omega, hvk⟩

/-- A plain record that is touched gets a resource version greater than the one that came with its
insertion, and keeps its identity. -/
theorem representation_after_touch :
    let key := (Record.plain none).key
    ∃ (o x : Object) (n : Nat), (ofPlain none).objects.get? key = some o ∧
      o.metadata.resourceVersion = some "1" ∧ (Operation.touch key).Puts (ofPlain none) key x ∧
        x.metadata.resourceVersion = some (toString n) ∧ 1 < n ∧
          x.metadata.uid = o.metadata.uid ∧
            x.metadata.creationTimestamp = o.metadata.creationTimestamp := by
  intro key
  let op := Operation.insert (Record.plain none).object
  have hrun : Run ([] ++ (op.effect? (empty .epoch)).toList) (ofPlain none) :=
    .step op (.start .epoch)
  obtain ⟨-, -, hputs, hrevises⟩ := representation_kept hrun
  have hget := get?_ofPlain none
  obtain ⟨x, hx, huid, hcreation⟩ := hrevises (.touch key) trivial key _ hget
  have htouched : ((ofPlain none).touch key).1 = .ok () := by
    rw [touch, find?, hget]
  have hput : (Operation.touch key).Puts (ofPlain none) key x := .touch htouched hx
  obtain ⟨-, n, hn, hnewer⟩ := hputs _ key x hput
  have hfirst : "1" ∈ versions ([] ++ (op.effect? (empty .epoch)).toList) := by decide
  obtain ⟨k, hk, hone⟩ := hnewer "1" hfirst
  have hk1 : 1 = k := toString_injective hone
  exact ⟨_, x, n, hget, by decide, hput, hn, by omega, huid, hcreation⟩

end Memory

end MeshOperator
