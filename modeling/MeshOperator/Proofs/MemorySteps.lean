import MeshOperator.Store.Memory

/-!
What can happen to a store in memory.

`Memory.Operation` is anything that can be done to a store: a call by a client, or something behind
the back of clients. `Memory.Change` says all that an operation can do to the objects and the
revision: nothing, write one object at the next revision, or remove one. Every operation is one of
the three, and which one is its `effect`.
-/

namespace MeshOperator

set_option autoImplicit false

namespace Memory

/-! ## Operations and effects -/

inductive Effect where
  | wrote (key : ObjectKey) (object : Object)
  | removed (key : ObjectKey)

namespace Effect

def key : Effect → ObjectKey
  | .wrote key _ => key
  | .removed key => key

/-- The resource version that came into being. -/
def version? : Effect → Option String
  | .wrote _ object => object.metadata.resourceVersion
  | .removed _ => none

def on (objects : SortedMap ObjectKey Object) : Effect → SortedMap ObjectKey Object
  | .wrote key object => objects.insert key object
  | .removed key => objects.erase key

end Effect

inductive Operation where
  /-- A call of some client. -/
  | call (c : Call)
  | insert (object : Object)
  | touch (key : ObjectKey)
  | fail (fault : Fault)
  | clearFaults
  | conflictNext (verb : Verb) (times : Nat)
  | withoutStatus (kind : String)
  /-- Time passes. -/
  | wait (clock : Timestamp)

/-- What a call that was answered this way has done. -/
def callEffect? : (c : Call) → c.Answer → Option Effect
  | .create object, .ok stored | .replace object, .ok stored | .replaceStatus object, .ok stored =>
    object.key.toOption.map fun key => .wrote key stored
  | .delete key, .ok _ => some (.removed key)
  | _, _ => none

namespace Operation

def apply : Operation → Memory → Memory
  | .call c, m => (m.answer c).2
  | .insert object, m => (m.insert object).2
  | .touch key, m => (m.touch key).2
  | .fail fault, m => m.fail fault
  | .clearFaults, m => m.clearFaults
  | .conflictNext verb times, m => m.conflictNext verb times
  | .withoutStatus kind, m => m.withoutStatus kind
  | .wait clock, m => { m with clock := clock }

/-- What an operation does to the objects of a store. -/
def effect? : Operation → Memory → Option Effect
  | .call c, m => callEffect? c (m.answer c).1
  | .insert object, m =>
    object.key.toOption.map fun key => .wrote key (m.stamp (m.inserted object))
  | .touch key, m => (m.objects.get? key).map fun stored => .wrote key (m.stamp stored)
  | _, _ => none

end Operation

/-! ## What is stored keeps its key -/

theorem created_key (m : Memory) (key : ObjectKey) (x : Object) :
    (m.created key x).key = x.key := by
  unfold created
  split <;> rfl

theorem replaced_key (m : Memory) (key : ObjectKey) (x stored : Object) :
    (m.replaced key x stored).key = x.key := by
  unfold replaced
  split <;> rfl

/-! ## Cases of a call -/

/-- A call that fails uses up an arranged conflict at most. -/
def Refused {α : Type} (m : Memory) (result : Except StoreError α × Memory) : Prop :=
  ∃ e f, result = (.error e, { m with conflicts := f })

theorem Refused.refl {α : Type} (m : Memory) (e : StoreError) :
    Refused m ((.error e, m) : Except StoreError α × Memory) := ⟨e, m.conflicts, rfl⟩

theorem unlessObstacle_cases {α : Type} (m : Memory) (verb : Verb) (key : ObjectKey)
    (next : Memory → Except StoreError α × Memory) :
    Refused m (m.unlessObstacle verb key next) ∨ m.unlessObstacle verb key next = next m := by
  unfold unlessObstacle obstacle?
  by_cases hc : m.conflicts verb = 0
  · rw [if_pos hc]
    cases hf : m.faults.find? fun f => f.strikes verb key with
    | none => exact .inr rfl
    | some f => exact .inl ⟨f.error, m.conflicts, rfl⟩
  · rw [if_neg hc]
    exact .inl ⟨_, _, rfl⟩

theorem unlessObstacle_free {α : Type} {m : Memory} {verb : Verb} {key : ObjectKey}
    (next : Memory → Except StoreError α × Memory) (hfree : (m.obstacle? verb key).1 = none) :
    m.unlessObstacle verb key next = next m := by
  unfold obstacle? at hfree
  split at hfree
  next hc =>
    simp only [Option.map_eq_none_iff] at hfree
    simp only [unlessObstacle, obstacle?, if_pos hc, hfree, Option.map_none]
  next => cases hfree

theorem unlessObstacle_fault {α : Type} {m : Memory} {verb : Verb} {key : ObjectKey} {f : Fault}
    (next : Memory → Except StoreError α × Memory) (hconflicts : m.conflicts verb = 0)
    (hfault : m.faults.find? (fun f => f.strikes verb key) = some f) :
    m.unlessObstacle verb key next = (.error f.error, m) := by
  simp only [unlessObstacle, obstacle?, if_pos hconflicts, hfault, Option.map_some]

theorem version_of_isCurrent {x stored : Object} {v : String} (hcur : isCurrent x stored = true)
    (hv : x.metadata.resourceVersion = some v) : stored.metadata.resourceVersion = some v := by
  simp only [isCurrent, hv, Option.isNone_some, Bool.false_or, decide_eq_true_eq] at hcur
  exact hcur.symm

theorem find?_cases (m : Memory) (key : ObjectKey) :
    (∃ e, m.find? key = .error e ∧ m.objects.get? key = none) ∨
      ∃ stored, m.find? key = .ok stored ∧ m.objects.get? key = some stored := by
  unfold find?
  cases m.objects.get? key with
  | none => exact .inl ⟨_, rfl, rfl⟩
  | some stored => exact .inr ⟨stored, rfl, rfl⟩

theorem overwrite_cases (verb : Verb) (key : ObjectKey) (x : Object) (result : Object → Object)
    (m : Memory) :
    (∃ e, m.overwrite verb key x result = (.error e, m)) ∨
      ∃ stored, m.objects.get? key = some stored ∧ isCurrent x stored = true ∧
        m.overwrite verb key x result = m.write verb key (result stored) := by
  unfold overwrite
  rcases m.find?_cases key with ⟨e, he, -⟩ | ⟨stored, hs, hget⟩
  · rw [he]
    exact .inl ⟨e, rfl⟩
  · rw [hs]
    by_cases hcur : isCurrent x stored = true
    · exact .inr ⟨stored, hget, hcur, if_pos hcur⟩
    · exact .inl ⟨_, if_neg hcur⟩

theorem get_cases (key : ObjectKey) (m : Memory) :
    Refused m (m.get key) ∨
      ∃ stored, m.objects.get? key = some stored ∧ m.get key = (.ok stored, m) := by
  rcases m.unlessObstacle_cases .get key fun m => (m.find? key, m) with h | h
  · exact .inl h
  · rcases m.find?_cases key with ⟨e, he, -⟩ | ⟨stored, hs, hget⟩
    · exact .inl ⟨e, m.conflicts, by rw [get, h, he]⟩
    · exact .inr ⟨stored, hget, by rw [get, h, hs]⟩

theorem create_cases (x : Object) (m : Memory) :
    Refused m (m.create x) ∨
      ∃ key, x.key = .ok key ∧ m.objects.get? key = none ∧
        m.create x = { m with issued := m.issued + 1 }.write .create key (m.created key x) := by
  unfold create withKey
  cases hx : x.key with
  | error defect => exact .inl (.refl m _)
  | ok key =>
    rcases m.unlessObstacle_cases .create key fun m =>
        if m.objects.contains key then (.error (.alreadyExists key), m)
        else { m with issued := m.issued + 1 }.write .create key (m.created key x)
      with h | h
    · exact .inl h
    · cases hget : m.objects.get? key with
      | some stored =>
        refine .inl ⟨.alreadyExists key, m.conflicts, h.trans (if_pos ?_)⟩
        rw [SortedMap.contains, hget, Option.isSome_some]
      | none =>
        refine .inr ⟨key, rfl, hget, h.trans (if_neg ?_)⟩
        rw [SortedMap.contains, hget, Option.isSome_none]
        exact Bool.false_ne_true

theorem replace_cases (x : Object) (m : Memory) :
    Refused m (m.replace x) ∨
      ∃ key stored, x.key = .ok key ∧ m.objects.get? key = some stored ∧
        isCurrent x stored = true ∧
          m.replace x = m.write .replace key (m.replaced key x stored) := by
  unfold replace withKey
  cases hx : x.key with
  | error defect => exact .inl (.refl m _)
  | ok key =>
    rcases m.unlessObstacle_cases .replace key fun m =>
        m.overwrite .replace key x (m.replaced key x) with h | h
    · exact .inl h
    · rcases overwrite_cases .replace key x (m.replaced key x) m with
        ⟨e, he⟩ | ⟨stored, hget, hcur, hw⟩
      · exact .inl ⟨e, m.conflicts, h.trans he⟩
      · exact .inr ⟨key, stored, rfl, hget, hcur, h.trans hw⟩

theorem replaceStatus_cases (x : Object) (m : Memory) :
    Refused m (m.replaceStatus x) ∨
      ∃ key stored, x.key = .ok key ∧ m.objects.get? key = some stored ∧
        isCurrent x stored = true ∧ m.hasStatusSubresource key = true ∧
          m.replaceStatus x = m.write .replaceStatus key (stored.withStatusOf x) := by
  unfold replaceStatus withKey
  cases hx : x.key with
  | error defect => exact .inl (.refl m _)
  | ok key =>
    rcases m.unlessObstacle_cases .replaceStatus key fun m =>
        if m.hasStatusSubresource key then
          m.overwrite .replaceStatus key x fun stored => stored.withStatusOf x
        else (.error (.notFound key), m) with h | h
    · exact .inl h
    · by_cases hs : m.hasStatusSubresource key = true
      · rw [if_pos hs] at h
        rcases overwrite_cases .replaceStatus key x (fun stored => stored.withStatusOf x) m with
          ⟨e, he⟩ | ⟨stored, hget, hcur, hw⟩
        · exact .inl ⟨e, m.conflicts, h.trans he⟩
        · exact .inr ⟨key, stored, rfl, hget, hcur, hs, h.trans hw⟩
      · rw [if_neg hs] at h
        exact .inl ⟨_, m.conflicts, h⟩

theorem delete_cases (key : ObjectKey) (m : Memory) :
    Refused m (m.delete key) ∨
      ∃ stored, m.objects.get? key = some stored ∧
        m.delete key = (.ok (), { m with
          objects := m.objects.erase key
          journal := m.journal ++ [⟨.delete, key⟩] }) := by
  unfold delete
  refine (m.unlessObstacle_cases .delete key _).elim .inl fun h => ?_
  · rcases m.find?_cases key with ⟨e, he, -⟩ | ⟨stored, hs, hget⟩
    · rw [he] at h
      exact .inl ⟨e, m.conflicts, h⟩
    · rw [hs] at h
      exact .inr ⟨stored, hget, h⟩

theorem list_cases (type : TypeName) (ns : Option String) (m : Memory) :
    Refused m (m.list type ns) ∨ ∃ objects, m.list type ns = (.ok objects, m) ∧
      ∀ x ∈ objects, ∃ key, m.objects.get? key = some x := by
  unfold list
  rcases m.unlessObstacle_cases .list ⟨type.apiVersion, type.kind, ns, ""⟩ fun m =>
      (.ok ((m.objects.entries.filter fun e => isListed type ns e.1).map (·.2)), m)
    with h | h
  · exact .inl h
  · refine .inr ⟨_, h, fun x hx => ?_⟩
    obtain ⟨e, he, rfl⟩ := List.mem_map.1 hx
    exact ⟨e.1, Assoc.find?_of_mem (Assoc.nodup_keys m.objects.ascending)
      (List.mem_filter.1 he).1⟩

/-- All that a call can do that is not refused. -/
inductive Served (m : Memory) : (c : Call) → c.Answer × Memory → Prop where
  | get {key : ObjectKey} {stored : Object} (hget : m.objects.get? key = some stored) :
      Served m (.get key) (.ok stored, m)
  | create {x : Object} {key : ObjectKey} (hkey : x.key = .ok key)
      (hget : m.objects.get? key = none) :
      Served m (.create x)
        ({ m with issued := m.issued + 1 }.write .create key (m.created key x))
  | replace {x stored : Object} {key : ObjectKey} (hkey : x.key = .ok key)
      (hget : m.objects.get? key = some stored) (hcur : isCurrent x stored = true) :
      Served m (.replace x) (m.write .replace key (m.replaced key x stored))
  | replaceStatus {x stored : Object} {key : ObjectKey} (hkey : x.key = .ok key)
      (hget : m.objects.get? key = some stored) (hcur : isCurrent x stored = true) :
      Served m (.replaceStatus x) (m.write .replaceStatus key (stored.withStatusOf x))
  | delete {key : ObjectKey} {stored : Object} (hget : m.objects.get? key = some stored) :
      Served m (.delete key) (.ok (), { m with
        objects := m.objects.erase key
        journal := m.journal ++ [⟨.delete, key⟩] })
  | list {type : TypeName} {ns : Option String} {objects : List Object}
      (hlisted : ∀ x ∈ objects, ∃ key, m.objects.get? key = some x) :
      Served m (.list type ns) (.ok objects, m)

theorem answer_cases (m : Memory) (c : Call) :
    Refused m (m.answer c) ∨ Served m c (m.answer c) := by
  cases c with
  | get key =>
    refine (get_cases key m).imp id ?_
    rintro ⟨stored, hget, h⟩
    exact Eq.subst (motive := Served m _) h.symm (.get hget)
  | create x =>
    refine (create_cases x m).imp id ?_
    rintro ⟨key, hkey, hget, h⟩
    exact Eq.subst (motive := Served m _) h.symm (.create hkey hget)
  | replace x =>
    refine (replace_cases x m).imp id ?_
    rintro ⟨key, stored, hkey, hget, hcur, h⟩
    exact Eq.subst (motive := Served m _) h.symm (.replace hkey hget hcur)
  | replaceStatus x =>
    refine (replaceStatus_cases x m).imp id ?_
    rintro ⟨key, stored, hkey, hget, hcur, -, h⟩
    exact Eq.subst (motive := Served m _) h.symm (.replaceStatus hkey hget hcur)
  | delete key =>
    refine (delete_cases key m).imp id ?_
    rintro ⟨stored, hget, h⟩
    exact Eq.subst (motive := Served m _) h.symm (.delete hget)
  | list type ns =>
    refine (list_cases type ns m).imp id ?_
    rintro ⟨objects, h, hlisted⟩
    exact Eq.subst (motive := Served m _) h.symm (.list hlisted)

/-! ## Objects that are not there -/

section NotFound

variable {m m' : Memory} {x : Object} {key missing : ObjectKey}

/-- What is arranged never says that an object is missing. -/
theorem unlessObstacle_notFound {α : Type} {verb : Verb}
    {next : Memory → Except StoreError α × Memory}
    (h : m.unlessObstacle verb key next = (.error (.notFound missing), m')) :
    next m = (.error (.notFound missing), m') := by
  unfold unlessObstacle obstacle? at h
  by_cases hc : m.conflicts verb = 0
  · rw [if_pos hc] at h
    cases hf : m.faults.find? fun f => f.strikes verb key with
    | none =>
      rw [hf] at h
      exact h
    | some f =>
      rw [hf] at h
      cases h
  · rw [if_neg hc] at h
    cases h

theorem get_notFound (h : m.get key = (.error (.notFound missing), m')) :
    m' = m ∧ m.objects.get? key = none := by
  have hnext := unlessObstacle_notFound h
  rcases m.find?_cases key with ⟨e, -, hget⟩ | ⟨stored, hs, -⟩
  · exact ⟨(Prod.mk.inj hnext).2.symm, hget⟩
  · rw [hs] at hnext
    cases hnext

theorem overwrite_notFound {verb : Verb} {result : Object → Object}
    (h : m.overwrite verb key x result = (.error (.notFound missing), m')) :
    m' = m ∧ m.objects.get? key = none := by
  unfold overwrite at h
  rcases m.find?_cases key with ⟨e, he, hget⟩ | ⟨stored, hs, -⟩
  · rw [he] at h
    exact ⟨(Prod.mk.inj h).2.symm, hget⟩
  · rw [hs] at h
    dsimp only at h
    split at h <;> cases h

theorem replace_notFound (hkey : x.key = .ok key)
    (h : m.replace x = (.error (.notFound missing), m')) : m.objects.get? key = none := by
  simp only [replace, withKey, hkey] at h
  have hnext := unlessObstacle_notFound h
  exact (overwrite_notFound hnext).2

/-- A status is not found because its kind has none, or because there is no object. -/
theorem replaceStatus_notFound (hkey : x.key = .ok key)
    (h : m.replaceStatus x = (.error (.notFound missing), m')) :
    m' = m ∧ (m.hasStatusSubresource key = false ∨ m.objects.get? key = none) := by
  simp only [replaceStatus, withKey, hkey] at h
  have hnext := unlessObstacle_notFound h
  by_cases hs : m.hasStatusSubresource key = true
  · rw [if_pos hs] at hnext
    exact (overwrite_notFound hnext).imp_right .inr
  · rw [if_neg hs] at hnext
    exact ⟨(Prod.mk.inj hnext).2.symm, .inl (Bool.eq_false_iff.2 hs)⟩

theorem delete_notFound (h : m.delete key = (.error (.notFound missing), m')) :
    m.objects.get? key = none := by
  have hnext := unlessObstacle_notFound h
  rcases m.find?_cases key with ⟨e, -, hget⟩ | ⟨stored, hs, -⟩
  · exact hget
  · rw [hs] at hnext
    cases hnext

end NotFound

/-! ## What an operation can do -/

inductive Change (m m' : Memory) : Option Effect → Prop where
  | nothing (hobjects : m'.objects = m.objects) (hrevision : m.revision ≤ m'.revision) :
      Change m m' none
  | wrote {key : ObjectKey} {x : Object} (hkey : x.key = .ok key)
      (hversion : x.metadata.resourceVersion = some (toString (m.revision + 1)))
      (hobjects : m'.objects = m.objects.insert key x) (hrevision : m'.revision = m.revision + 1) :
      Change m m' (some (.wrote key x))
  | removed {key : ObjectKey} (hobjects : m'.objects = m.objects.erase key)
      (hrevision : m'.revision = m.revision) : Change m m' (some (.removed key))

/-- Every object is kept under its own key. -/
def Keyed (m : Memory) : Prop := ∀ key x, m.objects.get? key = some x → x.key = .ok key

theorem Refused.change {α : Type} {m : Memory} {result : Except StoreError α × Memory}
    (h : Refused m result) : Change m result.2 none := by
  obtain ⟨e, f, rfl⟩ := h
  exact .nothing rfl (Nat.le_refl _)

theorem change_write (m : Memory) (verb : Verb) {key : ObjectKey} {x : Object}
    (h : x.key = .ok key) : Change m (m.write verb key x).2 (some (.wrote key (m.stamp x))) :=
  .wrote h rfl rfl rfl

theorem callEffect?_refused {m : Memory} {c : Call} (h : Refused m (m.answer c)) :
    callEffect? c (m.answer c).1 = none := by
  obtain ⟨e, f, h⟩ := h
  rw [h]
  cases c <;> rfl

theorem callEffect?_create {x stored : Object} {key : ObjectKey} (h : x.key = .ok key) :
    callEffect? (.create x) (.ok stored) = some (.wrote key stored) := by
  simp only [callEffect?, h, Except.toOption, Option.map_some]

theorem callEffect?_replace {x stored : Object} {key : ObjectKey} (h : x.key = .ok key) :
    callEffect? (.replace x) (.ok stored) = some (.wrote key stored) := by
  simp only [callEffect?, h, Except.toOption, Option.map_some]

theorem callEffect?_replaceStatus {x stored : Object} {key : ObjectKey} (h : x.key = .ok key) :
    callEffect? (.replaceStatus x) (.ok stored) = some (.wrote key stored) := by
  simp only [callEffect?, h, Except.toOption, Option.map_some]

theorem change_call (m : Memory) (hm : m.Keyed) (c : Call) :
    Change m (m.answer c).2 (callEffect? c (m.answer c).1) := by
  rcases m.answer_cases c with h | h
  · rw [callEffect?_refused h]
    exact h.change
  · generalize m.answer c = result at h
    cases h with
    | get hget => exact .nothing rfl (Nat.le_refl _)
    | @create x key hx hget =>
      have hkey : (m.created key x).key = .ok key := (m.created_key key x).trans hx
      exact callEffect?_create hx ▸ .wrote hkey rfl rfl rfl
    | @replace x stored key hx hget hcur =>
      have hkey : (m.replaced key x stored).key = .ok key := (m.replaced_key key x stored).trans hx
      exact callEffect?_replace hx ▸ m.change_write .replace hkey
    | @replaceStatus x stored key hx hget hcur =>
      have hkey : (stored.withStatusOf x).key = .ok key := hm key stored hget
      exact callEffect?_replaceStatus hx ▸ m.change_write .replaceStatus hkey
    | delete hget => exact .removed rfl rfl
    | list hlisted => exact .nothing rfl (Nat.le_refl _)

/-- Every operation does what its effect says, and nothing else to the objects. -/
theorem change (m : Memory) (hm : m.Keyed) (op : Operation) :
    Change m (op.apply m) (op.effect? m) := by
  cases op with
  | call c => exact m.change_call hm c
  | insert x =>
    cases hx : x.key with
    | error defect =>
      have ha : (m.insert x).2 = m := by
        simp only [insert, withKey, hx]
      simp only [Operation.apply, Operation.effect?, hx, ha, Except.toOption, Option.map_none]
      exact .nothing rfl (Nat.le_refl _)
    | ok key =>
      simp only [Operation.apply, Operation.effect?, insert, withKey, hx, Except.toOption,
        Option.map_some]
      exact .wrote hx rfl rfl rfl
  | touch key =>
    rcases m.find?_cases key with ⟨e, he, hget⟩ | ⟨stored, hs, hget⟩
    · simp only [Operation.apply, Operation.effect?, touch, he, hget, Option.map_none]
      exact .nothing rfl (Nat.le_succ _)
    · simp only [Operation.apply, Operation.effect?, touch, hs, hget, Option.map_some]
      exact .wrote (hm key stored hget) rfl rfl rfl
  | fail fault => exact .nothing rfl (Nat.le_refl _)
  | clearFaults => exact .nothing rfl (Nat.le_refl _)
  | conflictNext verb times => exact .nothing rfl (Nat.le_refl _)
  | withoutStatus kind => exact .nothing rfl (Nat.le_refl _)
  | wait clock => exact .nothing rfl (Nat.le_refl _)

end Memory

end MeshOperator
