import MeshOperator.Proofs.QuietMemory
import MeshOperator.Proofs.Representation

/-!
Status and the rest of an object are written apart.

Where a store in memory keeps the status of a kind on its own, a full write takes everything but the
status from the given object and the status from the stored one, and a status write does the
opposite. `Object.SameButStatus` is what the second leaves alone. Step by step, and so along every
run, the status changes only where it was written as such, and the rest only where that was written.
-/

namespace MeshOperator

set_option autoImplicit false

/-! ## Everything but the status -/

/-- Metadata without what every write changes. -/
def Metadata.unversioned (m : Metadata) : Metadata := { m with resourceVersion := none }

/-- Metadata without what the store assigns. -/
def Metadata.unassigned (m : Metadata) : Metadata :=
  { m with uid := none, creationTimestamp := none, resourceVersion := none }

/-- The objects differ at most in their status and in what `part` takes out of their metadata. -/
structure Object.SameButStatus (part : Metadata → Metadata) (o o' : Object) : Prop where
  type : o'.type = o.type
  metadata : part o'.metadata = part o.metadata
  members : ∀ name, name ≠ "status" → o'.body.find? name = o.body.find? name

namespace Object.SameButStatus

variable {part : Metadata → Metadata} {o o₁ o₂ : Object}

theorem refl (part : Metadata → Metadata) (o : Object) : o.SameButStatus part o :=
  ⟨rfl, rfl, fun _ _ => rfl⟩

theorem trans (h : o.SameButStatus part o₁) (h' : o₁.SameButStatus part o₂) :
    o.SameButStatus part o₂ :=
  ⟨h'.type.trans h.type, h'.metadata.trans h.metadata,
    fun name hname => (h'.members name hname).trans (h.members name hname)⟩

end Object.SameButStatus

namespace Memory

/-! ## Kinds whose status is kept apart -/

/-- Only the status of a record is ever kept apart, until that is taken away. -/
theorem hasStatusSubresource_iff (m : Memory) (key : ObjectKey) :
    m.hasStatusSubresource key = true ↔
      key.type = Kind.record.type ∧ key.kind ∉ m.statusless := by
  have honly : ∀ kind ∈ Kind.registry, kind.statusSubresource = true → kind = .record := by decide
  unfold hasStatusSubresource
  cases hfind : Kind.find? key.type with
  | none =>
    have hne : key.type ≠ Kind.record.type := by
      rintro heq
      rw [heq] at hfind
      exact absurd hfind (by decide)
    exact ⟨fun h => absurd h Bool.false_ne_true, fun h => absurd h.1 hne⟩
  | some kind =>
    have hmem : kind ∈ Kind.registry := List.mem_of_find?_eq_some hfind
    have htype : kind.type = key.type := by simpa using List.find?_some hfind
    have hstatus : kind.statusSubresource = true ↔ key.type = Kind.record.type := by
      refine ⟨fun h => ?_, fun h => ?_⟩
      · rw [← htype, honly kind hmem h]
      · rw [h] at hfind
        have hrecord : Kind.find? Kind.record.type = some .record := by decide
        rw [← Option.some.inj (hrecord.symm.trans hfind)]
        rfl
    simp only [Bool.and_eq_true, decide_eq_true_eq, hstatus]

theorem not_hasStatusSubresource {m : Memory} {key : ObjectKey} (h : key.type ≠ Record.type) :
    ¬m.hasStatusSubresource key = true :=
  fun hactive => h ((hasStatusSubresource_iff m key).1 hactive).1

/-! ## What a write stores -/

section Written

variable {m : Memory} {key : ObjectKey}

theorem sameButStatus_stamp (m : Memory) (o : Object) :
    o.SameButStatus .unversioned (m.stamp o) := ⟨rfl, rfl, fun _ _ => rfl⟩

theorem sameButStatus_withStatusOf (m : Memory) (stored x : Object) :
    stored.SameButStatus .unversioned (m.stamp (stored.withStatusOf x)) :=
  ⟨rfl, rfl, fun _ hname => Body.find?_take_ne _ _ hname _⟩

theorem sameButStatus_created (m m' : Memory) (key : ObjectKey) (x : Object) :
    x.SameButStatus .unassigned (m'.stamp (m.created key x)) := by
  unfold created
  split
  · exact ⟨rfl, rfl, fun _ hname => Body.find?_erase_ne _ hname⟩
  · exact ⟨rfl, rfl, fun _ _ => rfl⟩

theorem sameButStatus_replaced (m m' : Memory) (key : ObjectKey) (x stored : Object) :
    x.SameButStatus .unassigned (m'.stamp (m.replaced key x stored)) := by
  unfold replaced
  split
  · exact ⟨rfl, rfl, fun _ hname => Body.find?_take_ne _ _ hname _⟩
  · exact ⟨rfl, rfl, fun _ _ => rfl⟩

theorem status?_created (x : Object) (hactive : m.hasStatusSubresource key = true) :
    (m.created key x).status? = none := by
  unfold created
  rw [if_pos hactive]
  exact Body.find?_erase_self _

theorem status?_replaced (x stored : Object) (hactive : m.hasStatusSubresource key = true) :
    (m.replaced key x stored).status? = stored.status? := by
  unfold replaced
  rw [if_pos hactive]
  exact Object.status?_withStatusOf x stored

theorem status?_replaced_whole (x stored : Object)
    (hinactive : m.hasStatusSubresource key = false) :
    (m.replaced key x stored).status? = x.status? := by
  unfold replaced
  rw [if_neg (Bool.eq_false_iff.1 hinactive)]
  rfl

end Written

/-! ## Writes that succeed -/

section Succeeds

variable {m : Memory} {key : ObjectKey} {object x : Object}

theorem get?_write (m : Memory) (verb : Verb) (key : ObjectKey) (o : Object) :
    (m.write verb key o).2.objects.get? key = some (m.stamp o) :=
  SortedMap.get?_insert_self _ _

theorem create_ok (hkey : object.key = .ok key) (h : (m.create object).1 = .ok x) :
    m.objects.get? key = none ∧ x = m.stamp (m.created key object) ∧
      (m.create object).2.objects.get? key = some x := by
  rcases m.create_cases object with ⟨e, f, he⟩ | ⟨key', hkey', hget, hw⟩
  · rw [he] at h
    cases h
  · cases hkey.symm.trans hkey'
    rw [hw] at h ⊢
    cases h
    exact ⟨hget, rfl, get?_write _ _ _ _⟩

theorem replace_ok (hkey : object.key = .ok key) (h : (m.replace object).1 = .ok x) :
    ∃ stored, m.objects.get? key = some stored ∧ x = m.stamp (m.replaced key object stored) ∧
      (m.replace object).2.objects.get? key = some x := by
  rcases m.replace_cases object with ⟨e, f, he⟩ | ⟨key', stored, hkey', hget, -, hw⟩
  · rw [he] at h
    cases h
  · cases hkey.symm.trans hkey'
    rw [hw] at h ⊢
    cases h
    exact ⟨stored, hget, rfl, get?_write _ _ _ _⟩

theorem replaceStatus_ok (hkey : object.key = .ok key) (h : (m.replaceStatus object).1 = .ok x) :
    ∃ stored, m.objects.get? key = some stored ∧ x = m.stamp (stored.withStatusOf object) ∧
      (m.replaceStatus object).2.objects.get? key = some x := by
  rcases m.replaceStatus_cases object with ⟨e, f, he⟩ | ⟨key', stored, hkey', hget, -, -, hw⟩
  · rw [he] at h
    cases h
  · cases hkey.symm.trans hkey'
    rw [hw] at h ⊢
    cases h
    exact ⟨stored, hget, rfl, get?_write _ _ _ _⟩

/-- A write brings a version that is not the one of any stored object. -/
theorem Reachable.version_ne (hm : m.Reachable) {o : Object} (hget : m.objects.get? key = some o)
    (x : Object) : (m.stamp x).metadata.resourceVersion ≠ o.metadata.resourceVersion := by
  obtain ⟨h, hrun⟩ := hm
  intro hv
  exact hrun.recorded.fresh (hrun.recorded.mem_history hget) hv.symm

/-- A status that is not kept apart cannot be written apart. -/
theorem replaceStatus_refused
    (hinactive : ∀ key, object.key = .ok key → m.hasStatusSubresource key = false) :
    ∃ e f, m.replaceStatus object = (.error e, { m with conflicts := f }) ∧
      (m.conflicts .replaceStatus = 0 → f = m.conflicts) := by
  unfold replaceStatus withKey
  cases hkey : object.key with
  | error defect => exact ⟨_, m.conflicts, rfl, fun _ => rfl⟩
  | ok key =>
    have hoff := Bool.eq_false_iff.1 (hinactive key hkey)
    dsimp only
    unfold unlessObstacle obstacle?
    by_cases hc : m.conflicts .replaceStatus = 0
    · rw [if_pos hc]
      cases m.faults.find? fun f => f.strikes .replaceStatus key with
      | none => exact ⟨_, m.conflicts, if_neg hoff, fun _ => rfl⟩
      | some f => exact ⟨f.error, m.conflicts, rfl, fun _ => rfl⟩
    · rw [if_neg hc]
      exact ⟨_, _, rfl, fun h => absurd h hc⟩

end Succeeds

/-! ## Operations on an object -/

/-- The operation succeeds in setting the status of what is kept under this key. -/
inductive Operation.SetsStatus (m : Memory) (key : ObjectKey) : Operation → Prop where
  | insert {object x : Object} (h : (Operation.insert object).Puts m key x) :
      SetsStatus m key (.insert object)
  | replaceStatus {object x : Object} (h : (Operation.call (.replaceStatus object)).Puts m key x) :
      SetsStatus m key (.call (.replaceStatus object))

/-- The operation succeeds in setting all but the status of what is kept under this key. -/
inductive Operation.SetsRest (m : Memory) (key : ObjectKey) : Operation → Prop where
  | insert {object x : Object} (h : (Operation.insert object).Puts m key x) :
      SetsRest m key (.insert object)
  | replace {object x : Object} (h : (Operation.call (.replace object)).Puts m key x) :
      SetsRest m key (.call (.replace object))

def Operation.Deletes (m : Memory) (key : ObjectKey) (op : Operation) : Prop :=
  op = .call (.delete key) ∧ (m.delete key).1 = .ok ()

/-- What an operation leaves of an object: the same status unless it sets that, and the same rest
unless it sets that. -/
structure Operation.Parts (m : Memory) (key : ObjectKey) (o o' : Object) (op : Operation) :
    Prop where
  status : o'.status? = o.status? ∨ op.SetsStatus m key
  rest : o.SameButStatus .unversioned o' ∨ op.SetsRest m key

theorem Operation.Parts.refl (m : Memory) (key : ObjectKey) (o : Object) (op : Operation) :
    op.Parts m key o o := ⟨.inl rfl, .inl (.refl _ o)⟩

section Steps

variable {m : Memory} {key : ObjectKey} {o : Object} {op : Operation}

/-- A call that is served on another object does nothing to this one. -/
theorem parts_call (hget : m.objects.get? key = some o)
    (hactive : m.hasStatusSubresource key = true) (c : Call)
    (hkept : ¬(Operation.call c).Deletes m key) :
    ∃ o', (m.answer c).2.objects.get? key = some o' ∧ (Operation.call c).Parts m key o o' := by
  have hsame : (m.answer c).2.objects = m.objects →
      ∃ o', (m.answer c).2.objects.get? key = some o' ∧ (Operation.call c).Parts m key o o' :=
    fun hobjects => ⟨o, hobjects ▸ hget, .refl m key o _⟩
  have hother : ∀ {key' : ObjectKey} {x : Object}, key ≠ key' →
      (m.answer c).2.objects = m.objects.insert key' x →
        ∃ o', (m.answer c).2.objects.get? key = some o' ∧ (Operation.call c).Parts m key o o' := by
    intro key' x hne hobjects
    rw [hobjects, SortedMap.get?_insert_ne _ _ hne]
    exact ⟨o, hget, .refl m key o _⟩
  rcases m.answer_cases c with ⟨e, f, he⟩ | hserved
  · exact hsame (by rw [he])
  · generalize hresult : m.answer c = result at hserved
    rw [hresult] at hsame hother
    cases hserved with
    | get _ => exact hsame rfl
    | list _ => exact hsame rfl
    | @create x key' hkey hget' =>
      have hne : key ≠ key' := by
        rintro rfl
        cases hget.symm.trans hget'
      exact hother hne rfl
    | @replace x stored key' hkey hget' hcur =>
      by_cases hne : key = key'
      · subst hne
        cases hget.symm.trans hget'
        have hok : (m.replace x).1 = .ok (m.stamp (m.replaced key x o)) :=
          (congrArg Prod.fst hresult :)
        exact ⟨_, get?_write _ _ _ _, .inl (status?_replaced x o hactive),
          .inr (.replace (.replace hkey hok))⟩
      · exact hother hne rfl
    | @replaceStatus x stored key' hkey hget' hcur =>
      by_cases hne : key = key'
      · subst hne
        cases hget.symm.trans hget'
        have hok : (m.replaceStatus x).1 = .ok (m.stamp (o.withStatusOf x)) :=
          (congrArg Prod.fst hresult :)
        exact ⟨_, get?_write _ _ _ _, .inr (.replaceStatus (.replaceStatus hkey hok)),
          .inl (sameButStatus_withStatusOf m o x)⟩
      · exact hother hne rfl
    | @delete key' stored hget' =>
      have hne : key ≠ key' := by
        rintro rfl
        exact hkept ⟨rfl, (congrArg Prod.fst hresult :)⟩
      exact ⟨o, (SortedMap.get?_erase_ne _ hne).trans hget, .refl m key o _⟩

theorem parts_insert (hget : m.objects.get? key = some o) (object : Object) :
    ∃ o', (m.insert object).2.objects.get? key = some o' ∧
      (Operation.insert object).Parts m key o o' := by
  cases hkey : object.key with
  | error defect =>
    have hsame : (m.insert object).2 = m := by
      simp only [insert, withKey, hkey]
    rw [hsame]
    exact ⟨o, hget, .refl m key o _⟩
  | ok key' =>
    have hok : (m.insert object).1 = .ok (m.stamp (m.inserted object)) := by
      simp only [insert, withKey, hkey]
    have hobjects : (m.insert object).2.objects =
        m.objects.insert key' (m.stamp (m.inserted object)) := by
      simp only [insert, withKey, hkey]
      rfl
    rw [hobjects]
    by_cases hne : key = key'
    · subst hne
      have hputs : (Operation.insert object).Puts m key _ := .insert hkey hok
      exact ⟨_, SortedMap.get?_insert_self _ _, .inr (.insert hputs), .inr (.insert hputs)⟩
    · rw [SortedMap.get?_insert_ne _ _ hne]
      exact ⟨o, hget, .refl m key o _⟩

theorem parts_touch (hget : m.objects.get? key = some o) (touched : ObjectKey) :
    ∃ o', (m.touch touched).2.objects.get? key = some o' ∧
      (Operation.touch touched).Parts m key o o' := by
  unfold touch
  rcases m.find?_cases touched with ⟨e, he, -⟩ | ⟨stored, hs, hget'⟩
  · rw [he]
    exact ⟨o, hget, .refl m key o _⟩
  · rw [hs]
    by_cases hne : key = touched
    · subst hne
      cases hget.symm.trans hget'
      exact ⟨_, SortedMap.get?_insert_self _ _, .inl rfl, .inl (sameButStatus_stamp m o)⟩
    · exact ⟨o, (SortedMap.get?_insert_ne _ _ hne).trans hget, .refl m key o _⟩

theorem parts_step (hget : m.objects.get? key = some o)
    (hactive : m.hasStatusSubresource key = true) (hkept : ¬op.Deletes m key) :
    ∃ o', (op.apply m).objects.get? key = some o' ∧ op.Parts m key o o' := by
  cases op with
  | call c => exact parts_call hget hactive c hkept
  | insert object => exact parts_insert hget object
  | touch touched => exact parts_touch hget touched
  | _ => exact ⟨o, hget, .refl m key o _⟩

end Steps

/-! ## Runs -/

def applyAll (ops : List Operation) (m : Memory) : Memory := ops.foldl (fun m op => op.apply m) m

/-- The operations in their order, each with the store that it finds. -/
def trail : List Operation → Memory → List (Memory × Operation)
  | [], _ => []
  | op :: ops, m => (m, op) :: trail ops (op.apply m)

/-- An object that is not deleted stays there; its status changes only if that is set on the way, and
the rest only if that is set. -/
theorem parts_run {key : ObjectKey} (ops : List Operation) {m : Memory} {o : Object}
    (hget : m.objects.get? key = some o)
    (hsteps : ∀ s ∈ trail ops m, s.1.hasStatusSubresource key = true ∧ ¬s.2.Deletes s.1 key) :
    ∃ o', (applyAll ops m).objects.get? key = some o' ∧
      (o'.status? = o.status? ∨ ∃ s ∈ trail ops m, s.2.SetsStatus s.1 key) ∧
        (o.SameButStatus .unversioned o' ∨ ∃ s ∈ trail ops m, s.2.SetsRest s.1 key) := by
  induction ops generalizing m o with
  | nil => exact ⟨o, hget, .inl rfl, .inl (.refl _ o)⟩
  | cons op ops ih =>
    obtain ⟨⟨hactive, hkept⟩, hrest⟩ := List.forall_mem_cons.1 hsteps
    obtain ⟨o₁, hget₁, hstatus₁, hrest₁⟩ := parts_step hget hactive hkept
    obtain ⟨o', hget', hstatus', hrest'⟩ := ih hget₁ hrest
    refine ⟨o', hget', ?_, ?_⟩
    · rcases hstatus₁ with hsame₁ | hset
      · rcases hstatus' with hsame' | ⟨s, hs, hset⟩
        · exact .inl (hsame'.trans hsame₁)
        · exact .inr ⟨s, List.mem_cons_of_mem _ hs, hset⟩
      · exact .inr ⟨(m, op), List.mem_cons_self, hset⟩
    · rcases hrest₁ with hsame₁ | hset
      · rcases hrest' with hsame' | ⟨s, hs, hset⟩
        · exact .inl (hsame₁.trans hsame')
        · exact .inr ⟨s, List.mem_cons_of_mem _ hs, hset⟩
      · exact .inr ⟨(m, op), List.mem_cons_self, hset⟩

/-! ## Status and the rest -/

/-- In every state of a store that was empty at first, about objects whose status is kept apart:

* creating one stores no status, whatever the given one carries;
* replacing one stores the given object, apart from what the store assigns, with the stored status;
* replacing the status stores the object that is there with the given status and a new version;
* as long as it is not deleted, its status changes only where an operation on it sets the status,
  and everything else, the version apart, only where an operation sets that.

An object whose status is not kept apart is replaced with its status, and a call that replaces the
status alone fails and leaves everything as it is, but for an arranged conflict that it uses up. -/
theorem status_apart {m : Memory} (hm : m.Reachable) :
    (∀ key object x, object.key = .ok key → m.hasStatusSubresource key = true →
      ((m.create object).1 = .ok x → (m.create object).2.objects.get? key = some x ∧
        x.status? = none ∧ object.SameButStatus .unassigned x) ∧
      ((m.replace object).1 = .ok x → (m.replace object).2.objects.get? key = some x ∧
        ∃ stored, m.objects.get? key = some stored ∧ x.status? = stored.status? ∧
          object.SameButStatus .unassigned x) ∧
      ((m.replaceStatus object).1 = .ok x → (m.replaceStatus object).2.objects.get? key = some x ∧
        ∃ stored, m.objects.get? key = some stored ∧ x.status? = object.status? ∧
          stored.SameButStatus .unversioned x ∧
            x.metadata.resourceVersion ≠ stored.metadata.resourceVersion)) ∧
    (∀ key o ops, m.objects.get? key = some o →
      (∀ s ∈ trail ops m, s.1.hasStatusSubresource key = true ∧ ¬s.2.Deletes s.1 key) →
        ∃ o', (applyAll ops m).objects.get? key = some o' ∧
          (o'.status? ≠ o.status? → ∃ s ∈ trail ops m, s.2.SetsStatus s.1 key) ∧
            (¬o.SameButStatus .unversioned o' → ∃ s ∈ trail ops m, s.2.SetsRest s.1 key)) ∧
    ∀ object, (∀ key, object.key = .ok key → m.hasStatusSubresource key = false) →
      (∃ e f, m.replaceStatus object = (.error e, { m with conflicts := f }) ∧
        (m.conflicts .replaceStatus = 0 → f = m.conflicts)) ∧
      ∀ key x, object.key = .ok key → (m.replace object).1 = .ok x →
        (m.replace object).2.objects.get? key = some x ∧ x.status? = object.status? ∧
          object.SameButStatus .unassigned x := by
  refine ⟨fun key object x hkey hactive => ⟨fun h => ?_, fun h => ?_, fun h => ?_⟩,
    fun key o ops hget hsteps => ?_, fun object hinactive =>
      ⟨replaceStatus_refused hinactive, fun key x hkey h => ?_⟩⟩
  · obtain ⟨-, rfl, hstored⟩ := create_ok hkey h
    exact ⟨hstored, status?_created object hactive, sameButStatus_created m m key object⟩
  · obtain ⟨stored, hget, rfl, hstored⟩ := replace_ok hkey h
    exact ⟨hstored, stored, hget, status?_replaced object stored hactive,
      sameButStatus_replaced m m key object stored⟩
  · obtain ⟨stored, hget, rfl, hstored⟩ := replaceStatus_ok hkey h
    exact ⟨hstored, stored, hget, Object.status?_withStatusOf stored object,
      sameButStatus_withStatusOf m stored object, hm.version_ne hget _⟩
  · obtain ⟨o', hget', hstatus, hrest⟩ := parts_run ops hget hsteps
    exact ⟨o', hget', hstatus.resolve_left, hrest.resolve_left⟩
  · obtain ⟨stored, -, rfl, hstored⟩ := replace_ok hkey h
    exact ⟨hstored, status?_replaced_whole object stored (hinactive key hkey),
      sameButStatus_replaced m m key object stored⟩

/-- A plain record that is waiting keeps its status through an edit that carries none and a touch. -/
theorem status_apart_ofPlain :
    let status : RecordStatus := ⟨some .created, "waiting"⟩
    let m := ofPlain (some status)
    let key := (Record.plain none).key
    let edited := (Record.plain none).object
    ∃ x o', (m.replace edited).1 = .ok x ∧ x.status? = some status.toJson ∧
      (applyAll [.call (.replace edited), .touch key] m).objects.get? key = some o' ∧
        o'.status? = some status.toJson := by
  intro status m key edited
  have hget := get?_ofPlain (some status)
  have hstored : ((Record.plain (some status)).inserted (.empty .epoch)).object.status? =
      some status.toJson := Record.object_status _
  have hkey : edited.key = .ok key := (Record.plain none).object_key rfl
  have hreplace := (quiet_ofPlain (some status)).replace hkey hget rfl
  have hactive : ∀ m' : Memory, m'.statusless = [] → m'.hasStatusSubresource key = true :=
    fun m' hall => (m'.hasStatusSubresource_iff key).2 ⟨rfl, hall ▸ List.not_mem_nil⟩
  obtain ⟨hwrites, hruns, -⟩ := status_apart (reachable_ofPlain (some status))
  obtain ⟨-, hreplaced, -⟩ := hwrites key edited _ hkey (hactive m rfl)
  have hok := congrArg Prod.fst hreplace
  obtain ⟨-, stored, hget', hstatus, -⟩ := hreplaced hok
  cases hget.symm.trans hget'
  have hsteps : ∀ s ∈ trail [.call (.replace edited), .touch key] m,
      s.1.hasStatusSubresource key = true ∧ ¬s.2.Deletes s.1 key := by
    intro s hs
    rcases List.mem_cons.1 hs with rfl | hs
    · exact ⟨hactive m rfl, fun h => by cases h.1⟩
    · cases List.mem_singleton.1 hs
      refine ⟨hactive _ ?_, fun h => by cases h.1⟩
      exact (congrArg (fun result => result.2.statusless) hreplace :)
  obtain ⟨o', hend, hset, -⟩ := hruns key _ _ hget hsteps
  have hkept : o'.status? = some status.toJson := by
    refine Classical.byContradiction fun hne => ?_
    obtain ⟨s, hs, hsets⟩ := hset (hstored ▸ hne)
    rcases List.mem_cons.1 hs with rfl | hs
    · cases hsets
    · cases List.mem_singleton.1 hs
      cases hsets
  exact ⟨_, o', hok, hstatus.trans hstored, hend, hkept⟩

end Memory

end MeshOperator
