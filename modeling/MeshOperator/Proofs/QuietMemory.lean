import MeshOperator.Proofs.CarefulCalls
import MeshOperator.Proofs.Containment
import MeshOperator.Proofs.Preparation

/-!
Work on a store in memory that nobody disturbs.

`Memory.Quiet` says that no error and no conflict is arranged, `Memory.Clear` that none of those
arranged is in the way of calls on one object. Then calls do what they are for, so syncing a
resource settles it, and writing a status stores it. `Touched` says that at most one object was
changed meanwhile.
-/

namespace MeshOperator

set_option autoImplicit false

namespace Memory

/-- No error and no conflict is arranged. -/
structure Quiet (m : Memory) : Prop where
  faults : m.faults = []
  conflicts : ∀ verb, m.conflicts verb = 0

/-- Nothing but the object with this key was changed, and the store is quiet. -/
structure Touched (key : ObjectKey) (m m' : Memory) : Prop where
  quiet : m'.Quiet
  frame : ∀ other, other ≠ key → m'.objects.get? other = m.objects.get? other

variable {m : Memory} {key : ObjectKey}

theorem quiet_ofPlain (status : Option RecordStatus) : (ofPlain status).Quiet :=
  ⟨rfl, fun _ => rfl⟩

theorem Touched.refl (hq : m.Quiet) : Touched key m m := ⟨hq, fun _ _ => rfl⟩

theorem Quiet.free (hq : m.Quiet) (verb : Verb) (key : ObjectKey) :
    (m.obstacle? verb key).1 = none := by
  unfold obstacle?
  rw [if_pos (hq.conflicts verb), hq.faults]
  rfl

/-- Nothing that is arranged is in the way of a call on the object with this key. -/
def Clear (m : Memory) (key : ObjectKey) : Prop := ∀ verb, (m.obstacle? verb key).1 = none

theorem Quiet.clear (hq : m.Quiet) (key : ObjectKey) : m.Clear key := fun verb => hq.free verb key

theorem Clear.write (h : m.Clear key) (verb : Verb) (x : Object) :
    (m.write verb key x).2.Clear key := by
  intro called
  have hfree := h called
  unfold obstacle? at hfree ⊢
  split at hfree
  next hc =>
    have hkept : (m.write verb key x).2.conflicts called = 0 := hc
    rw [if_pos hkept]
    exact hfree
  next => cases hfree

theorem get_of_free (hfree : (m.obstacle? .get key).1 = none) :
    m.answer (.get key) = (m.find? key, m) := by
  show m.get key = _
  rw [get, unlessObstacle_free _ hfree]

theorem Quiet.get_some (hq : m.Quiet) {o : Object} (hget : m.objects.get? key = some o) :
    m.answer (.get key) = (.ok o, m) := by
  rw [get_of_free (hq.free .get key), find?, hget]

theorem Quiet.get_none (hq : m.Quiet) (hget : m.objects.get? key = none) :
    m.answer (.get key) = (.error (.notFound key), m) := by
  rw [get_of_free (hq.free .get key), find?, hget]

theorem touched_write (hq : m.Quiet) (verb : Verb) (x : Object) :
    Touched key m (m.write verb key x).2 :=
  ⟨⟨hq.faults, hq.conflicts⟩, fun _ hother => SortedMap.get?_insert_ne _ _ hother⟩

theorem Quiet.create (hq : m.Quiet) {x : Object} (hkey : x.key = .ok key)
    (hget : m.objects.get? key = none) :
    m.answer (.create x) =
      { m with issued := m.issued + 1 }.write .create key (m.created key x) := by
  show m.create x = _
  have hcontains : ¬m.objects.contains key = true := by
    rw [SortedMap.contains, hget]
    exact Bool.false_ne_true
  rw [Memory.create, withKey, hkey]
  dsimp only
  rw [unlessObstacle_free _ (hq.free .create key), if_neg hcontains]

theorem overwrite_current {x stored : Object} (hget : m.objects.get? key = some stored)
    (hcur : isCurrent x stored = true) (verb : Verb) (result : Object → Object) :
    m.overwrite verb key x result = m.write verb key (result stored) := by
  rw [overwrite, find?, hget]
  exact if_pos hcur

theorem replace_of_free {x stored : Object} (hfree : (m.obstacle? .replace key).1 = none)
    (hkey : x.key = .ok key) (hget : m.objects.get? key = some stored)
    (hcur : isCurrent x stored = true) :
    m.answer (.replace x) = m.write .replace key (m.replaced key x stored) := by
  show m.replace x = _
  rw [Memory.replace, withKey, hkey]
  dsimp only
  rw [unlessObstacle_free _ hfree, overwrite_current hget hcur]

theorem Quiet.replace (hq : m.Quiet) {x stored : Object} (hkey : x.key = .ok key)
    (hget : m.objects.get? key = some stored) (hcur : isCurrent x stored = true) :
    m.answer (.replace x) = m.write .replace key (m.replaced key x stored) :=
  replace_of_free (hq.free .replace key) hkey hget hcur

theorem replaceStatus_of_free {x stored : Object}
    (hfree : (m.obstacle? .replaceStatus key).1 = none) (hkey : x.key = .ok key)
    (hget : m.objects.get? key = some stored) (hcur : isCurrent x stored = true)
    (hstatus : m.hasStatusSubresource key = true) :
    m.answer (.replaceStatus x) = m.write .replaceStatus key (stored.withStatusOf x) := by
  show m.replaceStatus x = _
  rw [Memory.replaceStatus, withKey, hkey]
  dsimp only
  rw [unlessObstacle_free _ hfree, if_pos hstatus, overwrite_current hget hcur]

theorem replaceStatus_none_of_free {x : Object}
    (hfree : (m.obstacle? .replaceStatus key).1 = none) (hkey : x.key = .ok key)
    (hstatus : m.hasStatusSubresource key = false) :
    m.answer (.replaceStatus x) = (.error (.notFound key), m) := by
  show m.replaceStatus x = _
  rw [Memory.replaceStatus, withKey, hkey]
  dsimp only
  rw [unlessObstacle_free _ hfree, hstatus]
  exact if_neg Bool.false_ne_true

theorem Quiet.delete (hq : m.Quiet) {stored : Object} (hget : m.objects.get? key = some stored) :
    m.answer (.delete key) = (.ok (), { m with
      objects := m.objects.erase key
      journal := m.journal ++ [⟨.delete, key⟩] }) := by
  show m.delete key = _
  rw [Memory.delete, unlessObstacle_free _ (hq.free .delete key), find?, hget]

theorem Quiet.touched_delete (hq : m.Quiet) : Touched key m { m with
    objects := m.objects.erase key
    journal := m.journal ++ [⟨.delete, key⟩] } :=
  ⟨⟨hq.faults, hq.conflicts⟩, fun _ hother => SortedMap.get?_erase_ne _ hother⟩

theorem isCurrent_of_version {x stored : Object}
    (h : x.metadata.resourceVersion = stored.metadata.resourceVersion) :
    isCurrent x stored = true := by
  simp only [isCurrent, h, decide_true, Bool.or_true]

/-! A quiet store stays quiet. -/

theorem Quiet.overwrite (hq : m.Quiet) (verb : Verb) (key : ObjectKey) (x : Object)
    (result : Object → Object) : (m.overwrite verb key x result).2.Quiet := by
  rcases overwrite_cases verb key x result m with ⟨e, he⟩ | ⟨stored, -, -, hw⟩
  · rw [he]
    exact hq
  · rw [hw]
    exact ⟨hq.faults, hq.conflicts⟩

theorem Quiet.withKey {α : Type} (hq : m.Quiet) (x : Object)
    {next : ObjectKey → Except StoreError α × Memory} (h : ∀ key, (next key).2.Quiet) :
    (m.withKey x next).2.Quiet := by
  unfold Memory.withKey
  split
  · exact hq
  · exact h _

/-- No call arranges anything. -/
theorem Quiet.answer (hq : m.Quiet) (c : Call) : (m.answer c).2.Quiet := by
  cases c with
  | get key =>
    show (m.get key).2.Quiet
    rw [get, unlessObstacle_free _ (hq.free .get key)]
    exact hq
  | create x =>
    refine hq.withKey x fun key => ?_
    rw [unlessObstacle_free _ (hq.free .create key)]
    split
    · exact hq
    · exact ⟨hq.faults, hq.conflicts⟩
  | replace x =>
    refine hq.withKey x fun key => ?_
    rw [unlessObstacle_free _ (hq.free .replace key)]
    exact hq.overwrite ..
  | replaceStatus x =>
    refine hq.withKey x fun key => ?_
    rw [unlessObstacle_free _ (hq.free .replaceStatus key)]
    split
    · exact hq.overwrite ..
    · exact hq
  | delete key =>
    show (m.delete key).2.Quiet
    rw [Memory.delete, unlessObstacle_free _ (hq.free .delete key)]
    split
    · exact hq
    · exact ⟨hq.faults, hq.conflicts⟩
  | list type ns =>
    show (m.list type ns).2.Quiet
    rw [Memory.list, unlessObstacle_free _ (hq.free .list _)]
    exact hq

theorem Quiet.run {α : Type} (p : Procedure α) (hq : m.Quiet) :
    (p.run Memory.answer m).2.Quiet := by
  induction p generalizing m with
  | done a => exact hq
  | ask c next ih => exact ih _ (hq.answer c)

theorem Quiet.of_run {α : Type} {p : Procedure α} {a : α} {m' : Memory} (hq : m.Quiet)
    (h : p.run Memory.answer m = (a, m')) : m'.Quiet := by
  have hquiet := hq.run p
  rw [h] at hquiet
  exact hquiet

end Memory

/-! ## Syncing -/

/-- The resource is as it is to be: settled in what is stored, or not there. -/
def Managed.IsAs (resource : Managed) (m : Memory) : Existence → Prop
  | .present => ∃ stored, m.objects.get? resource.key = some stored ∧
      resource.object.isSettled stored = true
  | .absent => m.objects.get? resource.key = none

theorem Managed.IsAs.congr {resource : Managed} {m m' : Memory} {state : Existence}
    (hget : m'.objects.get? resource.key = m.objects.get? resource.key)
    (h : resource.IsAs m state) : resource.IsAs m' state := by
  cases state with
  | present =>
    obtain ⟨stored, hstored, hsettled⟩ := h
    exact ⟨stored, hget.trans hstored, hsettled⟩
  | absent => exact hget.trans h

open Memory

variable {m : Memory}

theorem Object.overlay_key (desired live : Object) : (desired.overlay live).key = desired.key := rfl

/-- A resource that is missing is created. -/
theorem ensurePresent_missing (hq : m.Quiet) (resource : Managed)
    (hget : m.objects.get? resource.key = none) :
    (ensurePresent resource).run.run Memory.answer m = (.ok .created,
      ({ m with issued := m.issued + 1 }.write .create resource.key
        (m.created resource.key resource.object)).2) := by
  have hcreate := hq.create resource.keyed hget
  have hask : (Attempt.ask (SyncError.mk "create" resource.key)
      (.create resource.object)).run.run Memory.answer m = (.ok _, _) :=
    Attempt.run_ask_ok hcreate
  exact (Attempt.run_bind_ok (Attempt.run_find_notFound (hq.get_none hget))).trans
    (Attempt.run_bind_ok hask)

/-- A resource that lacks something is overwritten. -/
theorem ensurePresent_stale (hq : m.Quiet) (resource : Managed) {live : Object}
    (hget : m.objects.get? resource.key = some live)
    (hstale : ¬resource.object.isSettled live = true) :
    (ensurePresent resource).run.run Memory.answer m = (.ok .updated, (m.write .replace
      resource.key (m.replaced resource.key (resource.object.overlay live) live)).2) := by
  have hfind : (Attempt.find (SyncError.mk "get" resource.key) resource.key).run.run
      Memory.answer m = (.ok (some live), m) := Attempt.run_find_ok (hq.get_some hget)
  have hreplace := hq.replace ((resource.object.overlay_key live).trans resource.keyed) hget
    (isCurrent_of_version rfl)
  have hask : (Attempt.ask (SyncError.mk "update" resource.key)
      (.replace (resource.object.overlay live))).run.run Memory.answer m = (.ok _, _) :=
    Attempt.run_ask_ok hreplace
  unfold ensurePresent
  refine (Attempt.run_bind_ok hfind).trans ?_
  simp only [hstale]
  exact Attempt.run_bind_ok hask

theorem ensurePresent_settled (hq : m.Quiet) (resource : Managed) {live : Object}
    (hget : m.objects.get? resource.key = some live)
    (hsettled : resource.object.isSettled live = true) :
    (ensurePresent resource).run.run Memory.answer m = (.ok .unchanged, m) := by
  refine (Attempt.run_bind_ok (Attempt.run_find_ok (hq.get_some hget))).trans ?_
  dsimp only
  rw [if_pos hsettled]
  rfl

theorem ensurePresent_quiet (hq : m.Quiet) (resource : Managed) :
    ∃ outcome m', (ensurePresent resource).run.run Memory.answer m = (.ok outcome, m') ∧
      Touched resource.key m m' ∧ resource.IsAs m' .present := by
  cases hget : m.objects.get? resource.key with
  | none =>
    refine ⟨.created, _, ensurePresent_missing hq resource hget, ?_, ?_⟩
    · exact ⟨⟨hq.faults, hq.conflicts⟩, fun _ hother => SortedMap.get?_insert_ne _ _ hother⟩
    · exact ⟨_, SortedMap.get?_insert_self _ _, Object.isSettled_created _ _ _ _⟩
  | some live =>
    by_cases hs : resource.object.isSettled live = true
    · exact ⟨.unchanged, m, ensurePresent_settled hq resource hget hs, .refl hq, live, hget, hs⟩
    · exact ⟨.updated, _, ensurePresent_stale hq resource hget hs, touched_write hq _ _,
        _, SortedMap.get?_insert_self _ _, Object.isSettled_replaced _ _ _ _ _ _⟩

/-- A resource that is not there is left so. -/
theorem ensureAbsent_missing (hq : m.Quiet) {key : ObjectKey} (hget : m.objects.get? key = none) :
    (ensureAbsent key).run.run Memory.answer m = (.ok .absent, m) :=
  Attempt.run_bind_ok (Attempt.run_find_notFound (hq.get_none hget))

/-- A resource that is there is deleted. -/
theorem ensureAbsent_stored (hq : m.Quiet) {key : ObjectKey} {live : Object}
    (hget : m.objects.get? key = some live) :
    (ensureAbsent key).run.run Memory.answer m = (.ok .deleted, { m with
      objects := m.objects.erase key
      journal := m.journal ++ [⟨.delete, key⟩] }) := by
  have hfind : (Attempt.find (SyncError.mk "get" key) key).run.run Memory.answer m =
      (.ok (some live), m) := Attempt.run_find_ok (hq.get_some hget)
  unfold ensureAbsent
  refine (Attempt.run_bind_ok hfind).trans ?_
  simp only [Attempt.run, ExceptT.mk, Dialogue.run, hq.delete hget]

theorem ensureAbsent_quiet (hq : m.Quiet) (resource : Managed) :
    ∃ outcome m', (ensureAbsent resource.key).run.run Memory.answer m = (.ok outcome, m') ∧
      Touched resource.key m m' ∧ resource.IsAs m' .absent := by
  cases hget : m.objects.get? resource.key with
  | none => exact ⟨.absent, m, ensureAbsent_missing hq hget, .refl hq, hget⟩
  | some live =>
    exact ⟨.deleted, _, ensureAbsent_stored hq hget, hq.touched_delete,
      SortedMap.get?_erase_self _⟩

theorem ensure_quiet (hq : m.Quiet) (resource : Managed) (state : Existence) :
    ∃ outcome m', (ensure resource state).run.run Memory.answer m = (.ok outcome, m') ∧
      Touched resource.key m m' ∧ resource.IsAs m' state := by
  cases state with
  | present => exact ensurePresent_quiet hq resource
  | absent => exact ensureAbsent_quiet hq resource

/-! ## Writing a status -/

namespace Record

variable {key : ObjectKey} {r : Record} {o : Object}

/-- The record with this status. -/
def withStatus (r : Record) (phase : Phase) (message : String) : Record :=
  { r with status := some ⟨some phase, message⟩ }

theorem stage_permitted {phase : Phase} (hpermits : Phase.permits r.phase phase = true)
    (message : String) : r.stage phase message = .ok (r.withStatus phase message) := by
  unfold stage
  cases hr : r.phase with
  | none => rfl
  | some source =>
    rw [hr] at hpermits
    exact if_pos hpermits

theorem object_key_of_stored {changed : Record} (ho : o.key = .ok key) (hkey : key.type = type)
    (hname : changed.metadata.name = o.metadata.name)
    (hns : changed.metadata.ns = o.metadata.ns) : changed.object.key = .ok key := by
  have hsome : changed.metadata.name.isSome := by
    rw [hname, Object.name_of_key ho]
    rfl
  rw [changed.object_key hsome]
  exact congrArg _ (key_eq ho hkey hname hns)

theorem writeStatus_clear (hclear : m.Clear key) (hm : m.Reachable) (hkey : key.type = type)
    (hget : m.objects.get? key = some o) {staged : Record} (hstaged : staged.Derived o) :
    ∃ written, ofObject (m.stamp (m.marked key staged o)) = .ok written ∧
      staged.writeStatus.run Memory.answer m =
        (.ok written, (m.write (m.statusVerb key) key (m.marked key staged o)).2) := by
  have hxkey := object_key_of_stored (hm.keyed _ _ hget) hkey hstaged.name hstaged.ns
  have hcur : isCurrent staged.object o = true := isCurrent_of_version hstaged.version
  have hmarked : (m.marked key staged o).IsRecord := isRecord_marked m key staged hstaged.isRecord
  obtain ⟨written, hwritten⟩ := isRecord_stamp m hmarked
  refine ⟨written, hwritten, ?_⟩
  -- the status goes alone where the store keeps it apart, else with the whole record
  by_cases hstatus : m.hasStatusSubresource key = true
  · have hrun := run_writeStatus_ok
      (replaceStatus_of_free (hclear .replaceStatus) hxkey hget hcur hstatus)
    rw [marked, if_pos hstatus] at hwritten ⊢
    rw [statusVerb, if_pos hstatus]
    exact hrun.trans (Prod.ext hwritten rfl)
  · have hrun := run_writeStatus_notFound
      (replaceStatus_none_of_free (hclear .replaceStatus) hxkey (Bool.eq_false_iff.2 hstatus))
    rw [replace_of_free (hclear .replace) hxkey hget hcur] at hrun
    rw [marked, if_neg hstatus] at hwritten ⊢
    rw [statusVerb, if_neg hstatus]
    exact hrun.trans (Prod.ext hwritten rfl)

end Record

section Passes

variable {key : ObjectKey} {r : Record} {o : Object} {phase : Phase}

/-- An update of the status of a record made from the stored one writes it once. -/
theorem updateStatus_writes (hclear : m.Clear key) (hm : m.Reachable)
    (hkey : key.type = Record.type) (hget : m.objects.get? key = some o) (hr : r.Derived o)
    (hpermits : Phase.permits r.phase phase = true) (message : String) :
    ∃ written, Record.ofObject (m.stamp (m.marked key (r.withStatus phase message) o)) =
        .ok written ∧
      (updateStatus phase message r).run Memory.answer m = ((.ok (), written),
        (m.write (m.statusVerb key) key (m.marked key (r.withStatus phase message) o)).2) := by
  have hstaged := hr.staged (Record.stage_permitted hpermits message)
  obtain ⟨written, hwritten, hrun⟩ := Record.writeStatus_clear hclear hm hkey hget hstaged
  refine ⟨written, hwritten, ?_⟩
  unfold updateStatus
  rw [Record.stage_permitted hpermits]
  dsimp only
  rw [Dialogue.run_bind, hrun]
  rfl

theorem setPhase_writes (hq : m.Quiet) (hm : m.Reachable) (hkey : key.type = Record.type)
    (hget : m.objects.get? key = some o) (ho : Record.ofObject o = .ok r)
    (hpermits : Phase.permits r.phase phase = true) (message : String) :
    ∃ written, Record.ofObject (m.stamp (m.marked key (r.withStatus phase message) o)) =
        .ok written ∧
      (setPhase phase message r).run.run Memory.answer m = (.ok written,
        (m.write (m.statusVerb key) key (m.marked key (r.withStatus phase message) o)).2) := by
  obtain ⟨written, hwritten, hrun⟩ :=
    updateStatus_writes (hq.clear key) hm hkey hget (.read ho) hpermits message
  refine ⟨written, hwritten, ?_⟩
  unfold setPhase
  rw [Attempt.run_lift_bind, Dialogue.run_bind, hrun]
  rfl

theorem Phase.permits_of_ne {source : Option Phase} (h : source ≠ some .unmanaged)
    (target : Phase) : Phase.permits source target = true := by
  simp [Phase.permits, h]

theorem updateStatus_quiet (hq : m.Quiet) (hm : m.Reachable) (hkey : key.type = Record.type)
    (hstored : Record.StoredAs m key r) (hphase : r.phase ≠ some .unmanaged) (phase : Phase)
    (message : String) :
    ∃ written m', (updateStatus phase message r).run Memory.answer m = ((.ok (), written), m') ∧
      Touched key m m' ∧ Record.StoredAs m' key written ∧
        written.status = some ⟨some phase, message⟩ := by
  obtain ⟨o, hget, ho⟩ := hstored
  obtain ⟨written, hwritten, hrun⟩ :=
    updateStatus_writes (hq.clear key) hm hkey hget (.read ho) (Phase.permits_of_ne hphase phase)
      message
  exact ⟨written, _, hrun, touched_write hq _ _, ⟨_, SortedMap.get?_insert_self _ _, hwritten⟩,
    Record.status_of_ofObject hwritten (m.status?_marked key _ o)⟩

theorem setPhase_quiet (hq : m.Quiet) (hm : m.Reachable) (hkey : key.type = Record.type)
    (hstored : Record.StoredAs m key r) (hphase : r.phase ≠ some .unmanaged) (phase : Phase)
    (message : String) :
    ∃ written m', (setPhase phase message r).run.run Memory.answer m = (.ok written, m') ∧
      Touched key m m' ∧ Record.StoredAs m' key written ∧
        written.status = some ⟨some phase, message⟩ := by
  obtain ⟨o, hget, ho⟩ := hstored
  obtain ⟨written, hwritten, hrun⟩ :=
    setPhase_writes hq hm hkey hget ho (Phase.permits_of_ne hphase phase) message
  exact ⟨written, _, hrun, touched_write hq _ _, ⟨_, SortedMap.get?_insert_self _ _, hwritten⟩,
    Record.status_of_ofObject hwritten (m.status?_marked key _ o)⟩

theorem prepare_quiet {c : Configuration} (hq : m.Quiet) (hm : m.Reachable)
    (hkey : key.type = Record.type) (hstored : Record.StoredAs m key r)
    (hdeletion : r.metadata.deletionTimestamp = none) (hphase : r.phase ≠ some .unmanaged)
    (hversion : isSupported r.spec.version = true) (hresolve : Configuration.resolve r = .ok c) :
    ∃ r' m', (prepare key).run.run Memory.answer m = (.ok (.ready c r'), m') ∧
      Touched key m m' ∧ Record.StoredAs m' key r' ∧ r'.phase ≠ some .unmanaged := by
  obtain ⟨o, hget, ho⟩ := id hstored
  have hfetch := run_fetchRecord (Attempt.run_find_ok (hq.get_some hget)) ho
  cases hnew : r.phase with
  | none =>
    obtain ⟨r', m', hset, htouched, hstored', hstatus⟩ :=
      setPhase_quiet hq hm hkey hstored hphase .created ""
    refine ⟨r', m', run_prepare_new hfetch hdeletion hnew hversion hresolve hset, htouched,
      hstored', ?_⟩
    rw [Record.phase, hstatus]
    simp
  | some phase =>
    have hmanaged : phase ≠ .unmanaged := fun h => hphase (hnew.trans (congrArg some h))
    exact ⟨r, m, run_prepare_known hfetch hdeletion hnew hmanaged hversion hresolve, .refl hq,
      hstored, hphase⟩

end Passes

end MeshOperator
