import MeshOperator.Proofs.Release

/-!
Passes over a record that is being deleted.

A pass lets go of such a record in two writes: the first takes the finalizer of the operator off,
the second marks the record as unmanaged. Whether there is anything to do at all, a pass reads off
the finalizer. So a pass that fails before the first write is made up for by a later one, but one
that is broken off between the two is not: the passes after it end well and leave the record as it
is. `deletion_completed` says that nothing else can go wrong.
-/

namespace MeshOperator

set_option autoImplicit false

open Memory

/-! ## One pass -/

section Pass

variable {m m' : Memory} {key : ObjectKey} {r : Record} {components : List Component}
  {result : Except ReconcileError PassOutcome}

/-- A pass over a record that is being deleted does not get beyond its preparation. -/
theorem pass_leaving (hstored : Record.StoredAs m key r)
    (hdeletion : r.metadata.deletionTimestamp.isSome)
    (h : (reconcilePass components key).run.run Memory.answer m = (result, m')) :
    ((∃ e, result = .error e) ∨
        result = .ok .deleted ∧
          (prepare key).run.run Memory.answer m = (.ok (.ended .deleted), m')) ∧
      m' = ((prepare key).run.run Memory.answer m).2 := by
  cases hprepare : (prepare key).run.run Memory.answer m with
  | mk p m₁ =>
    cases p with
    | error e =>
      cases (Attempt.run_bind_error hprepare).symm.trans h
      exact ⟨.inl ⟨e, rfl⟩, rfl⟩
    | ok p =>
      have hrun := (Attempt.run_bind_ok hprepare).symm.trans h
      have hother : ∀ {q : Record}, Record.StoredAs m key q →
          q.metadata.deletionTimestamp ≠ none := by
        intro q hq hnone
        cases hstored.unique hq
        rw [hnone] at hdeletion
        cases hdeletion
      cases prepare_cases hprepare with
      | missing hget =>
        obtain ⟨o, hsome, -⟩ := hstored
        cases hget.symm.trans hsome
      | gone _ _ _ =>
        cases hrun
        exact ⟨.inr ⟨rfl, rfl⟩, rfl⟩
      | released _ _ _ _ =>
        cases hrun
        exact ⟨.inr ⟨rfl, rfl⟩, rfl⟩
      | unmanaged hq hnone _ => exact absurd hnone (hother hq)
      | unsupported hq hnone _ _ => exact absurd hnone (hother hq)
      | marked hq hnone _ _ _ _ => exact absurd hnone (hother hq)
      | known hq hnone _ _ _ _ => exact absurd hnone (hother hq)

/-- A pass leaves the record being deleted, with the finalizers that it had or without that of the
operator. -/
theorem pass_keepsLeaving (hm : m.Reachable) (hkey : key.type = Record.type)
    (hstored : Record.StoredAs m key r) (hdeletion : r.metadata.deletionTimestamp.isSome)
    (h : (reconcilePass components key).run.run Memory.answer m = (result, m')) :
    ∃ r', Record.StoredAs m' key r' ∧ r'.metadata.deletionTimestamp.isSome := by
  obtain ⟨-, rfl⟩ := pass_leaving hstored hdeletion h
  obtain ⟨r', hstored', hsame⟩ :=
    hm.keeps_declaration hkey (List.forall_mem_nil _) (careful_prepare key) hstored
  have hkept : r'.metadata.deletionTimestamp = r.metadata.deletionTimestamp :=
    (congrArg Metadata.deletionTimestamp hsame.metadata :)
  exact ⟨r', hstored', by rw [hkept]; exact hdeletion⟩

/-- A pass that succeeds has let go of a record that still had the finalizer. -/
theorem pass_letsGo (hm : m.Reachable) (hkey : key.type = Record.type)
    (hstored : Record.StoredAs m key r) (hdeletion : r.metadata.deletionTimestamp.isSome)
    (hfinalizer : r.hasFinalizer = true) {outcome : PassOutcome}
    (h : (reconcilePass components key).run.run Memory.answer m = (.ok outcome, m')) :
    outcome = .deleted ∧ ∃ r', Record.StoredAs m' key r' ∧ r'.hasFinalizer = false ∧
      r'.phase = some .unmanaged := by
  obtain ⟨⟨e, he⟩ | ⟨hresult, hprepare⟩, -⟩ := pass_leaving hstored hdeletion h
  · cases he
  · cases hresult
    refine ⟨rfl, ?_⟩
    cases prepare_cases hprepare with
    | missing hget =>
      obtain ⟨o, hsome, -⟩ := hstored
      cases hget.symm.trans hsome
    | gone hq _ hnone =>
      cases hstored.unique hq
      cases hfinalizer.symm.trans hnone
    | released hq _ _ hrelease =>
      obtain ⟨r', hstored', hfinalizer', hstatus⟩ := release_ok hm hkey hq hrelease
      exact ⟨r', hstored', hfinalizer', by rw [Record.phase, hstatus]; rfl⟩

/-- A pass leaves a record without the finalizer as it is, marked or not. -/
theorem pass_leavesAlone (hstored : Record.StoredAs m key r)
    (hdeletion : r.metadata.deletionTimestamp.isSome) (hfinalizer : r.hasFinalizer = false)
    (h : (reconcilePass components key).run.run Memory.answer m = (result, m')) :
    m'.objects = m.objects ∧ ∀ outcome, result = .ok outcome → outcome = .deleted := by
  obtain ⟨hresult, rfl⟩ := pass_leaving hstored hdeletion h
  constructor
  · rcases hstored.fetch_cases with hfoiled | hfetch
    · have hprepare : Foiled m ((prepare key).run.run Memory.answer m) := hfoiled.bind
      obtain ⟨e, f, he⟩ := hprepare
      rw [he]
    · rw [run_prepare_gone hfetch hdeletion hfinalizer]
  · rintro outcome rfl
    rcases hresult with ⟨e, he⟩ | ⟨hok, -⟩
    · cases he
    · exact Except.ok.inj hok

end Pass

/-! ## Runs of passes -/

/-- A pass of a run, with the stores before and after it. -/
structure Visit where
  before : Memory
  result : Except ReconcileError PassOutcome
  after : Memory

/-- The pass was broken off between the two writes of a release: it failed and has taken the
finalizer off, but the record is not unmanaged. -/
def Visit.BrokenOff (key : ObjectKey) (v : Visit) : Prop :=
  (∃ e, v.result = .error e) ∧
    ∃ r r', Record.StoredAs v.before key r ∧ r.hasFinalizer = true ∧
      Record.StoredAs v.after key r' ∧ r'.hasFinalizer = false ∧ r'.phase ≠ some .unmanaged

/-- Passes over the record with this key one after another, with errors, conflicts and the loss of
a status subresource arranged between them. -/
inductive Visited (components : List Component) (key : ObjectKey) (m : Memory) :
    List Visit → Memory → Prop where
  | start : Visited components key m [] m
  | arranged {visits : List Visit} {m' : Memory} (op : Operation) (hop : op.Arranges)
      (h : Visited components key m visits m') : Visited components key m visits (op.apply m')
  | pass {visits : List Visit} {m' m'' : Memory} {result : Except ReconcileError PassOutcome}
      (h : Visited components key m visits m')
      (hrun : (reconcilePass components key).run.run Memory.answer m' = (result, m'')) :
      Visited components key m (visits ++ [⟨m', result, m''⟩]) m''

/-- A record on its way out after some passes: it still has the finalizer and no pass was broken
off, or it has none and reads unmanaged just if no pass was. -/
structure Leaving (key : ObjectKey) (visits : List Visit) (m : Memory) (r : Record) : Prop where
  stored : Record.StoredAs m key r
  deletion : r.metadata.deletionTimestamp.isSome
  held : r.hasFinalizer = true → ∀ v ∈ visits, ¬v.BrokenOff key
  released : r.hasFinalizer = false →
    (r.phase = some .unmanaged ↔ ∀ v ∈ visits, ¬v.BrokenOff key)

section Visits

variable {m m' : Memory} {key : ObjectKey} {r : Record} {components : List Component}
  {visits : List Visit} {result : Except ReconcileError PassOutcome}

theorem Visited.reachable (h : Visited components key m visits m') (hm : m.Reachable) :
    m'.Reachable := by
  induction h with
  | start => exact hm
  | arranged op _ _ ih =>
    obtain ⟨effects, hrun⟩ := ih
    exact ⟨_, hrun.step op⟩
  | pass _ hrun ih => exact ih.of_run hrun

theorem Leaving.arranged (h : Leaving key visits m r) {op : Operation} (hop : op.Arranges) :
    Leaving key visits (op.apply m) r :=
  ⟨h.stored.congr (by rw [hop.objects]), h.deletion, h.held, h.released⟩

/-- No pass over a record without the finalizer is broken off. -/
theorem not_brokenOff_of_released {v : Visit} (hstored : Record.StoredAs v.before key r)
    (hfinalizer : r.hasFinalizer = false) : ¬v.BrokenOff key := by
  rintro ⟨-, r₁, -, hstored₁, hheld, -⟩
  cases hstored.unique hstored₁
  cases hfinalizer.symm.trans hheld

theorem Leaving.pass (h : Leaving key visits m r) (hm : m.Reachable)
    (hkey : key.type = Record.type)
    (hrun : (reconcilePass components key).run.run Memory.answer m = (result, m')) :
    ∃ r', Leaving key (visits ++ [⟨m, result, m'⟩]) m' r' := by
  have hall : ∀ {v : Visit}, (∀ w ∈ visits ++ [v], ¬w.BrokenOff key) ↔
      (∀ w ∈ visits, ¬w.BrokenOff key) ∧ ¬v.BrokenOff key := by simp [or_imp, forall_and]
  cases hfinalizer : r.hasFinalizer with
  | false =>
    -- there is nothing to do any more
    obtain ⟨hobjects, -⟩ := pass_leavesAlone h.stored h.deletion hfinalizer hrun
    have hnot : ¬Visit.BrokenOff key ⟨m, result, m'⟩ := not_brokenOff_of_released h.stored hfinalizer
    refine ⟨r, h.stored.congr (by rw [hobjects]), h.deletion, fun hheld => ?_, fun _ => ?_⟩
    · cases hfinalizer.symm.trans hheld
    · rw [hall]
      exact (h.released hfinalizer).trans ⟨fun hv => ⟨hv, hnot⟩, And.left⟩
  | true =>
    have hvisits := h.held hfinalizer
    obtain ⟨r', hstored', hdeletion'⟩ := pass_keepsLeaving hm hkey h.stored h.deletion hrun
    cases result with
    | ok outcome =>
      obtain ⟨-, r₁, hstored₁, hreleased, hphase⟩ :=
        pass_letsGo hm hkey h.stored h.deletion hfinalizer hrun
      cases hstored'.unique hstored₁
      refine ⟨r', hstored', hdeletion', fun _ => hall.2 ⟨hvisits, ?_⟩, fun _ => ?_⟩
      · rintro ⟨⟨e, he⟩, -⟩
        cases he
      · refine ⟨fun _ => hall.2 ⟨hvisits, ?_⟩, fun _ => hphase⟩
        rintro ⟨⟨e, he⟩, -⟩
        cases he
    | error e =>
      -- the pass was broken off just if it has got as far as the first write only
      refine ⟨r', hstored', hdeletion', fun hheld => hall.2 ⟨hvisits, ?_⟩, fun hreleased => ?_⟩
      · rintro ⟨-, _, r₁, -, -, hstored₁, hnone, -⟩
        cases hstored'.unique hstored₁
        cases hheld.symm.trans hnone
      · rw [hall]
        constructor
        · intro hphase
          refine ⟨hvisits, ?_⟩
          rintro ⟨-, _, r₁, -, -, hstored₁, -, hphase₁⟩
          cases hstored'.unique hstored₁
          exact hphase₁ hphase
        · rintro ⟨-, hnot⟩
          refine Decidable.byContradiction fun hphase => hnot ?_
          exact ⟨⟨e, rfl⟩, r, r', h.stored, hfinalizer, hstored', hreleased, hphase⟩

theorem Visited.leaving (h : Visited components key m visits m') (hm : m.Reachable)
    (hkey : key.type = Record.type) (hstored : Record.StoredAs m key r)
    (hdeletion : r.metadata.deletionTimestamp.isSome) (hfinalizer : r.hasFinalizer = true) :
    ∃ r', Leaving key visits m' r' := by
  induction h with
  | start =>
    refine ⟨r, hstored, hdeletion, by simp, fun hnone => ?_⟩
    cases hfinalizer.symm.trans hnone
  | arranged op hop _ ih =>
    obtain ⟨r', hleaving⟩ := ih
    exact ⟨r', hleaving.arranged hop⟩
  | pass h hrun ih =>
    obtain ⟨r', hleaving⟩ := ih
    exact hleaving.pass (h.reachable hm) hkey hrun

end Visits

/-- Once a pass over a record that is being deleted succeeds, after any others that may have
failed, the record is stored without the finalizer of the operator. It reads unmanaged just if none
of the passes before was broken off between taking the finalizer off and marking the record. -/
theorem deletion_completed {m m' m'' : Memory} (hm : m.Reachable) {key : ObjectKey}
    (hkey : key.type = Record.type) {r : Record} (hstored : Record.StoredAs m key r)
    (hdeletion : r.metadata.deletionTimestamp.isSome) (hfinalizer : r.hasFinalizer = true)
    {components : List Component} {visits : List Visit}
    (hvisited : Visited components key m visits m') {outcome : PassOutcome}
    (hlast : (reconcilePass components key).run.run Memory.answer m' = (.ok outcome, m'')) :
    outcome = .deleted ∧ ∃ r', Record.StoredAs m'' key r' ∧ r'.hasFinalizer = false ∧
      (r'.phase = some .unmanaged ↔ ∀ v ∈ visits, ¬v.BrokenOff key) := by
  obtain ⟨r₁, h⟩ := hvisited.leaving hm hkey hstored hdeletion hfinalizer
  cases hreleased : r₁.hasFinalizer with
  | false =>
    obtain ⟨hobjects, houtcome⟩ := pass_leavesAlone h.stored h.deletion hreleased hlast
    obtain ⟨o, hget, ho⟩ := h.stored
    exact ⟨houtcome outcome rfl, r₁, ⟨o, by rw [hobjects]; exact hget, ho⟩, hreleased,
      h.released hreleased⟩
  | true =>
    obtain ⟨houtcome, r', hstored', hreleased', hphase⟩ :=
      pass_letsGo (hvisited.reachable hm) hkey h.stored h.deletion hreleased hlast
    exact ⟨houtcome, r', hstored', hreleased', fun _ => h.held hreleased, fun _ => hphase⟩

/-- A record that is being deleted and held by two finalizers. -/
def Record.leaving : Record :=
  { held with metadata := { held.metadata with deletionTimestamp := some .epoch } }

theorem Record.storedAs_leaving :
    StoredAs (.ofRecord leaving) leaving.key (leaving.inserted (.empty .epoch)) :=
  storedAs_ofRecord rfl

/-- The record, in a store where the next read is a conflict. -/
def Memory.withLeaving : Memory := (ofRecord .leaving).conflictNext .get 1

/-- The conflict stops the first pass before it has written anything; the second pass makes up for
it. -/
theorem deletion_completed_withLeaving :
    let key := Record.leaving.key
    ∃ e m₁ m₂ r, (reconcilePass [] key).run.run Memory.answer .withLeaving = (.error e, m₁) ∧
      (reconcilePass [] key).run.run Memory.answer m₁ = (.ok .deleted, m₂) ∧
        Record.StoredAs m₂ key r ∧ r.hasFinalizer = false ∧ r.phase = some .unmanaged := by
  intro key
  let m₁ := (Memory.withLeaving.get key).2
  have hm : Memory.withLeaving.Reachable := by
    obtain ⟨effects, hrun⟩ := Memory.reachable_ofRecord .leaving
    exact ⟨_, hrun.step (.conflictNext _ _)⟩
  have hfirst : (reconcilePass [] key).run.run Memory.answer .withLeaving =
      (.error (.store key (.conflict key)), m₁) := rfl
  have hm₁ : m₁.Reachable := hm.of_run hfirst
  have hquiet : m₁.Quiet := ⟨rfl, fun verb => by cases verb <;> rfl⟩
  have hstored : Record.StoredAs m₁ key (Record.leaving.inserted (.empty .epoch)) :=
    Record.storedAs_leaving
  have hheld : (Record.leaving.inserted (.empty .epoch)).hasFinalizer = true := by decide
  obtain ⟨m₂, hrelease, -⟩ := release_clear (hquiet.clear key) hm₁ rfl hstored
  obtain ⟨o, hget, ho⟩ := id hstored
  have hprepare := run_prepare_released
    (run_fetchRecord (Attempt.run_find_ok (hquiet.get_some hget)) ho) rfl hheld hrelease
  have hsecond : (reconcilePass [] key).run.run Memory.answer m₁ = (.ok .deleted, m₂) :=
    Attempt.run_bind_ok hprepare
  obtain ⟨-, r, hstored₂, hreleased, hphase⟩ := deletion_completed hm rfl
    (show Record.StoredAs .withLeaving key _ from Record.storedAs_leaving) rfl hheld
    (.pass .start hfirst) hsecond
  refine ⟨_, m₁, m₂, r, hfirst, hsecond, hstored₂, hreleased, hphase.2 fun v hv => ?_⟩
  -- the first pass has left the finalizer on
  cases List.mem_singleton.1 hv
  rintro ⟨-, r₁, r₂, -, -, hstored₁, hnone, -⟩
  cases hstored.unique hstored₁
  cases hheld.symm.trans hnone

/-! ## A pass that is broken off -/

/-- If only the status write is struck by an error, a pass takes the finalizer off and fails, and
the next pass that is not disturbed ends well and leaves the status as it was. -/
theorem pass_interrupted {m : Memory} (hm : m.Reachable) {key : ObjectKey}
    (hkey : key.type = Record.type) {r : Record} (hstored : Record.StoredAs m key r)
    (hdeletion : r.metadata.deletionTimestamp.isSome) (hfinalizer : r.hasFinalizer = true)
    {f : Fault} (hfaults : m.faults = [f]) (hstrikes : f.strikes .replaceStatus key = true)
    (hconflicts : ∀ verb, m.conflicts verb = 0) (components : List Component) :
    ∃ e m₁ r', (reconcilePass components key).run.run Memory.answer m = (.error e, m₁) ∧
      (reconcilePass components key).run.run Memory.answer m₁.clearFaults =
        (.ok .deleted, m₁.clearFaults) ∧
      Record.StoredAs m₁.clearFaults key r' ∧ r'.hasFinalizer = false ∧ r'.status = r.status := by
  obtain ⟨o, hget, ho⟩ := id hstored
  have hverb : f.verb = .replaceStatus := by
    simp only [Fault.strikes, Bool.and_eq_true, decide_eq_true_eq] at hstrikes
    exact hstrikes.1.1
  have hfree : ∀ verb, verb ≠ .replaceStatus → (m.obstacle? verb key).1 = none := by
    intro verb hne
    have hmiss : f.strikes verb key = false := by
      simp [Fault.strikes, hverb, hne.symm]
    simp [obstacle?, hconflicts verb, hfaults, hmiss]
  have hread : (fetchRecord key).run.run Memory.answer m = (.ok (some r), m) := by
    refine run_fetchRecord (Attempt.run_find_ok ?_) ho
    rw [get_of_free (hfree .get (by decide)), find?, hget]
  obtain ⟨r', m₁, hrelease, ⟨o', hget', ho'⟩, hstatus, hreleased, hconflicts'⟩ :=
    release_interrupted hm hkey hget ho hfinalizer (hfree .replace (by decide))
      (hconflicts .replaceStatus) (f := f) (by simp [hfaults, hstrikes])
  have hfirst : (reconcilePass components key).run.run Memory.answer m = (.error _, m₁) :=
    Attempt.run_bind_error (run_prepare_released hread hdeletion hfinalizer hrelease)
  obtain ⟨r₁, hstored₁, hdeletion₁⟩ := pass_keepsLeaving hm hkey hstored hdeletion hfirst
  cases hstored₁.unique ⟨o', hget', ho'⟩
  have hquiet : m₁.clearFaults.Quiet :=
    ⟨rfl, fun verb => (congrFun hconflicts' verb).trans (hconflicts verb)⟩
  have hagain : (fetchRecord key).run.run Memory.answer m₁.clearFaults =
      (.ok (some r'), m₁.clearFaults) :=
    run_fetchRecord (Attempt.run_find_ok (hquiet.get_some hget')) ho'
  exact ⟨_, m₁, r', hfirst, Attempt.run_bind_ok (run_prepare_gone hagain hdeletion₁ hreleased),
    ⟨o', hget', ho'⟩, hreleased, hstatus⟩

/-- So a deletion can end well and leave the record unmarked: status writes fail during the first
pass, and nothing disturbs the second one. -/
theorem deletion_unmarked :
    let key := Record.leaving.key
    let m := (Memory.ofRecord .leaving).fail ⟨.replaceStatus, key.kind, none, "status down"⟩
    ∃ e m₁ r, (reconcilePass [] key).run.run Memory.answer m = (.error e, m₁) ∧
      (reconcilePass [] key).run.run Memory.answer m₁.clearFaults =
        (.ok .deleted, m₁.clearFaults) ∧
      Record.StoredAs m₁.clearFaults key r ∧ r.phase ≠ some .unmanaged := by
  intro key m
  have hm : m.Reachable := by
    obtain ⟨effects, hrun⟩ := Memory.reachable_ofRecord .leaving
    exact ⟨_, hrun.step (.fail _)⟩
  have hstored : Record.StoredAs m key (Record.leaving.inserted (.empty .epoch)) :=
    Record.storedAs_leaving
  obtain ⟨e, m₁, r, hfirst, hsecond, hstored', -, hstatus⟩ := pass_interrupted hm rfl hstored rfl
    (by decide) rfl (by decide) (fun _ => rfl) []
  refine ⟨e, m₁, r, hfirst, hsecond, hstored', ?_⟩
  rw [Record.phase, hstatus]
  simp [Record.inserted, Record.leaving, Record.held, Record.plain]

end MeshOperator
