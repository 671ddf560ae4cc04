import MeshOperator.Proofs.Deletion

/-!
Decommissions, broken off and taken up again.

A decommission lets go of the record whatever it finds: unlike a pass it does not read off the
finalizer whether there is anything to do. So wherever one is broken off, a later one ends where it
would have ended. What ties the two together is that an attempt that fails leaves what the record
declares as it is, but perhaps for the finalizer that is to go anyway. Once one has succeeded,
passes over the record have nothing to write.
-/

namespace MeshOperator

set_option autoImplicit false

open Memory

/-! ## Records that were let go of -/

/-- The second record is what is left of the first one once the operator has let go of it. -/
structure Record.Released (r r' : Record) : Prop where
  finalizers : r'.metadata.finalizerList = r.metadata.finalizerList.filter (· ≠ operatorFinalizer)
  metadata : r'.metadata.lasting = r.metadata.lasting
  spec : r'.spec = r.spec
  status : r'.status = some ⟨some .unmanaged, ""⟩

namespace Record

variable {r r₁ r' : Record}

theorem SameDeclaration.released (h : r.SameDeclaration r') (hfinalizer : r'.hasFinalizer = false)
    (hstatus : r'.status = some ⟨some .unmanaged, ""⟩) : r.Released r' where
  finalizers := by
    rcases h.finalizers with hsame | hless
    · rw [Record.hasFinalizer, hsame, List.contains_eq_mem, decide_eq_false_iff_not] at hfinalizer
      rw [hsame, List.filter_eq_self.2]
      rintro x hx
      exact decide_eq_true fun heq => hfinalizer (heq ▸ hx)
    · exact hless
  metadata := h.metadata
  spec := h.spec
  status := hstatus

/-- It does not matter whether the finalizer of the operator was gone before. -/
theorem Released.of_same (h : r₁.Released r') (hsame : r.SameDeclaration r₁) : r.Released r' where
  finalizers := by
    rw [h.finalizers]
    rcases hsame.finalizers with hall | hless
    · rw [hall]
    · rw [hless, List.filter_filter]
      simp only [Bool.and_self]
  metadata := h.metadata.trans hsame.metadata
  spec := h.spec.trans hsame.spec
  status := h.status

theorem Released.hasFinalizer (h : r.Released r') : r'.hasFinalizer = false := by
  simp [Record.hasFinalizer, h.finalizers]

theorem Released.phase (h : r.Released r') : r'.phase = some .unmanaged := by
  rw [Record.phase, h.status]
  rfl

end Record

/-! ## One decommission -/

section Decommission

variable {m m' : Memory} {key : ObjectKey} {r : Record}

/-- A decommission that succeeds has found the record and let go of it. -/
theorem decommission_ok (hm : m.Reachable) (hkey : key.type = Record.type)
    (hstored : Record.StoredAs m key r) {found : Bool}
    (h : (decommission key).run.run Memory.answer m = (.ok found, m')) :
    found = true ∧ ∃ r', Record.StoredAs m' key r' ∧ r.Released r' := by
  obtain ⟨kept, hkept, hsame⟩ :=
    hm.keeps_declaration hkey (List.forall_mem_nil _) (careful_decommission key) hstored
  rw [h] at hkept
  obtain ⟨r?, m₁, hfetch, hrest⟩ := Attempt.run_bind_inv h
  cases r? with
  | none =>
    obtain ⟨-, hnone⟩ := fetchRecord_none hfetch
    obtain ⟨o, hget, -⟩ := hstored
    cases hnone.symm.trans hget
  | some q =>
    obtain ⟨rfl, hq⟩ := fetchRecord_ok hfetch
    obtain ⟨_, m₂, hrelease, hdone⟩ := Attempt.run_bind_inv hrest
    cases hdone
    obtain ⟨r', hstored', hfinalizer, hstatus⟩ := release_ok hm hkey hq hrelease
    cases hkept.unique hstored'
    exact ⟨rfl, kept, hstored', hsame.released hfinalizer hstatus⟩

theorem run_decommission {result : Except ReconcileError Unit} {m₁ : Memory}
    (hfetch : (fetchRecord key).run.run Memory.answer m = (.ok (some r), m₁))
    (hrelease : (release r).run.run Memory.answer m₁ = (result, m')) :
    (decommission key).run.run Memory.answer m = (result.map fun _ => true, m') := by
  refine (Attempt.run_bind_ok hfetch).trans ?_
  cases result with
  | ok _ => exact Attempt.run_bind_ok hrelease
  | error e => exact Attempt.run_bind_error hrelease

theorem fetchRecord_clear (hclear : m.Clear key) (hstored : Record.StoredAs m key r) :
    (fetchRecord key).run.run Memory.answer m = (.ok (some r), m) := by
  obtain ⟨o, hget, ho⟩ := hstored
  refine run_fetchRecord (Attempt.run_find_ok ?_) ho
  rw [get_of_free (hclear .get), find?, hget]

/-- Where nothing is in the way a decommission succeeds, and nothing else is written. -/
theorem decommission_clear (hclear : m.Clear key) (hm : m.Reachable) (hkey : key.type = Record.type)
    (hstored : Record.StoredAs m key r) :
    ∃ m', (decommission key).run.run Memory.answer m = (.ok true, m') ∧
      ∀ other, other ≠ key → m'.objects.get? other = m.objects.get? other := by
  obtain ⟨m', hrelease, hframe⟩ := release_clear hclear hm hkey hstored
  exact ⟨m', run_decommission (fetchRecord_clear hclear hstored) hrelease, hframe⟩

end Decommission

/-! ## Attempts that fail -/

/-- Decommissions of the record with this key that fail one after another, with errors, conflicts
and the loss of a status subresource arranged between them. -/
inductive Tried (key : ObjectKey) (m : Memory) : Memory → Prop where
  | start : Tried key m m
  | arranged {m' : Memory} (op : Operation) (hop : op.Arranges) (h : Tried key m m') :
      Tried key m (op.apply m')
  | failed {m' m'' : Memory} {e : ReconcileError} (h : Tried key m m')
      (hrun : (decommission key).run.run Memory.answer m' = (.error e, m'')) : Tried key m m''

section Tried

variable {m m' : Memory} {key : ObjectKey} {r : Record}

theorem Tried.reachable (h : Tried key m m') (hm : m.Reachable) : m'.Reachable := by
  induction h with
  | start => exact hm
  | arranged op _ _ ih =>
    obtain ⟨effects, hrun⟩ := ih
    exact ⟨_, hrun.step op⟩
  | failed _ hrun ih => exact ih.of_run hrun

/-- Wherever an attempt fails, the record declares what it did. -/
theorem Tried.keeps_declaration (h : Tried key m m') (hm : m.Reachable)
    (hkey : key.type = Record.type) (hstored : Record.StoredAs m key r) :
    ∃ r', Record.StoredAs m' key r' ∧ r.SameDeclaration r' := by
  induction h with
  | start => exact ⟨r, hstored, .refl r⟩
  | arranged op hop _ ih =>
    obtain ⟨r₁, hstored₁, hsame⟩ := ih
    exact ⟨r₁, hstored₁.congr (by rw [hop.objects]), hsame⟩
  | failed h hrun ih =>
    obtain ⟨r₁, hstored₁, hsame⟩ := ih
    obtain ⟨r₂, hstored₂, hsame₂⟩ := (h.reachable hm).keeps_declaration hkey
      (List.forall_mem_nil _) (careful_decommission key) hstored₁
    rw [hrun] at hstored₂
    exact ⟨r₂, hstored₂, hsame.trans hsame₂⟩

end Tried

/-! ## Passes afterwards -/

/-- Nothing was written in between, by clients or behind their back. -/
structure Memory.Unwritten (m m' : Memory) : Prop where
  objects : m'.objects = m.objects
  revision : m'.revision = m.revision
  journal : m'.journal = m.journal

section Afterwards

variable {m m' : Memory} {key : ObjectKey} {r : Record} {components : List Component}

theorem Memory.Unwritten.trans {m'' : Memory} (h : m.Unwritten m') (h' : m'.Unwritten m'') :
    m.Unwritten m'' :=
  ⟨h'.objects.trans h.objects, h'.revision.trans h.revision, h'.journal.trans h.journal⟩

theorem Memory.Operation.Arranges.unwritten {op : Operation} (h : op.Arranges) (m : Memory) :
    m.Unwritten (op.apply m) := by
  cases op with
  | call c => cases h
  | insert object => cases h
  | touch key => cases h
  | _ => exact ⟨rfl, rfl, rfl⟩

/-- A pass writes nothing to a record that is unmanaged and without the finalizer, being deleted or
not. -/
theorem pass_unwritten (hstored : Record.StoredAs m key r) (hfinalizer : r.hasFinalizer = false)
    (hphase : r.phase = some .unmanaged) {result : Except ReconcileError PassOutcome}
    (h : (reconcilePass components key).run.run Memory.answer m = (result, m')) :
    m.Unwritten m' := by
  rcases hstored.fetch_cases with hfoiled | hfetch
  · have hprepare : Foiled m ((prepare key).run.run Memory.answer m) := hfoiled.bind
    have hpass : Foiled m ((reconcilePass components key).run.run Memory.answer m) := hprepare.bind
    obtain ⟨e, f, he⟩ := hpass
    cases he.symm.trans h
    exact ⟨rfl, rfl, rfl⟩
  · obtain ⟨outcome, hprepare⟩ :
        ∃ outcome, (prepare key).run.run Memory.answer m = (.ok (.ended outcome), m) := by
      cases hdeletion : r.metadata.deletionTimestamp with
      | none => exact ⟨_, run_prepare_unmanaged hfetch hdeletion hphase⟩
      | some t => exact ⟨_, run_prepare_gone hfetch (by rw [hdeletion]; rfl) hfinalizer⟩
    have hrun : (reconcilePass components key).run.run Memory.answer m = (.ok outcome, m) :=
      Attempt.run_bind_ok hprepare
    cases hrun.symm.trans h
    exact ⟨rfl, rfl, rfl⟩

theorem Visited.unwritten {visits : List Visit} (h : Visited components key m visits m')
    (hstored : Record.StoredAs m key r) (hfinalizer : r.hasFinalizer = false)
    (hphase : r.phase = some .unmanaged) : m.Unwritten m' := by
  induction h with
  | start => exact ⟨rfl, rfl, rfl⟩
  | arranged op hop _ ih => exact ih.trans (hop.unwritten _)
  | pass _ hrun ih =>
    have hstored' := hstored.congr (by rw [ih.objects])
    exact ih.trans (pass_unwritten hstored' hfinalizer hphase hrun)

end Afterwards

/-- After any number of attempts to decommission a stored record that have failed, be it none:

* a decommission with nothing in its way succeeds, leaves every other object alone, and leaves the
  record with its specification, without the finalizer of the operator, unmanaged, with no message,
  and else as it was at first;
* once a decommission has succeeded, no passes over the record write anything, whatever is arranged
  before and between them. -/
theorem decommission_final {m m' : Memory} (hm : m.Reachable) {key : ObjectKey}
    (hkey : key.type = Record.type) {r : Record} (hstored : Record.StoredAs m key r)
    (htried : Tried key m m') :
    (m'.Clear key → ∃ m'' r', (decommission key).run.run Memory.answer m' = (.ok true, m'') ∧
      (∀ other, other ≠ key → m''.objects.get? other = m'.objects.get? other) ∧
        Record.StoredAs m'' key r' ∧ r.Released r') ∧
    ∀ {m'' m₃ : Memory} {found : Bool},
      (decommission key).run.run Memory.answer m' = (.ok found, m'') →
        ∀ {components : List Component} {visits : List Visit},
          Visited components key m'' visits m₃ → m''.Unwritten m₃ := by
  have hm' := htried.reachable hm
  obtain ⟨r₁, hstored₁, hsame⟩ := htried.keeps_declaration hm hkey hstored
  refine ⟨fun hclear => ?_, fun hrun _ _ hvisited => ?_⟩
  · obtain ⟨m'', hrun, hframe⟩ := decommission_clear hclear hm' hkey hstored₁
    obtain ⟨-, r', hstored', hreleased⟩ := decommission_ok hm' hkey hstored₁ hrun
    exact ⟨m'', r', hrun, hframe, hstored', hreleased.of_same hsame⟩
  · obtain ⟨-, r', hstored', hreleased⟩ := decommission_ok hm' hkey hstored₁ hrun
    exact hvisited.unwritten hstored' hreleased.hasFinalizer hreleased.phase

/-- The first attempt is broken off between its two writes, the second one ends where it would have
ended, and the pass after it has nothing to write. -/
theorem decommission_final_held :
    let key := Record.held.key
    let m := (Memory.ofRecord .held).fail ⟨.replaceStatus, key.kind, none, "status down"⟩
    ∃ e m₁ m₂ r, (decommission key).run.run Memory.answer m = (.error e, m₁) ∧
      (decommission key).run.run Memory.answer m₁.clearFaults = (.ok true, m₂) ∧
      Record.StoredAs m₂ key r ∧ r.metadata.finalizerList = ["backup"] ∧
        r.phase = some .unmanaged ∧
          ((reconcilePass [] key).run.run Memory.answer m₂).2.journal = m₂.journal := by
  intro key m
  have hm : m.Reachable := by
    obtain ⟨effects, hrun⟩ := Memory.reachable_ofRecord .held
    exact ⟨_, hrun.step (.fail _)⟩
  have hstored : Record.StoredAs m key (Record.held.inserted (.empty .epoch)) :=
    Record.storedAs_ofRecord rfl
  obtain ⟨o, hget, ho⟩ := id hstored
  have hread : m.answer (.get key) = (.ok o, m) := by
    rw [get_of_free rfl, find?, hget]
  obtain ⟨next, m₁, hbroken, -, -, -, hconflicts⟩ := release_interrupted hm rfl hget ho (by decide)
    rfl rfl (f := ⟨.replaceStatus, key.kind, none, "status down"⟩) rfl
  have hfirst : (decommission key).run.run Memory.answer m = (.error _, m₁) :=
    run_decommission (run_fetchRecord (Attempt.run_find_ok hread) ho) hbroken
  have hquiet : m₁.clearFaults.Quiet := ⟨rfl, fun verb => congrFun hconflicts verb⟩
  obtain ⟨hagain, hafter⟩ := decommission_final hm rfl hstored
    (.arranged .clearFaults trivial (.failed .start hfirst))
  obtain ⟨m₂, r', hsecond, -, hstored', hreleased⟩ := hagain (hquiet.clear key)
  refine ⟨_, m₁, m₂, r', hfirst, hsecond, hstored', ?_, hreleased.phase, ?_⟩
  · rw [hreleased.finalizers]
    decide
  · exact (hafter hsecond (.pass .start rfl)).journal

end MeshOperator
