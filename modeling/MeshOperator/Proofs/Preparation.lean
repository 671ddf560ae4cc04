import MeshOperator.Proofs.FoiledAttempts
import MeshOperator.Proofs.StatusWrites
import MeshOperator.Reconcile.Pass

/-!
How a pass over a stored record begins.

`Prepared` lists all the ways in which a preparation can end without an error: what is known of the
record then, what the pass goes on with, and the store that it finds.
-/

namespace MeshOperator

set_option autoImplicit false

section Runs

variable {σ : Type} {answer : (c : Call) → σ → c.Answer × σ} {s s' : σ} {key : ObjectKey}
  {r : Record}

theorem run_fetchRecord {o : Object}
    (hfind : (Attempt.find (ReconcileError.store key) key).run.run answer s = (.ok (some o), s'))
    (ho : Record.ofObject o = .ok r) :
    (fetchRecord key).run.run answer s = (.ok (some r), s') := by
  refine (Attempt.run_bind_ok hfind).trans ?_
  dsimp only
  rw [ho]
  rfl

theorem run_prepare_gone (hfetch : (fetchRecord key).run.run answer s = (.ok (some r), s'))
    (hdeletion : r.metadata.deletionTimestamp.isSome) (hfinalizer : r.hasFinalizer = false) :
    (prepare key).run.run answer s = (.ok (.ended .deleted), s') := by
  refine (Attempt.run_bind_ok hfetch).trans ?_
  simp only [hdeletion, hfinalizer, Bool.false_eq_true, if_true, if_false]
  rfl

theorem run_prepare_released {s'' : σ} {result : Except ReconcileError Unit}
    (hfetch : (fetchRecord key).run.run answer s = (.ok (some r), s'))
    (hdeletion : r.metadata.deletionTimestamp.isSome) (hfinalizer : r.hasFinalizer = true)
    (hrelease : (release r).run.run answer s' = (result, s'')) :
    (prepare key).run.run answer s = (result.map fun _ => .ended .deleted, s'') := by
  refine (Attempt.run_bind_ok hfetch).trans ?_
  simp only [hdeletion, hfinalizer, if_true]
  cases result with
  | ok _ => exact Attempt.run_bind_ok hrelease
  | error e => exact Attempt.run_bind_error hrelease

theorem run_prepare_unmanaged (hfetch : (fetchRecord key).run.run answer s = (.ok (some r), s'))
    (hdeletion : r.metadata.deletionTimestamp = none) (hphase : r.phase = some .unmanaged) :
    (prepare key).run.run answer s = (.ok (.ended .unmanaged), s') := by
  refine (Attempt.run_bind_ok hfetch).trans ?_
  simp only [hdeletion, hphase, Option.isSome_none, Bool.false_eq_true, if_true, if_false]
  rfl

theorem run_prepare_known {c : Configuration} {phase : Phase}
    (hfetch : (fetchRecord key).run.run answer s = (.ok (some r), s'))
    (hdeletion : r.metadata.deletionTimestamp = none) (hphase : r.phase = some phase)
    (hmanaged : phase ≠ .unmanaged) (hversion : isSupported r.spec.version = true)
    (hresolve : Configuration.resolve r = .ok c) :
    (prepare key).run.run answer s = (.ok (.ready c r), s') := by
  have hmanaged : ¬some phase = some Phase.unmanaged := fun h => hmanaged (Option.some.inj h)
  refine (Attempt.run_bind_ok hfetch).trans ?_
  simp only [hdeletion, hphase, hmanaged, hversion, hresolve, Option.isSome_none,
    Option.isNone_some, Bool.false_eq_true, if_true, if_false]
  rfl

theorem run_prepare_new {c : Configuration}
    (hfetch : (fetchRecord key).run.run answer s = (.ok (some r), s'))
    (hdeletion : r.metadata.deletionTimestamp = none) (hphase : r.phase = none)
    (hversion : isSupported r.spec.version = true) (hresolve : Configuration.resolve r = .ok c)
    {written : Record} {s'' : σ}
    (hset : (setPhase .created "" r).run.run answer s' = (.ok written, s'')) :
    (prepare key).run.run answer s = (.ok (.ready c written), s'') := by
  refine (Attempt.run_bind_ok hfetch).trans ?_
  simp only [hdeletion, hphase, hversion, hresolve, Option.isSome_none, Option.isNone_none,
    Bool.false_eq_true, reduceCtorEq, if_true, if_false]
  exact Attempt.run_bind_ok hset

end Runs

section Preparation

variable {m m' : Memory} {key : ObjectKey} {r : Record}

theorem fetchRecord_ok (h : (fetchRecord key).run.run Memory.answer m = (.ok (some r), m')) :
    m' = m ∧ Record.StoredAs m key r := by
  obtain ⟨live?, m₁, hfind, hrest⟩ := Attempt.run_bind_inv h
  rcases m.find_cases (ReconcileError.store key) key with
    ⟨e, f, he⟩ | ⟨-, hmissing⟩ | ⟨o, hget, hfound⟩
  · cases he.symm.trans hfind
  · cases hmissing.symm.trans hfind
    cases hrest
  · cases hfound.symm.trans hfind
    dsimp only at hrest
    cases hr : Record.ofObject o with
    | error e =>
      rw [hr] at hrest
      cases hrest
    | ok found =>
      rw [hr] at hrest
      cases hrest
      exact ⟨rfl, o, hget, hr⟩

theorem fetchRecord_none (h : (fetchRecord key).run.run Memory.answer m = (.ok none, m')) :
    m' = m ∧ m.objects.get? key = none := by
  obtain ⟨live?, m₁, hfind, hrest⟩ := Attempt.run_bind_inv h
  rcases m.find_cases (ReconcileError.store key) key with
    ⟨e, f, he⟩ | ⟨hget, hmissing⟩ | ⟨o, -, hfound⟩
  · cases he.symm.trans hfind
  · cases hmissing.symm.trans hfind
    cases hrest
    exact ⟨rfl, hget⟩
  · cases hfound.symm.trans hfind
    dsimp only at hrest
    cases hr : Record.ofObject o with
    | error e =>
      rw [hr] at hrest
      cases hrest
    | ok found =>
      rw [hr] at hrest
      cases hrest

/-- A fetch of a stored record is foiled, or it brings the record. -/
theorem Record.StoredAs.fetch_cases (h : Record.StoredAs m key r) :
    Memory.Foiled m ((fetchRecord key).run.run Memory.answer m) ∨
      (fetchRecord key).run.run Memory.answer m = (.ok (some r), m) := by
  obtain ⟨o, hget, ho⟩ := h
  rcases m.find_cases (ReconcileError.store key) key with
    hfoiled | ⟨hnone, -⟩ | ⟨live, hlive, hfind⟩
  · exact .inl (Memory.Foiled.bind hfoiled)
  · cases hnone.symm.trans hget
  · cases hget.symm.trans hlive
    exact .inr (run_fetchRecord hfind ho)

theorem setPhase_ok (hm : m.Reachable) {phase : Phase} {message : String} {written : Record}
    (h : (setPhase phase message r).run.run Memory.answer m = (.ok written, m')) :
    Record.StoredAs m' r.key written ∧ written.status = some ⟨some phase, message⟩ := by
  unfold setPhase at h
  rw [Attempt.run_lift_bind, Dialogue.run_bind] at h
  cases hrun : (updateStatus phase message r).run Memory.answer m with
  | mk result m₁ =>
    obtain ⟨result, record⟩ := result
    rw [hrun] at h
    cases result with
    | ok _ =>
      cases h
      exact updateStatus_ok hm hrun
    | error e => cases h

/-- All that a preparation can end with, and the store that it leaves. -/
inductive Prepared (m : Memory) (key : ObjectKey) : Preparation → Memory → Prop where
  | missing (hget : m.objects.get? key = none) : Prepared m key (.ended .deleted) m
  | gone {r : Record} (hstored : Record.StoredAs m key r)
      (hdeletion : r.metadata.deletionTimestamp.isSome) (hfinalizer : r.hasFinalizer = false) :
      Prepared m key (.ended .deleted) m
  | released {r : Record} {m' : Memory} (hstored : Record.StoredAs m key r)
      (hdeletion : r.metadata.deletionTimestamp.isSome) (hfinalizer : r.hasFinalizer = true)
      (hrelease : (release r).run.run Memory.answer m = (.ok (), m')) :
      Prepared m key (.ended .deleted) m'
  | unmanaged {r : Record} (hstored : Record.StoredAs m key r)
      (hdeletion : r.metadata.deletionTimestamp = none) (hphase : r.phase = some .unmanaged) :
      Prepared m key (.ended .unmanaged) m
  | unsupported {r : Record} (hstored : Record.StoredAs m key r)
      (hdeletion : r.metadata.deletionTimestamp = none) (hphase : r.phase ≠ some .unmanaged)
      (hversion : isSupported r.spec.version = false) :
      Prepared m key (.ended .unsupportedVersion) m
  | marked {r written : Record} {c : Configuration} {m' : Memory}
      (hstored : Record.StoredAs m key r) (hdeletion : r.metadata.deletionTimestamp = none)
      (hphase : r.phase = none) (hversion : isSupported r.spec.version = true)
      (hresolve : Configuration.resolve r = .ok c)
      (hset : (setPhase .created "" r).run.run Memory.answer m = (.ok written, m')) :
      Prepared m key (.ready c written) m'
  | known {r : Record} {c : Configuration} {phase : Phase} (hstored : Record.StoredAs m key r)
      (hdeletion : r.metadata.deletionTimestamp = none) (hphase : r.phase = some phase)
      (hmanaged : phase ≠ .unmanaged) (hversion : isSupported r.spec.version = true)
      (hresolve : Configuration.resolve r = .ok c) : Prepared m key (.ready c r) m

theorem prepare_cases {p : Preparation}
    (h : (prepare key).run.run Memory.answer m = (.ok p, m')) : Prepared m key p m' := by
  obtain ⟨r?, m₁, hfetch, hrest⟩ := Attempt.run_bind_inv h
  cases r? with
  | none =>
    obtain ⟨rfl, hget⟩ := fetchRecord_none hfetch
    cases hrest
    exact .missing hget
  | some r =>
    obtain ⟨rfl, hstored⟩ := fetchRecord_ok hfetch
    by_cases hdeleted : r.metadata.deletionTimestamp.isSome = true
    · by_cases hf : r.hasFinalizer = true
      · simp only [hdeleted, hf, if_true] at hrest
        obtain ⟨_, m₂, hrelease, hrest⟩ := Attempt.run_bind_inv hrest
        cases hrest
        exact .released hstored hdeleted hf hrelease
      · simp only [hdeleted, hf, if_true] at hrest
        cases hrest
        exact .gone hstored hdeleted (Bool.eq_false_iff.2 hf)
    · have hdeletion : r.metadata.deletionTimestamp = none := by
        simpa using hdeleted
      by_cases hphase : r.phase = some .unmanaged
      · simp only [hdeleted, hphase, if_true] at hrest
        cases hrest
        exact .unmanaged hstored hdeletion hphase
      · by_cases hv : isSupported r.spec.version = true
        · cases hc : Configuration.resolve r with
          | error e =>
            simp only [hdeleted, hphase, hv, hc, if_true, if_false] at hrest
            cases hrest
          | ok c =>
            cases hnew : r.phase with
            | none =>
              simp only [hdeleted, hnew, hv, hc, Option.isNone_none, if_true] at hrest
              obtain ⟨written, m₂, hset, hrest⟩ := Attempt.run_bind_inv hrest
              cases hrest
              exact .marked hstored hdeletion hnew hv hc hset
            | some phase =>
              rw [hnew] at hphase
              simp only [hdeleted, hnew, hphase, hv, hc, Option.isNone_some, Bool.false_eq_true,
                if_true, if_false] at hrest
              cases hrest
              exact .known hstored hdeletion hnew (fun h => hphase (congrArg some h)) hv hc
        · simp only [hdeleted, hphase, hv, if_false] at hrest
          cases hrest
          exact .unsupported hstored hdeletion hphase (Bool.eq_false_iff.2 hv)

theorem Record.StoredAs.key_eq (hm : m.Reachable) (hkey : key.type = Record.type)
    (h : Record.StoredAs m key r) : r.key = key := by
  obtain ⟨o, hget, hr⟩ := h
  exact Record.key_of_ofObject (hm.keyed _ _ hget) hkey hr

/-- What a pass goes on with is stored. -/
theorem prepare_stored (hm : m.Reachable) (hkey : key.type = Record.type) {c : Configuration}
    (h : (prepare key).run.run Memory.answer m = (.ok (.ready c r), m')) :
    Record.StoredAs m' key r := by
  cases prepare_cases h with
  | marked hstored hdeletion hphase hversion hresolve hset =>
    obtain ⟨hwritten, -⟩ := setPhase_ok hm hset
    rw [hstored.key_eq hm hkey] at hwritten
    exact hwritten
  | known hstored hdeletion hphase hmanaged hversion hresolve => exact hstored

theorem prepare_key (hm : m.Reachable) (hkey : key.type = Record.type) {c : Configuration}
    (h : (prepare key).run.run Memory.answer m = (.ok (.ready c r), m')) : r.key = key :=
  (prepare_stored hm hkey h).key_eq (hm.of_run h) hkey

end Preparation

end MeshOperator
