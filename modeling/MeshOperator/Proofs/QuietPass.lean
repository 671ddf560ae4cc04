import MeshOperator.Proofs.Gates
import MeshOperator.Proofs.Settled

/-!
How a pass ends when nobody disturbs it.

Syncing an object does not fail on a quiet store, so a component can only fail at a production that
cannot be built. Then the record alone decides how a pass over it ends and what status it leaves,
whatever else the store holds: `Record.ending` computes both, and `pass_ends` says that the pass
comes to that.
-/

namespace MeshOperator

set_option autoImplicit false

open Memory

/-! ## What can go wrong -/

/-- The first production that cannot be built is what a component over them fails with. -/
def Production.tryAll (c : Configuration) : List Production → Except ComponentError Unit
  | [] => .ok ()
  | p :: rest =>
    match p.build c with
    | .error e => .error (.build p.resource e)
    | .ok _ => tryAll c rest

def Subsystem.tryAll (c : Configuration) : List Subsystem → Except ReconcileError Unit
  | [] => .ok ()
  | s :: rest =>
    match Production.tryAll c s.productions with
    | .error e => .error (.component s.name e)
    | .ok () => tryAll c rest

/-- How an installation of these subsystems ends, and the status that it leaves. -/
def Subsystem.ending (c : Configuration) (subsystems : List Subsystem) :
    Except ReconcileError PassOutcome × RecordStatus :=
  match tryAll c subsystems with
  | .ok () => (.ok .reconciled, ⟨some .available, ""⟩)
  | .error e => (.error e, ⟨some .reconcileFailed, e.text⟩)

/-- How a pass over the record ends, and the status that it leaves. -/
def Record.ending (subsystems : List Subsystem) (r : Record) :
    Except ReconcileError PassOutcome × Option RecordStatus :=
  if r.metadata.deletionTimestamp.isSome then
    (.ok .deleted, if r.hasFinalizer then some ⟨some .unmanaged, ""⟩ else r.status)
  else if r.phase = some .unmanaged then (.ok .unmanaged, r.status)
  else if isSupported r.spec.version then
    match Configuration.resolve r with
    | .error e => (.error (.build e), r.status)
    | .ok c => ((Subsystem.ending c subsystems).1, some (Subsystem.ending c subsystems).2)
  else (.ok .unsupportedVersion, r.status)

/-! ## Components -/

/-- The store is quiet, and its object with this key is still the same. -/
structure Memory.Keeps (key : ObjectKey) (m m' : Memory) : Prop where
  quiet : m'.Quiet
  object : m'.objects.get? key = m.objects.get? key

section Components

variable {m m₁ m₂ : Memory} {key : ObjectKey} {c : Configuration} {r : Record}
  {subsystems : List Subsystem}

theorem Memory.Keeps.trans (h : Keeps key m m₁) (h' : Keeps key m₁ m₂) : Keeps key m m₂ :=
  ⟨h'.quiet, h'.object.trans h.object⟩

theorem reconcileProductions_ends (s : Subsystem) {ps : List Production} (hq : m.Quiet)
    (hkey : key.type = Record.type)
    (hps : ∀ p ∈ ps, ∀ d, p.build c = .ok d → NoRecord d.key) (report : ComponentReport) :
    ∃ result m', (s.reconcileProductions c ps report).run.run Memory.answer m = (result, m') ∧
      result.map (fun _ => ()) = Production.tryAll c ps ∧ Keeps key m m' := by
  induction ps generalizing m report with
  | nil => exact ⟨.ok report, m, rfl, rfl, hq, rfl⟩
  | cons p rest ih =>
    obtain ⟨hp, hrest⟩ := List.forall_mem_cons.1 hps
    cases hbuild : p.build c with
    | error e =>
      refine ⟨_, m, Attempt.run_bind_error (run_unbuilt hbuild), ?_, hq, rfl⟩
      rw [Production.tryAll, hbuild]
      rfl
    | ok d =>
      obtain ⟨outcome, m₁, hensure, htouched, -⟩ := ensure_quiet hq d (s.effectiveState p)
      have hone : (s.reconcileOne c p).run.run Memory.answer m = (.ok outcome, m₁) :=
        run_built hbuild hensure
      -- what was synced is no record
      have hkeeps : Keeps key m m₁ := by
        refine ⟨htouched.quiet, htouched.frame key ?_⟩
        rintro rfl
        exact hp d hbuild hkey
      obtain ⟨result, m₂, hrun, hresult, hkeeps'⟩ := ih htouched.quiet hrest (report.record outcome)
      refine ⟨result, m₂, (Attempt.run_bind_ok hone).trans hrun, ?_, hkeeps.trans hkeeps'⟩
      rw [Production.tryAll, hbuild]
      exact hresult

theorem reconcileComponents_ends (hq : m.Quiet) (hkey : key.type = Record.type)
    (hsubsystems : ∀ s ∈ subsystems, s.Within NoRecord) :
    ∃ m', (reconcileComponents c (subsystems.map Component.ofSubsystem)).run.run Memory.answer m =
      (Subsystem.tryAll c subsystems, m') ∧ Keeps key m m' := by
  induction subsystems generalizing m with
  | nil => exact ⟨m, rfl, hq, rfl⟩
  | cons s rest ih =>
    obtain ⟨hs, hrest⟩ := List.forall_mem_cons.1 hsubsystems
    obtain ⟨result, m₁, hrun, hresult, hkeeps⟩ := reconcileProductions_ends s hq hkey
      (fun p hp d hbuild => hs p hp c d hbuild) .none
    have hadapt := Attempt.run_adapt (ReconcileError.component s.name) hrun
    rw [Subsystem.tryAll, ← hresult]
    cases result with
    | error e => exact ⟨m₁, Attempt.run_bind_error hadapt, hkeeps⟩
    | ok report =>
      obtain ⟨m₂, hrun', hkeeps'⟩ := ih hkeeps.quiet hrest
      exact ⟨m₂, (Attempt.run_bind_ok hadapt).trans hrun', hkeeps.trans hkeeps'⟩

/-! ## Installations -/

theorem run_install_error {σ : Type} {answer : (c : Call) → σ → c.Answer × σ} {s s₁ s' : σ}
    {components : List Component} {e : ReconcileError}
    {marked : Except StatusError Unit × Record}
    (hcomponents : (reconcileComponents c components).run.run answer s = (.error e, s₁))
    (hmark : (updateStatus .reconcileFailed e.text r).run answer s₁ = (marked, s')) :
    (install components c r).run.run answer s = (.error e, s') := by
  have hlift : (Attempt.run (ExceptT.lift (reconcileComponents c components).run :
      Attempt ReconcileError _)).run answer s = (.ok (.error e), s₁) := by
    rw [Attempt.run_lift, hcomponents]
  refine (Attempt.run_bind_ok hlift).trans ?_
  dsimp only
  rw [Attempt.run_lift_bind, Dialogue.run_bind, hmark]
  rfl

theorem install_ends (hm : m.Reachable) (hq : m.Quiet) (hkey : key.type = Record.type)
    (hsubsystems : ∀ s ∈ subsystems, s.Within NoRecord) (hstored : Record.StoredAs m key r)
    (hphase : r.phase ≠ some .unmanaged) :
    ∃ m' written, (install (subsystems.map Component.ofSubsystem) c r).run.run Memory.answer m =
        ((Subsystem.ending c subsystems).1, m') ∧
      Record.StoredAs m' key written ∧ written.status = some (Subsystem.ending c subsystems).2 := by
  obtain ⟨m₁, hcomponents, hkeeps⟩ := reconcileComponents_ends (c := c) hq hkey hsubsystems
  have hm₁ := hm.of_run hcomponents
  have hstored₁ := hstored.congr hkeeps.object
  rw [Subsystem.ending]
  cases htry : Subsystem.tryAll c subsystems with
  | ok _ =>
    rw [htry] at hcomponents
    obtain ⟨written, m₂, hset, -, hwritten, hstatus⟩ :=
      setPhase_quiet hkeeps.quiet hm₁ hkey hstored₁ hphase .available ""
    exact ⟨m₂, written, run_install hcomponents hset, hwritten, hstatus⟩
  | error e =>
    rw [htry] at hcomponents
    obtain ⟨written, m₂, hmark, -, hwritten, hstatus⟩ :=
      updateStatus_quiet hkeeps.quiet hm₁ hkey hstored₁ hphase .reconcileFailed e.text
    exact ⟨m₂, written, run_install_error hcomponents hmark, hwritten, hstatus⟩

/-! ## Passes -/

theorem release_ends (hm : m.Reachable) (hq : m.Quiet) (hkey : key.type = Record.type)
    (hstored : Record.StoredAs m key r) (h : r.ToRelease) (components : List Component) :
    ∃ m' written, (reconcilePass components key).run.run Memory.answer m = (.ok .deleted, m') ∧
      Record.StoredAs m' key written ∧ written.status = some ⟨some .unmanaged, ""⟩ := by
  obtain ⟨o, hget, ho⟩ := id hstored
  obtain ⟨m', hrelease, -⟩ := release_clear (hq.clear key) hm hkey hstored
  have hfetch := run_fetchRecord (Attempt.run_find_ok (hq.get_some hget)) ho
  have hprepare := run_prepare_released hfetch h.deletion h.finalizer hrelease
  obtain ⟨written, hwritten, -, hstatus⟩ := release_ok hm hkey hstored hrelease
  exact ⟨m', written, Attempt.run_bind_ok hprepare, hwritten, hstatus⟩

/-- A pass over a stored record ends the way the record says, and leaves the status that it says.
The rest of the store does not matter. -/
theorem pass_ends (hm : m.Reachable) (hq : m.Quiet) (hkey : key.type = Record.type)
    (hsubsystems : ∀ s ∈ subsystems, s.Within NoRecord) (hstored : Record.StoredAs m key r) :
    ∃ m' written,
      (reconcilePass (subsystems.map Component.ofSubsystem) key).run.run Memory.answer m =
        ((r.ending subsystems).1, m') ∧
      Record.StoredAs m' key written ∧ written.status = (r.ending subsystems).2 := by
  obtain ⟨o, hget, ho⟩ := id hstored
  let components := subsystems.map Component.ofSubsystem
  have hhalts : ∀ {result : Except ReconcileError PassOutcome}, Halts key (.ok o) result →
      (reconcilePass components key).run.run Memory.answer m = (result, m) :=
    fun h => h.pass_some hq hget components
  unfold Record.ending
  by_cases hdeletion : r.metadata.deletionTimestamp.isSome = true
  · rw [if_pos hdeletion]
    by_cases hfinalizer : r.hasFinalizer = true
    · rw [if_pos hfinalizer]
      exact release_ends hm hq hkey hstored ⟨hdeletion, hfinalizer⟩ components
    · rw [if_neg hfinalizer]
      exact ⟨m, r, hhalts (.gone ho hdeletion (Bool.eq_false_iff.2 hfinalizer)), hstored, rfl⟩
  · rw [if_neg hdeletion]
    have hdeletion : r.metadata.deletionTimestamp = none := by simpa using hdeletion
    by_cases hphase : r.phase = some .unmanaged
    · rw [if_pos hphase]
      exact ⟨m, r, hhalts (.unmanaged ho hdeletion hphase), hstored, rfl⟩
    · rw [if_neg hphase]
      by_cases hversion : isSupported r.spec.version = true
      · rw [if_pos hversion]
        cases hresolve : Configuration.resolve r with
        | error e =>
          exact ⟨m, r, hhalts (.unresolved ho hdeletion hphase hversion hresolve), hstored, rfl⟩
        | ok c =>
          obtain ⟨r₁, m₁, hprepare, htouched, hstored₁, hphase₁⟩ :=
            prepare_quiet hq hm hkey hstored hdeletion hphase hversion hresolve
          obtain ⟨m₂, written, hinstall, hwritten, hstatus⟩ := install_ends (c := c)
            (hm.of_run hprepare) htouched.quiet hkey hsubsystems hstored₁ hphase₁
          exact ⟨m₂, written, (Attempt.run_bind_ok hprepare).trans hinstall, hwritten, hstatus⟩
      · rw [if_neg hversion]
        have hversion := Bool.eq_false_iff.2 hversion
        exact ⟨m, r, hhalts (.unsupported ho hdeletion hphase hversion), hstored, rfl⟩

end Components

end MeshOperator
