import MeshOperator.Catalogue.Parts
import MeshOperator.Proofs.QuietMemory

/-!
One pass is enough.

On a store in memory where nobody disturbs it, a pass over a record that is to be installed brings
everything to its desired state: what the subsystems make is there or gone as they say, and the
record reads available. It does so whatever the store holds at first. `Ensured` says that resources
were synced one after another; that is all that subsystems do with what they render. Each resource
is settled by its own sync, and since every one has a key of its own, later syncs leave it as it is.
-/

namespace MeshOperator

set_option autoImplicit false

open Memory

/-! ## Resources in order -/

/-- The resources are as they are to be, everything else is as it was, and the store is quiet. -/
structure Synced (rendered : List (Managed × Existence)) (m m' : Memory) : Prop where
  quiet : m'.Quiet
  frame : ∀ key, key ∉ rendered.map (·.1.key) → m'.objects.get? key = m.objects.get? key
  settled : ∀ e ∈ rendered, e.1.IsAs m' e.2

namespace Synced

variable {m m₁ m₂ : Memory} {a b : List (Managed × Existence)}

theorem nil (hq : m.Quiet) : Synced [] m m := ⟨hq, fun _ _ => rfl, by simp⟩

theorem one {resource : Managed} {state : Existence} (h : Touched resource.key m m₁)
    (hstate : resource.IsAs m₁ state) : Synced [(resource, state)] m m₁ where
  quiet := h.quiet
  frame := fun key hkey => h.frame key (by simpa using hkey)
  settled := by
    intro e he
    cases List.mem_singleton.1 he
    exact hstate

theorem append (ha : Synced a m m₁) (hb : Synced b m₁ m₂)
    (hnodup : ((a ++ b).map (·.1.key)).Nodup) : Synced (a ++ b) m m₂ where
  quiet := hb.quiet
  frame := by
    intro key hkey
    rw [List.map_append, List.mem_append, not_or] at hkey
    exact (hb.frame key hkey.2).trans (ha.frame key hkey.1)
  settled := by
    rw [List.map_append, List.nodup_append] at hnodup
    intro e he
    rcases List.mem_append.1 he with he | he
    -- no key occurs twice, so what was settled first stays so
    · refine (ha.settled e he).congr (hb.frame _ fun hmem => ?_)
      exact hnodup.2.2 _ (List.mem_map.2 ⟨e, he, rfl⟩) _ hmem rfl
    · exact hb.settled e he

end Synced

theorem map_ok_inv {α β ε : Type} {f : α → β} {r : Except ε α} {b : β} (h : r.map f = .ok b) :
    ∃ a, r = .ok a ∧ f a = b := by
  cases r with
  | ok a => exact ⟨a, rfl, Except.ok.inj h⟩
  | error e => cases h

theorem mapM_cons_ok {α β ε : Type} {f : α → Except ε β} {a : α} {rest : List α} {bs : List β}
    (h : (a :: rest).mapM f = .ok bs) :
    ∃ b bs', f a = .ok b ∧ rest.mapM f = .ok bs' ∧ bs = b :: bs' := by
  rw [List.mapM_cons] at h
  cases ha : f a with
  | error e =>
    rw [ha] at h
    cases h
  | ok b =>
    rw [ha] at h
    cases hrest : rest.mapM f with
    | error e =>
      rw [hrest] at h
      cases h
    | ok bs' =>
      rw [hrest] at h
      cases h
      exact ⟨b, bs', rfl, rfl, rfl⟩

/-- The resources were synced in this order, each of them with success. -/
inductive Ensured : List (Managed × Existence) → Memory → Memory → Prop where
  | nil (m : Memory) : Ensured [] m m
  | cons {e : Managed × Existence} {rest : List (Managed × Existence)} {outcome : SyncOutcome}
      {m m₁ m₂ : Memory} (h : (ensure e.1 e.2).run.run Memory.answer m = (.ok outcome, m₁))
      (hrest : Ensured rest m₁ m₂) : Ensured (e :: rest) m m₂

theorem Ensured.split {a b : List (Managed × Existence)} {m m₂ : Memory}
    (h : Ensured (a ++ b) m m₂) : ∃ m₁, Ensured a m m₁ ∧ Ensured b m₁ m₂ := by
  induction a generalizing m with
  | nil => exact ⟨m, .nil m, h⟩
  | cons e rest ih =>
    cases h with
    | cons hfirst hrest =>
      obtain ⟨m₁, ha, hb⟩ := ih hrest
      exact ⟨m₁, .cons hfirst ha, hb⟩

theorem ensured_quiet {m : Memory} {rendered : List (Managed × Existence)} (hq : m.Quiet)
    (hnodup : (rendered.map (·.1.key)).Nodup) :
    ∃ m', Ensured rendered m m' ∧ Synced rendered m m' := by
  induction rendered generalizing m with
  | nil => exact ⟨m, .nil m, .nil hq⟩
  | cons e rest ih =>
    obtain ⟨outcome, m₁, hensure, htouched, hstate⟩ := ensure_quiet hq e.1 e.2
    obtain ⟨m₂, hrest, hsynced⟩ := ih htouched.quiet (List.nodup_cons.1 hnodup).2
    exact ⟨m₂, .cons hensure hrest, (Synced.one htouched hstate).append hsynced hnodup⟩

/-! ## One production -/

section Productions

variable {σ : Type} {answer : (c : Call) → σ → c.Answer × σ} {st st' : σ} {s : Subsystem}
  {c : Configuration} {p : Production} {resource : Managed} {e : BuildError}

theorem reconcileOne_built (hbuild : p.build c = .ok resource) :
    s.reconcileOne c p =
      ExceptT.adapt ComponentError.sync (ensure resource (s.effectiveState p)) := by
  unfold Subsystem.reconcileOne
  rw [hbuild]

theorem reconcileOne_unbuilt (hbuild : p.build c = .error e) :
    s.reconcileOne c p = throw (.build p.resource e) := by
  unfold Subsystem.reconcileOne
  rw [hbuild]

/-- What can be built is synced, and that is all. -/
theorem run_built {r : Except SyncError SyncOutcome} (hbuild : p.build c = .ok resource)
    (hsync : (ensure resource (s.effectiveState p)).run.run answer st = (r, st')) :
    (s.reconcileOne c p).run.run answer st = (r.mapError ComponentError.sync, st') := by
  rw [reconcileOne_built hbuild]
  exact Attempt.run_adapt ComponentError.sync hsync

/-- What cannot be built is not synced. -/
theorem run_unbuilt (hbuild : p.build c = .error e) :
    (s.reconcileOne c p).run.run answer st = (.error (.build p.resource e), st) := by
  rw [reconcileOne_unbuilt hbuild]
  rfl

end Productions

section Passes

variable {m m' : Memory} {c : Configuration}

theorem Ensured.productions {s : Subsystem} {ps : List Production}
    {rendered : List (Managed × Existence)} (h : Ensured rendered m m')
    (hrender : (ps.mapM fun p => (p.build c).map fun x => (x, s.effectiveState p)) = .ok rendered)
    (report : ComponentReport) :
    ∃ report', (s.reconcileProductions c ps report).run.run Memory.answer m =
      (.ok report', m') := by
  induction ps generalizing m rendered report with
  | nil =>
    cases hrender
    cases h
    exact ⟨report, rfl⟩
  | cons p rest ih =>
    obtain ⟨e, others, he, hothers, rfl⟩ := mapM_cons_ok hrender
    obtain ⟨resource, hbuild, rfl⟩ := map_ok_inv he
    cases h with
    | @cons _ _ outcome _ m₁ _ hensure hrest =>
      have hone : (s.reconcileOne c p).run.run Memory.answer m = (.ok outcome, m₁) :=
        run_built hbuild hensure
      obtain ⟨report', hrun⟩ := ih hrest hothers (report.record outcome)
      exact ⟨report', (Attempt.run_bind_ok hone).trans hrun⟩

theorem Ensured.components {subsystems : List Subsystem}
    {rendered : List (List (Managed × Existence))} (h : Ensured rendered.flatten m m')
    (hrender : subsystems.mapM (·.render c) = .ok rendered) :
    (reconcileComponents c (subsystems.map Component.ofSubsystem)).run.run Memory.answer m =
      (.ok (), m') := by
  induction subsystems generalizing m rendered with
  | nil =>
    cases hrender
    cases h
    rfl
  | cons s rest ih =>
    obtain ⟨own, others, hown, hothers, rfl⟩ := mapM_cons_ok hrender
    obtain ⟨m₁, hfirst, hrest⟩ := h.split
    obtain ⟨report, hrun⟩ := hfirst.productions hown ComponentReport.none
    have hadapt := Attempt.run_adapt (ReconcileError.component s.name) hrun
    exact (Attempt.run_bind_ok hadapt).trans (ih hrest hothers)

theorem reconcileComponents_quiet {subsystems : List Subsystem}
    {rendered : List (List (Managed × Existence))} (hq : m.Quiet)
    (hrender : subsystems.mapM (·.render c) = .ok rendered)
    (hnodup : (rendered.flatten.map (·.1.key)).Nodup) :
    ∃ m', (reconcileComponents c (subsystems.map Component.ofSubsystem)).run.run Memory.answer m =
      (.ok (), m') ∧ Synced rendered.flatten m m' := by
  obtain ⟨m', hensured, hsynced⟩ := ensured_quiet hq hnodup
  exact ⟨m', hensured.components hrender, hsynced⟩

end Passes

/-- One pass over a record that is to be installed settles all its resources and makes it available,
from any state of a store where no error and no conflict is arranged. -/
theorem pass_converges {m : Memory} (hm : m.Reachable) (hquiet : m.Quiet) {key : ObjectKey}
    (hkey : key.type = Record.type) {r : Record} (hstored : Record.StoredAs m key r)
    (hns : r.metadata.ns.isSome) (hversion : isSupported r.spec.version = true)
    (hdeletion : r.metadata.deletionTimestamp = none) (hphase : r.phase ≠ some .unmanaged)
    {subsystems : List Subsystem} {rendered : List (List (Managed × Existence))}
    (hrender : ∀ c, Configuration.resolve r = .ok c → subsystems.mapM (·.render c) = .ok rendered)
    (hnodup : (rendered.flatten.map (·.1.key)).Nodup)
    (hapart : key ∉ rendered.flatten.map (·.1.key)) :
    ∃ m', (reconcilePass (subsystems.map Component.ofSubsystem) key).run.run Memory.answer m =
        (.ok .reconciled, m') ∧
      (∀ resource, (resource, .present) ∈ rendered.flatten →
        ∃ stored, m'.objects.get? resource.key = some stored ∧
          resource.object.isSettled stored = true) ∧
      (∀ resource, (resource, .absent) ∈ rendered.flatten →
        m'.objects.get? resource.key = none) ∧
      ∃ r', Record.StoredAs m' key r' ∧ r'.phase = some .available ∧ r'.errorMessage = "" := by
  have hname : r.metadata.name.isSome := by
    obtain ⟨o, hget, ho⟩ := hstored
    rw [Record.metadata_of_ofObject ho, Object.name_of_key (hm.keyed _ _ hget)]
    rfl
  obtain ⟨c, hresolve⟩ := Configuration.resolve_ok hname hns
  obtain ⟨r₁, m₁, hprepare, htouched₁, hstored₁, hphase₁⟩ :=
    prepare_quiet hquiet hm hkey hstored hdeletion hphase hversion hresolve
  have hm₁ := hm.of_run hprepare
  obtain ⟨m₂, hcomponents, hsynced⟩ :=
    reconcileComponents_quiet htouched₁.quiet (hrender c hresolve) hnodup
  have hm₂ := hm₁.of_run hcomponents
  -- the subsystems have left the record alone
  have hstored₂ : Record.StoredAs m₂ key r₁ := by
    obtain ⟨o, hget, ho⟩ := hstored₁
    exact ⟨o, (hsynced.frame key hapart).trans hget, ho⟩
  obtain ⟨r₃, m₃, hset, htouched₃, hstored₃, hstatus₃⟩ :=
    setPhase_quiet hsynced.quiet hm₂ hkey hstored₂ hphase₁ .available ""
  have hinstall : (install (subsystems.map Component.ofSubsystem) c r₁).run.run Memory.answer m₁ =
      (.ok .reconciled, m₃) := by
    have hlift : (Attempt.run (ExceptT.lift (reconcileComponents c
        (subsystems.map Component.ofSubsystem)).run : Attempt ReconcileError _)).run
          Memory.answer m₁ = (.ok (.ok ()), m₂) := by
      rw [Attempt.run_lift, hcomponents]
    exact (Attempt.run_bind_ok hlift).trans (Attempt.run_bind_ok hset)
  -- and marking the record has left the resources alone
  have hsettled : ∀ e ∈ rendered.flatten, e.1.IsAs m₃ e.2 := by
    intro e he
    refine (hsynced.settled e he).congr (htouched₃.frame _ ?_)
    rintro heq
    exact hapart (List.mem_map.2 ⟨e, he, heq⟩)
  refine ⟨m₃, (Attempt.run_bind_ok hprepare).trans hinstall, fun resource h => hsettled _ h,
    fun resource h => hsettled _ h, r₃, hstored₃, ?_, ?_⟩
  · rw [Record.phase, hstatus₃]
    rfl
  · rw [Record.errorMessage, hstatus₃]
    rfl

namespace Manifest

def webAccount (labels : StringMap) : Manifest where
  name := "linkerd-web"
  ns := some "linkerd"
  labels := labels
  annotations := none
  owner := none
  content := .serviceAccount

def webRole : Manifest where
  name := "linkerd-web"
  ns := none
  labels := .empty
  annotations := none
  owner := none
  content := .clusterRole []

end Manifest

/-- An account that is to exist, and a role that is not. -/
def Subsystem.webAccess : Subsystem where
  name := "web"
  productions := [
    .always "service-account" fun _ => .webAccount (.ofList [(Catalogue.componentLabel, "web")]),
    ⟨"cluster-role", fun _ => .ok Manifest.webRole.managed, .absent⟩]

/-- A store with a plain record, an account that lacks its labels, and a role. -/
def Memory.withWebRole : Memory :=
  (((ofPlain none).insert (Manifest.webAccount .empty).managed.object).2.insert
    Manifest.webRole.managed.object).2

theorem pass_converges_withWebRole :
    let account := (Manifest.webAccount (.ofList [(Catalogue.componentLabel, "web")])).managed
    let key := (Record.plain none).key
    ∃ m', (reconcilePass [.ofSubsystem .webAccess] key).run.run Memory.answer .withWebRole =
        (.ok .reconciled, m') ∧
      (∃ stored, m'.objects.get? account.key = some stored ∧
        account.object.isSettled stored = true) ∧
      m'.objects.get? Manifest.webRole.managed.key = none ∧
      ∃ r, Record.StoredAs m' key r ∧ r.phase = some .available ∧ r.errorMessage = "" := by
  intro account key
  have hm : Memory.withWebRole.Reachable :=
    ⟨_, .step (.insert _) (.step (.insert _) (.step (.insert _) (.start .epoch)))⟩
  have hstored : Record.StoredAs .withWebRole key ((Record.plain none).inserted (.empty .epoch)) := by
    obtain ⟨o, hget, ho⟩ := Record.storedAs_ofPlain none
    refine ⟨o, ?_, ho⟩
    have hrole : key ≠ Manifest.webRole.managed.key := by decide
    have haccount : key ≠ account.key := by decide
    refine (SortedMap.get?_insert_ne _ _ hrole).trans ?_
    exact (SortedMap.get?_insert_ne _ _ haccount).trans hget
  have hrender : ∀ c, Configuration.resolve ((Record.plain none).inserted (.empty .epoch)) = .ok c →
      [Subsystem.webAccess].mapM (·.render c) =
        .ok [[(account, .present), (Manifest.webRole.managed, .absent)]] := fun c _ => rfl
  obtain ⟨m', hrun, hpresent, habsent, hrecord⟩ := pass_converges hm ⟨rfl, fun _ => rfl⟩ rfl hstored
    rfl (by decide) rfl (by decide) hrender (by decide) (by decide)
  exact ⟨m', hrun, hpresent _ (by simp), habsent _ (by simp), hrecord⟩

end MeshOperator
