import MeshOperator.Proofs.KeptDeclaration
import MeshOperator.Proofs.ResourceNames
import MeshOperator.Proofs.Syncing

/-!
A settled cluster stays settled.

`Installable` says that a record is to be installed, `Settled` that it was, with everything that it
declares. On a store that nobody disturbs a pass that goes through settles the store, since the
calls of the components leave the record alone and the record keeps what it declares. A pass over
a settled store finds every resource as it is to be, so all that it does is to write the status
that the record has.
-/

namespace MeshOperator

set_option autoImplicit false

open Memory

/-! ## Runs that go through -/

section Runs

variable {σ : Type} {answer : (c : Call) → σ → c.Answer × σ} {s s' : σ} {c : Configuration}

/-- Productions that were synced one after another could all be built. -/
theorem rendered_of_productions (sub : Subsystem) {ps : List Production}
    {report report' : ComponentReport}
    (h : (sub.reconcileProductions c ps report).run.run answer s = (.ok report', s')) :
    ∃ rendered, (ps.mapM fun p => (p.build c).map fun x => (x, sub.effectiveState p)) =
      .ok rendered := by
  induction ps generalizing s report with
  | nil => exact ⟨[], rfl⟩
  | cons p rest ih =>
    obtain ⟨outcome, s₁, hone, hrest⟩ := Attempt.run_bind_inv h
    obtain ⟨others, hothers⟩ := ih hrest
    cases hbuild : p.build c with
    | error e => cases hone.symm.trans (run_unbuilt hbuild)
    | ok resource =>
      exact ⟨_, mapM_cons_of_ok (by rw [hbuild]; rfl) hothers⟩

theorem rendered_of_components {subsystems : List Subsystem}
    (h : (reconcileComponents c (subsystems.map Component.ofSubsystem)).run.run answer s =
      (.ok (), s')) :
    ∃ rendered, subsystems.mapM (·.render c) = .ok rendered := by
  induction subsystems generalizing s with
  | nil => exact ⟨[], rfl⟩
  | cons sub rest ih =>
    obtain ⟨report, s₁, hfirst, hrest⟩ := Attempt.run_bind_inv h
    obtain ⟨others, hothers⟩ := ih hrest
    obtain ⟨own, hown⟩ := rendered_of_productions sub (Attempt.run_adapt_inv hfirst)
    exact ⟨_, mapM_cons_of_ok hown hothers⟩

theorem run_install {components : List Component} {r written : Record} {s₁ : σ}
    (hcomponents : (reconcileComponents c components).run.run answer s = (.ok (), s₁))
    (hset : (setPhase .available "" r).run.run answer s₁ = (.ok written, s')) :
    (install components c r).run.run answer s = (.ok .reconciled, s') := by
  have hlift : (Attempt.run (ExceptT.lift (reconcileComponents c components).run :
      Attempt ReconcileError _)).run answer s = (.ok (.ok ()), s₁) := by
    rw [Attempt.run_lift, hcomponents]
  exact (Attempt.run_bind_ok hlift).trans (Attempt.run_bind_ok hset)

theorem components_of_install {components : List Component} {r : Record} {outcome : PassOutcome}
    (h : (install components c r).run.run answer s = (.ok outcome, s')) :
    ∃ s₁, (reconcileComponents c components).run.run answer s = (.ok (), s₁) := by
  obtain ⟨result, s₁, hlift, hrest⟩ := Attempt.run_bind_inv h
  rw [Attempt.run_lift] at hlift
  cases result with
  | ok _ =>
    obtain ⟨hresult, -⟩ := Prod.mk.inj hlift
    exact ⟨_, Prod.ext (Except.ok.inj hresult) rfl⟩
  | error e =>
    obtain ⟨_, s₂, -, hthrown⟩ := Attempt.run_bind_inv hrest
    cases hthrown

end Runs

/-! ## Resources that are as they are to be -/

theorem Ensured.of_settled {m : Memory} {rendered : List (Managed × Existence)} (hq : m.Quiet)
    (hsettled : ∀ e ∈ rendered, e.1.IsAs m e.2) : Ensured rendered m m := by
  induction rendered with
  | nil => exact .nil m
  | cons e rest ih =>
    obtain ⟨hfirst, hrest⟩ := List.forall_mem_cons.1 hsettled
    exact .cons (ensure_settled hq hfirst) (ih hrest)

/-! ## Statuses that are written again -/

/-- A record that was stored with a status is stored the same way again. -/
theorem Memory.marked_written {m : Memory} {key : ObjectKey} {r written : Record} {o : Object}
    (h : Record.ofObject (m.stamp (m.marked key r o)) = .ok written) :
    m.marked key written (m.stamp (m.marked key r o)) = m.stamp (m.marked key r o) := by
  have hstatus := Record.status_of_ofObject h (m.status?_marked key r o)
  obtain ⟨hmetadata, hspec, -⟩ := Record.ofObject_eq_ok.1 h
  rw [marked]
  split
  next =>
    refine Object.withStatusOf_of_status? ?_
    rw [written.object_status, hstatus]
    exact (m.status?_marked key r o).symm
  next hsub =>
    have hwhole : m.marked key r o = m.replaced key r.object o := if_neg hsub
    have htype : (m.marked key r o).type = some Record.type := by
      rw [hwhole, replaced, if_neg hsub]
      rfl
    have hbody : (m.marked key r o).body = r.object.body := by
      rw [hwhole, replaced, if_neg hsub]
    -- the whole record was stored, so the new one has its specification, too
    have hread : (m.stamp (m.marked key r o)).body.find? "spec" = some r.spec.toJson := by
      show (m.marked key r o).body.find? "spec" = _
      rw [hbody, r.object_spec]
    rw [hread, Option.bind_some, r.spec.ofJson?_toJson] at hspec
    have hsame : written.object.body = r.object.body := by
      simp only [Record.object, Record.bodyFields, hstatus, Option.some.inj hspec]
    have hobject : written.object = m.stamp (m.marked key r o) := by
      have hparts : written.object = ⟨some Record.type, written.metadata, written.object.body⟩ := rfl
      rw [hparts, hmetadata, hsame, ← hbody, ← htype]
      rfl
    rw [hobject, replaced, if_neg hsub]

/-! ## Records that are to be installed -/

/-- A pass over the record installs this configuration, and nobody disturbs it. -/
structure Installable (key : ObjectKey) (m : Memory) (c : Configuration) (r : Record) : Prop where
  quiet : m.Quiet
  stored : Record.StoredAs m key r
  deletion : r.metadata.deletionTimestamp = none
  managed : r.phase ≠ some .unmanaged
  version : isSupported r.spec.version = true
  resolved : Configuration.resolve r = .ok c

section Installable

variable {m m' : Memory} {key : ObjectKey} {c : Configuration} {r r' : Record}

theorem Installable.of_same (h : Installable key m c r) (hsame : r.SameDeclaration r')
    (hq : m'.Quiet) (hstored : Record.StoredAs m' key r') (hmanaged : r'.phase ≠ some .unmanaged) :
    Installable key m' c r' where
  quiet := hq
  stored := hstored
  deletion :=
    Eq.trans (congrArg Metadata.deletionTimestamp hsame.metadata :) h.deletion
  managed := hmanaged
  version := hsame.spec ▸ h.version
  resolved := hsame.resolve.trans h.resolved

/-- Writing a status leaves the record to be installed. -/
theorem Installable.setPhase (h : Installable key m c r) (hm : m.Reachable)
    (hkey : key.type = Record.type) (phase : Phase) (hphase : phase ≠ .unmanaged)
    (message : String) :
    ∃ written o, m.objects.get? key = some o ∧
      Record.ofObject (m.stamp (m.marked key (r.withStatus phase message) o)) = .ok written ∧
      (MeshOperator.setPhase phase message r).run.run Memory.answer m = (.ok written,
        (m.write (m.statusVerb key) key (m.marked key (r.withStatus phase message) o)).2) ∧
      Installable key
        (m.write (m.statusVerb key) key (m.marked key (r.withStatus phase message) o)).2 c written ∧
      written.status = some ⟨some phase, message⟩ := by
  obtain ⟨o, hget, ho⟩ := id h.stored
  obtain ⟨written, hwritten, hrun⟩ :=
    setPhase_writes h.quiet hm hkey hget ho (Phase.permits_of_ne h.managed phase) message
  refine ⟨written, o, hget, hwritten, hrun, ?_⟩
  have hstatus := Record.status_of_ofObject hwritten (m.status?_marked key _ o)
  have hmanaged : written.phase ≠ some .unmanaged := by
    rw [Record.phase, hstatus]
    exact fun heq => hphase (Option.some.inj heq)
  have hobeys : Obeys (Careful NoRecord) (OnSuccess Held)
      (MeshOperator.setPhase phase message r).run [o] :=
    careful_setPhase ⟨o, List.mem_singleton_self o, .read ho⟩
  obtain ⟨r', hstored', hsame⟩ := hm.keeps_declaration hkey
    (fun x hx => ⟨key, List.mem_singleton.1 hx ▸ hget⟩) hobeys h.stored
  rw [hrun] at hstored'
  have hstored : Record.StoredAs (m.write (m.statusVerb key) key
      (m.marked key (r.withStatus phase message) o)).2 key written :=
    ⟨_, SortedMap.get?_insert_self _ _, hwritten⟩
  cases hstored'.unique hstored
  exact ⟨h.of_same hsame (touched_write h.quiet _ _).quiet hstored hmanaged, hstatus⟩

theorem prepare_installable (hm : m.Reachable) (hq : m.Quiet) (hkey : key.type = Record.type)
    (h : (prepare key).run.run Memory.answer m = (.ok (.ready c r), m')) :
    Installable key m' c r ∧
      ∃ first, Record.StoredAs m key first ∧ Configuration.resolve first = .ok c := by
  cases prepare_cases h with
  | @marked first _ _ _ hstored hdeletion hphase hversion hresolve hset =>
    have hnew : first.phase ≠ some .unmanaged := by
      rw [hphase]
      simp
    have hfirst : Installable key m c first := ⟨hq, hstored, hdeletion, hnew, hversion, hresolve⟩
    obtain ⟨written, o, -, -, hrun, hinstallable, -⟩ :=
      hfirst.setPhase hm hkey .created (by decide) ""
    cases hrun.symm.trans hset
    exact ⟨hinstallable, first, hstored, hresolve⟩
  | @known _ _ phase hstored hdeletion hphase hmanaged hversion hresolve =>
    have hknown : r.phase ≠ some .unmanaged := by
      rw [hphase]
      exact fun heq => hmanaged (Option.some.inj heq)
    exact ⟨⟨hq, hstored, hdeletion, hknown, hversion, hresolve⟩, r, hstored, hresolve⟩

end Installable

/-! ## Passes that settle -/

/-- The record was installed: it is available, its status reads as it would be written again, and
what the subsystems make from its configuration is as it is to be. -/
structure Settled (subsystems : List Subsystem) (key : ObjectKey) (m : Memory)
    (c : Configuration) (r : Record) : Prop extends Installable key m c r where
  available : r.status = some ⟨some .available, ""⟩
  fixed : ∀ o, m.objects.get? key = some o → m.marked key r o = o
  resources : ∃ rendered, subsystems.mapM (·.render c) = .ok rendered ∧
    ∀ e ∈ rendered.flatten, e.1.IsAs m e.2

section Settled

variable {m m' : Memory} {key : ObjectKey} {c : Configuration} {r : Record}
  {subsystems : List Subsystem}

theorem Installable.install (h : Installable key m c r) (hm : m.Reachable)
    (hkey : key.type = Record.type) {rendered : List (List (Managed × Existence))}
    (hrender : subsystems.mapM (·.render c) = .ok rendered)
    (hapart : KeysApart subsystems c key) :
    ∃ m' written,
      (MeshOperator.install (subsystems.map Component.ofSubsystem) c r).run.run Memory.answer m =
        (.ok .reconciled, m') ∧ Settled subsystems key m' c written ∧
      ∀ other, other ≠ key → other ∉ rendered.flatten.map (·.1.key) →
        m'.objects.get? other = m.objects.get? other := by
  obtain ⟨hkeys, hnodup⟩ := List.nodup_cons.1 (hapart rendered hrender)
  obtain ⟨m₁, hcomponents, hsynced⟩ := reconcileComponents_quiet h.quiet hrender hnodup
  -- the subsystems have left the record alone
  have hstored₁ := h.stored.congr (hsynced.frame key hkeys)
  have h₁ := h.of_same (.refl r) hsynced.quiet hstored₁ h.managed
  obtain ⟨written, o, -, hwritten, hset, hinstallable, hstatus⟩ :=
    h₁.setPhase (hm.of_run hcomponents) hkey .available (by decide) ""
  have htouched : Touched key m₁ _ := touched_write h₁.quiet (m₁.statusVerb key)
    (m₁.marked key (r.withStatus .available "") o)
  refine ⟨_, written, run_install hcomponents hset,
    ⟨hinstallable, hstatus, ?_, rendered, hrender, ?_⟩, fun other hother hmem => ?_⟩
  · intro stored hget
    cases hget.symm.trans (SortedMap.get?_insert_self _ _)
    exact marked_written hwritten
  · -- and marking the record has left the resources alone
    intro e he
    refine (hsynced.settled e he).congr (htouched.frame _ ?_)
    rintro heq
    exact hkeys (List.mem_map.2 ⟨e, he, heq⟩)
  · exact (htouched.frame other hother).trans (hsynced.frame other hmem)

theorem pass_settles (hm : m.Reachable) (hq : m.Quiet) (hkey : key.type = Record.type)
    (hapart : ∀ first c, Record.StoredAs m key first → Configuration.resolve first = .ok c →
      KeysApart subsystems c key)
    (h : (reconcilePass (subsystems.map Component.ofSubsystem) key).run.run Memory.answer m =
      (.ok .reconciled, m')) :
    ∃ c r, Settled subsystems key m' c r := by
  obtain ⟨p, m₁, hprepare, hrest⟩ := Attempt.run_bind_inv h
  cases p with
  | ended outcome =>
    cases hrest
    cases prepare_cases hprepare
  | ready c r =>
    obtain ⟨hinstallable, first, hfirst, hresolve⟩ := prepare_installable hm hq hkey hprepare
    obtain ⟨m₂, hcomponents⟩ := components_of_install hrest
    obtain ⟨rendered, hrender⟩ := rendered_of_components hcomponents
    obtain ⟨m₃, written, hrun, hsettled, -⟩ :=
      hinstallable.install (hm.of_run hprepare) hkey hrender (hapart first c hfirst hresolve)
    cases hrun.symm.trans hrest
    exact ⟨c, written, hsettled⟩

/-! ## Passes over what is settled -/

theorem Settled.wait (h : Settled subsystems key m c r) (clock : Timestamp) :
    Settled subsystems key { m with clock := clock } c r where
  quiet := ⟨h.quiet.faults, h.quiet.conflicts⟩
  stored := h.stored
  deletion := h.deletion
  managed := h.managed
  version := h.version
  resolved := h.resolved
  available := h.available
  fixed := h.fixed
  resources := h.resources

/-- A pass over a settled record writes the record over itself. -/
theorem Settled.pass (h : Settled subsystems key m c r) (hm : m.Reachable)
    (hkey : key.type = Record.type) {o : Object} (hget : m.objects.get? key = some o) :
    (reconcilePass (subsystems.map Component.ofSubsystem) key).run.run Memory.answer m =
      (.ok .reconciled, (m.write (m.statusVerb key) key o).2) := by
  have ho := h.stored.read hget
  have hphase : r.phase = some .available := by
    rw [Record.phase, h.available]
    rfl
  have hprepare := run_prepare_known (run_fetchRecord (Attempt.run_find_ok (h.quiet.get_some hget))
    ho) h.deletion hphase (by decide) h.version h.resolved
  obtain ⟨rendered, hrender, hsettled⟩ := h.resources
  have hcomponents := (Ensured.of_settled h.quiet hsettled).components hrender
  obtain ⟨written, -, hset⟩ := setPhase_writes h.quiet hm hkey hget ho
    (Phase.permits_of_ne h.managed .available) ""
  have hsame : r.withStatus .available "" = r := by
    rw [Record.withStatus, ← h.available]
  rw [hsame, h.fixed o hget] at hset
  exact (Attempt.run_bind_ok hprepare).trans (run_install hcomponents hset)

end Settled

/-- After a pass that has gone through where nobody disturbs it, another pass goes through as well
and, whatever the time, it writes nothing but the status of the record. All other objects are left
as they are, and the record is but for its resource version. The subsystems are those of the
control plane, or they make resources with keys of their own. -/
theorem settled_stays {m m' : Memory} (hm : m.Reachable) (hquiet : m.Quiet) {key : ObjectKey}
    (hkey : key.type = Record.type) {subsystems : List Subsystem}
    (hapart : subsystems = Catalogue.controlPlane ∨
      ∀ r c, Record.StoredAs m key r → Configuration.resolve r = .ok c →
        KeysApart subsystems c key)
    (hpass : (reconcilePass (subsystems.map Component.ofSubsystem) key).run.run Memory.answer m =
      (.ok .reconciled, m')) (clock : Timestamp) :
    ∃ m'' o, (reconcilePass (subsystems.map Component.ofSubsystem) key).run.run Memory.answer
        { m' with clock := clock } = (.ok .reconciled, m'') ∧
      m''.journal = m'.journal ++ [⟨m'.statusVerb key, key⟩] ∧
      (∀ other, other ≠ key → m''.objects.get? other = m'.objects.get? other) ∧
      m'.objects.get? key = some o ∧ m''.objects.get? key = some (m'.stamp o) := by
  have hapart : ∀ r c, Record.StoredAs m key r → Configuration.resolve r = .ok c →
      KeysApart subsystems c key := by
    rcases hapart with rfl | hapart
    · exact fun _ c _ _ => Catalogue.keysApart_controlPlane c hkey
    · exact hapart
  obtain ⟨c, r, hsettled⟩ := pass_settles hm hquiet hkey hapart hpass
  obtain ⟨o, hget, -⟩ := hsettled.stored
  have hm' : ({ m' with clock := clock } : Memory).Reachable := by
    obtain ⟨effects, hrun⟩ := hm.of_run hpass
    exact ⟨_, hrun.step (.wait clock)⟩
  refine ⟨_, o, (hsettled.wait clock).pass hm' hkey hget, rfl, fun other hother => ?_, hget, ?_⟩
  · exact SortedMap.get?_insert_ne _ _ hother
  · exact SortedMap.get?_insert_self _ _

/-- The second pass over a plain record stores the record anew and nothing else. -/
theorem settled_stays_ofPlain :
    let key := (Record.plain none).key
    let pass := reconcilePass (Catalogue.controlPlane.map Component.ofSubsystem) key
    ∃ m m' o, pass.run.run Memory.answer (.ofPlain none) = (.ok .reconciled, m) ∧
      pass.run.run Memory.answer m = (.ok .reconciled, m') ∧
        m'.journal = m.journal ++ [⟨m.statusVerb key, key⟩] ∧
          (∀ other, other ≠ key → m'.objects.get? other = m.objects.get? other) ∧
            m.objects.get? key = some o ∧ m'.objects.get? key = some (m.stamp o) := by
  intro key pass
  have hm := Memory.reachable_ofPlain none
  have hq := Memory.quiet_ofPlain none
  have hkey : key.type = Record.type := rfl
  obtain ⟨c, hresolve, hschedule⟩ : ∃ c,
      Configuration.resolve ((Record.plain none).inserted (.empty .epoch)) = .ok c ∧
        Catalogue.Heartbeat.isSchedule c.heartbeat.schedule = true := ⟨_, rfl, by decide⟩
  obtain ⟨rendered, hrender⟩ := Catalogue.render_controlPlane hschedule
  obtain ⟨r, m₁, hprepare, -, -, -⟩ := prepare_quiet hq hm hkey (Record.storedAs_ofPlain none) rfl
    (by decide) (by decide) hresolve
  obtain ⟨hinstallable, -⟩ := prepare_installable hm hq hkey hprepare
  obtain ⟨m, written, hinstall, hsettled⟩ := hinstallable.install (hm.of_run hprepare) hkey hrender
    (Catalogue.keysApart_controlPlane c hkey)
  have hpass : pass.run.run Memory.answer (.ofPlain none) = (.ok .reconciled, m) :=
    (Attempt.run_bind_ok hprepare).trans hinstall
  obtain ⟨m', o, hagain, hjournal, hother, hget, hget'⟩ :=
    settled_stays hm hq hkey (.inl rfl) hpass m.clock
  exact ⟨m, m', o, hpass, hagain, hjournal, hother, hget, hget'⟩

end MeshOperator
