import MeshOperator.Proofs.Effects
import MeshOperator.Proofs.FailStop
import MeshOperator.Proofs.Gates

/-!
What a pass writes over a record.

`PassWrites` lists it in order. A status is written by updates alone, each of which writes once or
not at all. Besides them the finalizer is taken off, which leaves the status as it is. This holds of
any stored record and a pass over any key: a pass that has read something else has the wrong
resource version, so that its first write is refused, and an update then reads the record that it
writes.
-/

namespace MeshOperator

set_option autoImplicit false

open Memory

/-! ## Components that spare an object -/

/-- Whatever the store and the configuration, the component does not write the object with this
key. -/
def Component.Spares (key : ObjectKey) (component : Component) : Prop :=
  ∀ c m, m.Reachable → writes key (component.reconcile c).run m = []

section Components

variable {m m' : Memory} {key : ObjectKey} {c : Configuration} {components : List Component}

theorem writesTo_ensure {within : ObjectKey → Prop} {seen : List Object} {resource : Managed}
    (h : within resource.key) (state : Existence) :
    Obeys (fun _ c => c.WritesTo within) (OnSuccess anyResult)
      (ensure resource state).run seen := by
  have hkeyed : ∀ {x : Object}, x.key = .ok resource.key →
      ∀ key, x.key = .ok key → within key := by
    intro x hx key hkey
    cases hx.symm.trans hkey
    exact h
  cases state with
  | present =>
    refine Obeys.attempt_bind anyResult (Obeys.find _ trivial trivial fun _ => trivial)
      fun more live? _ _ => ?_
    cases live? with
    | none =>
      exact Obeys.attempt_bind anyResult (Obeys.attempt_ask _ (hkeyed resource.keyed)
        fun _ => trivial) fun _ _ _ _ => OnSuccess.ok trivial
    | some live =>
      have hoverlay := (resource.object.overlay_key live).trans resource.keyed
      by_cases hs : resource.object.isSettled live = true
      · simp only [hs, if_true]
        exact OnSuccess.ok trivial
      · simp only [hs]
        exact Obeys.attempt_bind anyResult (Obeys.attempt_ask _ (hkeyed hoverlay)
          fun _ => trivial) fun _ _ _ _ => OnSuccess.ok trivial
  | absent =>
    refine Obeys.attempt_bind anyResult (Obeys.find _ trivial trivial fun _ => trivial)
      fun more live? _ _ => ?_
    cases live? with
    | none => exact OnSuccess.ok trivial
    | some live => exact ⟨h, fun _ _ _ => trivial⟩

/-- The subsystems of the default control plane make nothing that is a record. -/
theorem spares_controlPlane (hkey : key.type = Record.type) :
    ∀ component ∈ Catalogue.controlPlane.map Component.ofSubsystem, component.Spares key := by
  intro component hcomponent c m _
  obtain ⟨s, hs, rfl⟩ := List.mem_map.1 hcomponent
  have hobeys : Obeys (fun _ c => c.WritesTo NoRecord) (OnSuccess anyResult)
      (s.reconcileProductions c s.productions .none).run [] :=
    Obeys.productions s c .none fun p hp resource hbuild state _ =>
      writesTo_ensure (within_controlPlane s hs p hp c resource hbuild) state
  refine List.filter_eq_nil_iff.2 fun e he => ?_
  have hother : NoRecord e.key := hobeys.effects m e he
  simp only [decide_eq_true_eq]
  rintro rfl
  exact hother hkey

theorem writes_components (hspares : ∀ component ∈ components, component.Spares key)
    (hm : m.Reachable) : writes key (reconcileComponents c components).run m = [] := by
  induction components generalizing m with
  | nil => rfl
  | cons component rest ih =>
    obtain ⟨hfirst, hrest⟩ := List.forall_mem_cons.1 hspares
    have hnone := hfirst c m hm
    rw [← writes_adapt (ReconcileError.component component.name)] at hnone
    cases hrun : (component.reconcile c).run.run Memory.answer m with
    | mk result m' =>
      have hadapt := Attempt.run_adapt (ReconcileError.component component.name) hrun
      cases result with
      | error e => exact (writes_bind_error hadapt).trans hnone
      | ok report =>
        refine (writes_bind_ok hadapt).trans ?_
        rw [hnone, List.nil_append]
        exact ih hrest (hm.of_run hrun)

/-- Components that go through have succeeded one after another. -/
theorem succeeded_of_components
    (h : (reconcileComponents c components).run.run Memory.answer m = (.ok (), m')) :
    ∃ calls, Succeeded Memory.answer c components m calls m' := by
  induction components generalizing m with
  | nil =>
    cases h
    exact ⟨[], .nil _⟩
  | cons component rest ih =>
    obtain ⟨report, m₁, hfirst, hrest⟩ := Attempt.run_bind_inv h
    obtain ⟨calls, hsucceeded⟩ := ih hrest
    exact ⟨_, .cons (Attempt.run_adapt_inv hfirst) hsucceeded⟩

end Components

/-! ## Single writes -/

/-- The effect has left a record with this key and this status. -/
def Memory.Effect.Marks (key : ObjectKey) (status : Option RecordStatus) (e : Effect) : Prop :=
  ∃ x r, e = .wrote key x ∧ Record.ofObject x = .ok r ∧ r.status = status

/-- There is one effect of this kind or none. -/
structure AtMostOne (kind : Effect → Prop) (es : List Effect) : Prop where
  length : es.length ≤ 1
  all : ∀ e ∈ es, kind e

section Single

variable {m : Memory} {key other : ObjectKey} {q r : Record} {kind kind' : Effect → Prop}
  {es : List Effect}

theorem AtMostOne.nil : AtMostOne kind [] := ⟨Nat.zero_le 1, List.forall_mem_nil _⟩

theorem AtMostOne.imp (h : AtMostOne kind es) (hkind : ∀ e, kind e → kind' e) :
    AtMostOne kind' es := ⟨h.length, fun e he => hkind e (h.all e he)⟩

/-- Of a single write only that to the object itself counts. -/
theorem AtMostOne.of_wrote {written : ObjectKey} {x : Object}
    (h : written = key → kind (.wrote key x)) :
    AtMostOne kind ([.wrote written x].filter fun e => e.key = key) := by
  refine ⟨List.length_filter_le _ _, fun e he => ?_⟩
  obtain ⟨hmem, hkey⟩ := List.mem_filter.1 he
  cases List.mem_singleton.1 hmem
  obtain rfl : written = key := of_decide_eq_true hkey
  exact h rfl

/-- An update writes its status once or not at all, whichever record it starts with. -/
theorem writes_updateStatus (hm : m.Reachable) (hstored : Record.StoredAs m key q) (phase : Phase)
    (message : String) (r : Record) :
    AtMostOne (Effect.Marks key (some ⟨some phase, message⟩))
      (writes key (updateStatus phase message r) m) := by
  have hstep := updateStatus_step hm phase message r
  generalize hrun : (updateStatus phase message r).run Memory.answer m = result at hstep
  cases hstep with
  | foiled e last f _ =>
    rw [writes_of_effects (effects_eq_nil hrun rfl)]
    exact .nil
  | @wrote staged stored result f hget hstatus _ =>
    rw [writes, effects_eq_wrote hm hrun rfl (SortedMap.get?_insert_self _ _)]
    refine .of_wrote ?_
    rintro rfl
    obtain ⟨written, hwritten⟩ :=
      isRecord_stamp m (isRecord_marked m r.key staged ⟨q, hstored.read hget⟩)
    refine ⟨_, written, rfl, hwritten, ?_⟩
    exact (Record.status_of_ofObject hwritten (m.status?_marked r.key staged stored)).trans hstatus

/-- What carries the version of a stored object is up to date only over that object. -/
theorem Memory.Reachable.eq_of_isCurrent (hm : m.Reachable) {x o stored : Object}
    (hget : m.objects.get? other = some o) (hstored : m.objects.get? key = some stored)
    (hversion : x.metadata.resourceVersion = o.metadata.resourceVersion)
    (hcur : isCurrent x stored = true) : other = key ∧ o = stored := by
  obtain ⟨h, hrun⟩ := hm
  have hr := hrun.recorded
  obtain ⟨n, -, hv⟩ := hr.numbered other o (hr.mem_history hget)
  have hsame := version_of_isCurrent hcur (hversion.trans hv)
  exact hr.eq_of_version (hr.mem_history hget) (hr.mem_history hstored) (hv.trans hsame.symm)

/-- Taking the finalizer off a record that was just read leaves the status alone. If the record was
read from elsewhere it is not written. -/
theorem writes_dropFinalizer (hm : m.Reachable) (hstored : Record.StoredAs m key q)
    (hread : Record.StoredAs m other r) :
    AtMostOne (Effect.Marks key q.status) (writes key (dropFinalizer r).run m) := by
  unfold dropFinalizer
  by_cases hf : r.hasFinalizer = true
  · rw [if_pos hf, Record.toObject_eq]
    dsimp only
    rw [writes_bind_silent ?silent]
    case silent =>
      intro written m'
      cases Record.ofObject written <;> rfl
    rcases effects_replace (ReconcileError.store r.key) r.withoutFinalizer.object m with
      hnone | ⟨written, stored, hget, hcur, hwrote⟩
    · rw [writes_of_effects hnone]
      exact .nil
    · rw [writes, hwrote]
      refine .of_wrote ?_
      rintro rfl
      -- what is stored is what the record was read from
      obtain ⟨o, hother, ho⟩ := hread
      obtain ⟨rfl, rfl⟩ := hm.eq_of_isCurrent hother hget
        (Record.Derived.withoutFinalizer (.read ho)).version hcur
      cases hstored.unique ⟨o, hget, ho⟩
      obtain ⟨next, hnext⟩ :=
        isRecord_stamp m (isRecord_replaced m other q.withoutFinalizer ⟨q, ho⟩)
      have hstatus : q.withoutFinalizer.status = q.status := rfl
      exact ⟨_, next, rfl, hnext, Record.status_of_replaced ho hstatus hnext⟩
  · rw [if_neg hf]
    exact .nil

/-- If all writes of a procedure leave a record, one is stored afterwards. -/
theorem Memory.Reachable.storedAs_run {α : Type} (hm : m.Reachable)
    (hstored : Record.StoredAs m key q) {p : Procedure α} {m' : Memory} {a : α}
    (hrun : p.run Memory.answer m = (a, m'))
    (h : ∀ e ∈ writes key p m, ∃ status, e.Marks key status) : ∃ q', Record.StoredAs m' key q' := by
  obtain ⟨o, hget, ho⟩ := hstored
  have hrecord : ∃ o, m.objects.get? key = some o ∧ ∃ r, Record.ofObject o = .ok r :=
    ⟨o, hget, q, ho⟩
  have hlast := hm.forall_states hrecord (fun e he => by
    obtain ⟨status, x, r, hx, hr, -⟩ := h e he
    exact ⟨x, hx, r, hr⟩) _ (p.mem_states_last Memory.answer m)
  rw [hrun] at hlast
  obtain ⟨x, hx, r, hr⟩ := hlast
  exact ⟨r, x, hx, hr⟩

end Single

/-! ## Writes of a pass -/

/-- What a release writes over a record, in order: the finalizer is taken off, which leaves the
status as it was, and the record is marked. -/
inductive ReleaseWrites (key : ObjectKey) (kept : Option RecordStatus) : List Effect → Prop where
  | mk {dropped marked : List Effect} (hdropped : AtMostOne (Effect.Marks key kept) dropped)
      (hmarked : AtMostOne (Effect.Marks key (some ⟨some .unmanaged, ""⟩)) marked) :
      ReleaseWrites key kept (dropped ++ marked)

/-- What a pass writes over a record, in order: all of a release, or first that the record was
created, if it had no phase, and then how the components have ended. -/
inductive PassWrites (key : ObjectKey) (kept : Option RecordStatus) (unset succeeded : Prop) :
    List Effect → Prop where
  | released {es : List Effect} (h : ReleaseWrites key kept es) :
      PassWrites key kept unset succeeded es
  | installed {created result : List Effect}
      (hcreated : AtMostOne (fun e => unset ∧ e.Marks key (some ⟨some .created, ""⟩)) created)
      (hresult : AtMostOne (fun e => (succeeded ∧ e.Marks key (some ⟨some .available, ""⟩)) ∨
        ∃ error : ReconcileError, e.Marks key (some ⟨some .reconcileFailed, error.text⟩)) result) :
      PassWrites key kept unset succeeded (created ++ result)

theorem ReleaseWrites.nil {key : ObjectKey} {kept : Option RecordStatus} :
    ReleaseWrites key kept [] :=
  @ReleaseWrites.mk key kept [] [] .nil .nil

section Passes

variable {m m' : Memory} {key other : ObjectKey} {q r : Record} {components : List Component}

theorem writes_fetchRecord (key other : ObjectKey) (m : Memory) :
    writes key (fetchRecord other).run m = [] := by
  refine writes_of_effects ?_
  rw [fetchRecord_eq, effects, callEffect?_get]
  rfl

theorem writes_setPhase (phase : Phase) (message : String) (r : Record) :
    writes key (setPhase phase message r).run m = writes key (updateStatus phase message r) m := by
  unfold setPhase
  rw [Attempt.run_lift_bind, writes_bind]
  generalize (updateStatus phase message r).run Memory.answer m = result
  obtain ⟨⟨result, last⟩, m'⟩ := result
  cases result <;> exact List.append_nil _

theorem writes_release (hm : m.Reachable) (hstored : Record.StoredAs m key q)
    (hread : Record.StoredAs m other r) :
    ReleaseWrites key q.status (writes key (release r).run m) := by
  have hdropped := writes_dropFinalizer hm hstored hread
  unfold release
  cases hrun : (dropFinalizer r).run.run Memory.answer m with
  | mk result m₁ =>
    cases result with
    | error e =>
      rw [writes_bind_error hrun, ← List.append_nil (writes key _ _)]
      exact .mk hdropped .nil
    | ok next =>
      rw [writes_bind_ok hrun]
      refine .mk hdropped ?_
      obtain ⟨q', hstored₁⟩ :=
        hm.storedAs_run hstored hrun fun e he => ⟨_, hdropped.all e he⟩
      rw [Attempt.run_lift_bind, writes_bind]
      refine Eq.subst (List.append_nil _).symm ?_
      exact writes_updateStatus (hm.of_run hrun) hstored₁ .unmanaged "" next

theorem writes_decommission (hm : m.Reachable) (hstored : Record.StoredAs m key q)
    (other : ObjectKey) : ReleaseWrites key q.status (writes key (decommission other).run m) := by
  unfold decommission
  cases hfetch : (fetchRecord other).run.run Memory.answer m with
  | mk result m₁ =>
    cases result with
    | error e =>
      rw [writes_bind_error hfetch, writes_fetchRecord]
      exact .nil
    | ok r? =>
      rw [writes_bind_ok hfetch, writes_fetchRecord, List.nil_append]
      cases r? with
      | none => exact .nil
      | some r =>
        obtain ⟨rfl, hread⟩ := fetchRecord_ok hfetch
        dsimp only
        rw [writes_bind_silent fun _ _ => rfl]
        exact writes_release hm hstored hread

/-- A pass over a record to be released writes what the release does. -/
theorem writes_pass_release (hm : m.Reachable) (hstored : Record.StoredAs m key q)
    (hfetch : (fetchRecord other).run.run Memory.answer m = (.ok (some r), m)) (h : r.ToRelease) :
    ReleaseWrites key q.status (writes key (reconcilePass components other).run m) := by
  have hprepare : writes key (prepare other).run m = writes key (release r).run m := by
    unfold prepare
    rw [writes_bind_ok hfetch, writes_fetchRecord, List.nil_append]
    simp only [h.deletion, h.finalizer, if_true]
    exact writes_bind_silent fun _ _ => rfl
  have hwrites := writes_release hm hstored (fetchRecord_ok hfetch).2
  rw [← hprepare] at hwrites
  unfold reconcilePass
  cases hrelease : (release r).run.run Memory.answer m with
  | mk result m' =>
    have hrun := run_prepare_released hfetch h.deletion h.finalizer hrelease
    cases result with
    | error e =>
      rw [writes_bind_error hrun]
      exact hwrites
    | ok _ =>
      rw [writes_bind_ok hrun]
      exact Eq.subst (List.append_nil _).symm hwrites

/-- The preparation of a record to be installed writes at most that it was created. -/
theorem writes_prepare_install (hm : m.Reachable) (hstored : Record.StoredAs m key q)
    (hfetch : (fetchRecord other).run.run Memory.answer m = (.ok (some r), m)) (h : r.ToInstall) :
    AtMostOne (fun e => r.phase = none ∧ e.Marks key (some ⟨some .created, ""⟩))
      (writes key (prepare other).run m) := by
  obtain ⟨c, hresolve⟩ := Configuration.resolve_ok h.name h.ns
  unfold prepare
  rw [writes_bind_ok hfetch, writes_fetchRecord, List.nil_append]
  cases hphase : r.phase with
  | none =>
    simp only [h.deletion, hphase, h.version, hresolve, Option.isSome_none, Option.isNone_none,
      Bool.false_eq_true, reduceCtorEq, if_true, if_false]
    rw [writes_bind_silent fun _ _ => rfl, writes_setPhase]
    exact (writes_updateStatus hm hstored .created "" r).imp fun _ he => ⟨trivial, he⟩
  | some phase =>
    have hmanaged := h.phase
    rw [hphase] at hmanaged
    simp only [h.deletion, hphase, hmanaged, h.version, hresolve, Option.isSome_none,
      Option.isNone_some, Bool.false_eq_true, if_true, if_false]
    exact .nil

/-- After the components, which have spared the record, their outcome is written. -/
theorem writes_install (hm : m.Reachable) (hstored : Record.StoredAs m key q)
    (hspares : ∀ component ∈ components, component.Spares key) (c : Configuration) (r : Record) :
    AtMostOne (fun e => ((∃ calls m', Succeeded Memory.answer c components m calls m') ∧
        e.Marks key (some ⟨some .available, ""⟩)) ∨
      ∃ error : ReconcileError, e.Marks key (some ⟨some .reconcileFailed, error.text⟩))
        (writes key (install components c r).run m) := by
  have hnone := writes_components (c := c) hspares hm
  cases hrun : (reconcileComponents c components).run.run Memory.answer m with
  | mk result m₁ =>
    have hm₁ := hm.of_run hrun
    have hstored₁ : Record.StoredAs m₁ key q := by
      have hget := hm.get?_run hnone
      rw [hrun] at hget
      exact hstored.congr hget
    have hlift : (Attempt.run (ExceptT.lift (reconcileComponents c components).run :
        Attempt ReconcileError _)).run Memory.answer m = (.ok result, m₁) := by
      rw [Attempt.run_lift, hrun]
    unfold install
    rw [writes_bind_ok hlift, writes_lift, hnone, List.nil_append]
    cases result with
    | error e =>
      dsimp only
      rw [Attempt.run_lift_bind, writes_bind]
      refine Eq.subst (List.append_nil _).symm ?_
      exact (writes_updateStatus hm₁ hstored₁ .reconcileFailed e.text r).imp fun _ h => .inr ⟨e, h⟩
    | ok _ =>
      dsimp only
      rw [writes_bind_silent fun _ _ => rfl, writes_setPhase]
      obtain ⟨calls, hsucceeded⟩ := succeeded_of_components hrun
      exact (writes_updateStatus hm₁ hstored₁ .available "" r).imp fun _ h =>
        .inl ⟨⟨calls, m₁, hsucceeded⟩, h⟩

/-- The components of a pass were run, all of them, and have succeeded. -/
def PassSucceeds (components : List Component) (key : ObjectKey) (m : Memory) : Prop :=
  ∃ c r m₁ calls m₂, (prepare key).run.run Memory.answer m = (.ok (.ready c r), m₁) ∧
    Succeeded Memory.answer c components m₁ calls m₂

/-- Whatever record a pass is about, these are its writes to a stored one. -/
theorem writes_reconcilePass (hm : m.Reachable) (hstored : Record.StoredAs m key q)
    (hspares : ∀ component ∈ components, component.Spares key) (other : ObjectKey) {unset : Prop}
    (hunset : ∀ r, Record.StoredAs m other r → r.phase = none → unset) :
    PassWrites key q.status unset (PassSucceeds components other m)
      (writes key (reconcilePass components other).run m) := by
  rcases halts_or other (m.answer (.get other)).1 with ⟨result, hhalts⟩ | ⟨o, r, ha, ho, hgates⟩
  · have hrun := (hhalts.pass components).run
    rw [writes_of_effects (effects_eq_nil hrun (journal_get m other))]
    exact .released .nil
  · have hfetch : (fetchRecord other).run.run Memory.answer m = (.ok (some r), m) := by
      rcases m.get_cases other with ⟨e, f, he⟩ | ⟨stored, -, hget⟩
      · cases (congrArg Prod.fst he).symm.trans ha
      · cases (congrArg Prod.fst hget).symm.trans ha
        exact run_fetchRecord (Attempt.run_find_ok hget) ho
    rcases hgates with hrelease | hinstall
    · exact .released (writes_pass_release hm hstored hfetch hrelease)
    · have hcreated := (writes_prepare_install hm hstored hfetch hinstall).imp fun e he =>
        (⟨hunset r (fetchRecord_ok hfetch).2 he.1, he.2⟩ :
          unset ∧ e.Marks key (some ⟨some .created, ""⟩))
      unfold reconcilePass
      cases hrun : (prepare other).run.run Memory.answer m with
      | mk result m₁ =>
        cases result with
        | error e =>
          rw [writes_bind_error hrun, ← List.append_nil (writes key _ _)]
          exact .installed hcreated .nil
        | ok p =>
          rw [writes_bind_ok hrun]
          refine .installed hcreated ?_
          cases p with
          | ended outcome => exact .nil
          | ready c r' =>
            obtain ⟨q₁, hstored₁⟩ := hm.storedAs_run hstored hrun fun e he =>
              ⟨_, (hcreated.all e he).2⟩
            refine (writes_install (hm.of_run hrun) hstored₁ hspares c r').imp fun e h =>
              h.imp_left ?_
            rintro ⟨⟨calls, m', hsucceeded⟩, hmarks⟩
            exact ⟨⟨c, r', m₁, calls, m', hrun, hsucceeded⟩, hmarks⟩

end Passes

end MeshOperator
