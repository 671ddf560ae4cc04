import MeshOperator.Proofs.ComponentRuns
import MeshOperator.Proofs.RenderedPass
import MeshOperator.Proofs.ResourceKeys

/-!
Tearing a subsystem down.

A subsystem that is to be absent is run like any other: each resource is built first, although only
its key is needed to delete it. Whatever the configuration says, all resources of the catalogue can
be built, with one exception: the job of the heartbeat takes a schedule. So on a quiet store
tear-down goes through unless it is the heartbeat that goes and its schedule is none. Then the run
ends at the job, which is the last of its resources, and leaves it.
-/

namespace MeshOperator

set_option autoImplicit false

/-! ## Removals in turn -/

namespace Memory

/-- How the removal of what has this key ends. -/
def removal (m : Memory) (key : ObjectKey) : SyncOutcome :=
  if m.objects.contains key then .deleted else .absent

/-- The report of removals from this store. -/
def removals (m : Memory) (keys : List ObjectKey) : ComponentReport where
  created := 0
  updated := 0
  unchanged := 0
  deleted := keys.countP fun key => m.objects.contains key
  absent := keys.countP fun key => !m.objects.contains key

theorem counting_removals (m : Memory) (keys : List ObjectKey) :
    .counting (keys.map m.removal) = m.removals keys := by
  induction keys with
  | nil => rfl
  | cons key rest ih =>
    have hrest := ComponentReport.mk.inj ih
    simp only [removals, List.map_cons, List.countP_cons, ComponentReport.counting,
      List.count_cons, hrest]
    cases hkey : m.objects.contains key <;> simp [removal, hkey]

/-- Nothing has any of these keys, everything else is as it was, and the store is quiet. -/
structure Removed (keys : List ObjectKey) (m m' : Memory) : Prop where
  quiet : m'.Quiet
  gone : ∀ key ∈ keys, m'.objects.get? key = none
  frame : ∀ key, key ∉ keys → m'.objects.get? key = m.objects.get? key

variable {m m₁ m₂ : Memory} {keys : List ObjectKey} {key : ObjectKey}

theorem Removed.cons (h : Removed [key] m m₁) (h' : Removed keys m₁ m₂) :
    Removed (key :: keys) m m₂ where
  quiet := h'.quiet
  gone := by
    intro other hother
    by_cases hlater : other ∈ keys
    · exact h'.gone other hlater
    · obtain rfl := (List.mem_cons.1 hother).resolve_right hlater
      exact (h'.frame other hlater).trans (h.gone other (List.mem_singleton_self other))
  frame := by
    intro other hother
    rw [List.mem_cons, not_or] at hother
    obtain ⟨hne, hlater⟩ := hother
    exact (h'.frame other hlater).trans (h.frame other (by simpa using hne))

theorem ensureAbsent_removal (hq : m.Quiet) (key : ObjectKey) :
    ∃ m', (ensureAbsent key).run.run Memory.answer m = (.ok (m.removal key), m') ∧
      Removed [key] m m' := by
  unfold removal SortedMap.contains
  cases hget : m.objects.get? key with
  | none =>
    refine ⟨m, ensureAbsent_missing hq hget, hq, ?_, fun _ _ => rfl⟩
    intro other hother
    rwa [List.mem_singleton.1 hother]
  | some live =>
    refine ⟨_, ensureAbsent_stored hq hget, ⟨hq.faults, hq.conflicts⟩, ?_, ?_⟩
    · intro other hother
      rw [List.mem_singleton.1 hother]
      exact SortedMap.get?_erase_self _
    · intro other hother
      exact SortedMap.get?_erase_ne _ (by simpa using hother)

end Memory

open Memory

section Productions

variable {m : Memory} {c : Configuration} {ps : List Production} {keys : List ObjectKey}

/-- The production makes something with this key. -/
def Production.BuildsAt (c : Configuration) (p : Production) (key : ObjectKey) : Prop :=
  ∃ d, p.build c = .ok d ∧ d.key = key

theorem effectiveState_withState_absent (s : Subsystem) (p : Production) :
    (s.withState .absent).effectiveState p = .absent :=
  (Existence.combine_eq_absent _ _).2 (.inr rfl)

/-- What is to be absent and can be built is removed in turn. The keys are distinct, so that no
removal counts for another. -/
theorem removed_inTurn (s : Subsystem) (h : List.Forall₂ (Production.BuildsAt c) ps keys)
    (hnodup : keys.Nodup) (hq : m.Quiet) :
    ∃ pairs calls m', (s.withState .absent).pairs c ps = .ok pairs ∧
      SyncedInTurn Memory.answer pairs m (keys.map m.removal) calls m' ∧ Removed keys m m' := by
  induction h generalizing m with
  | nil =>
    exact ⟨[], [], m, rfl, .nil m, hq, fun _ hkey => absurd hkey List.not_mem_nil, fun _ _ => rfl⟩
  | @cons p key ps keys hp _ ih =>
    obtain ⟨d, hd, rfl⟩ := hp
    obtain ⟨hfirst, hdistinct⟩ := List.nodup_cons.1 hnodup
    obtain ⟨m₁, hrun, hremoved⟩ := ensureAbsent_removal hq d.key
    have hrun : (ensure d .absent).run.run Memory.answer m = (.ok (m.removal d.key), m₁) := hrun
    obtain ⟨pairs, calls, m₂, hpairs, hsynced, hrest⟩ := ih hdistinct hremoved.quiet
    -- the report is about the store before any removal
    have hsame : keys.map m₁.removal = keys.map m.removal := by
      refine List.map_congr_left fun key hkey => ?_
      have hne : key ∉ [d.key] := by
        rw [List.mem_singleton]
        rintro rfl
        exact hfirst hkey
      rw [removal, SortedMap.contains, hremoved.frame key hne, ← SortedMap.contains, ← removal]
    rw [hsame] at hsynced
    refine ⟨(d, .absent) :: pairs, _, m₂, mapM_cons_of_ok ?_ hpairs, .cons hrun hsynced,
      hremoved.cons hrest⟩
    rw [hd, effectiveState_withState_absent]
    rfl

/-- If all productions of a subsystem can be built, it is torn down. -/
theorem reconcile_removed {s : Subsystem}
    (h : List.Forall₂ (Production.BuildsAt c) s.productions keys)
    (hnodup : keys.Nodup) (hq : m.Quiet) :
    ∃ m', ((Component.ofSubsystem (s.withState .absent)).reconcile c).run.run Memory.answer m =
      (.ok (m.removals keys), m') ∧ Removed keys m m' := by
  obtain ⟨pairs, calls, m', hpairs, hsynced, hremoved⟩ := removed_inTurn s h hnodup hq
  have hcourse := Course.intro (s := s.withState .absent) (List.append_nil _).symm hpairs hsynced
    (.finished _) rfl
  rw [counting_removals] at hcourse
  exact ⟨m', hcourse.run.1, hremoved⟩

/-- If all but the last one can be built, these are removed. -/
theorem reconcile_stopped {s : Subsystem} {last : Production} {e : BuildError}
    (hsplit : s.productions = ps ++ [last]) (h : List.Forall₂ (Production.BuildsAt c) ps keys)
    (hlast : last.build c = .error e) (hnodup : keys.Nodup) (hq : m.Quiet) :
    ∃ m', ((Component.ofSubsystem (s.withState .absent)).reconcile c).run.run Memory.answer m =
      (.error (.build last.resource e), m') ∧ Removed keys m m' := by
  obtain ⟨pairs, calls, m', hpairs, hsynced, hremoved⟩ := removed_inTurn s h hnodup hq
  have hcourse := Course.intro (s := s.withState .absent) hsplit hpairs hsynced
    (.unbuilt m' hlast) rfl
  exact ⟨m', hcourse.run.1, hremoved⟩

end Productions

namespace Catalogue

/-- All resources but the job of the heartbeat can be built. -/
theorem builds_catalogue (c : Configuration) : ∀ s ∈ controlPlane ++ reserved,
    s = Heartbeat.subsystem ∨ ∀ p ∈ s.productions, ∃ d, p.build c = .ok d := by
  simp only [controlPlane, reserved, List.cons_append, List.nil_append, List.forall_mem_cons]
  refine ⟨.inr ?_, .inr ?_, .inl trivial, .inr ?_, .inr ?_, .inr ?_, .inr ?_, .inr ?_, .inr ?_,
    .inr ?_, .inr ?_, List.forall_mem_nil _⟩
  all_goals
    simp only [List.forall_mem_cons, Controller.subsystem, Destination.subsystem,
      Identity.subsystem, Prometheus.subsystem, ProxyInjector.subsystem, Web.subsystem,
      Tap.subsystem, SecurityPolicy.subsystem, ServiceProfile.subsystem, TrafficSplit.subsystem,
      Production.always, Production.present, Except.map, Except.ok.injEq, exists_eq',
      List.not_mem_nil, false_implies, implies_true, and_self]

theorem buildsAt_addresses {c : Configuration} {ps : List Production}
    {resources : List (Kind × String)} (h : List.Forall₂ Production.Identified ps resources)
    (hbuilds : ∀ p ∈ ps, ∃ d, p.build c = .ok d) :
    List.Forall₂ (Production.BuildsAt c) ps (resources.map (address c.ns)) := by
  refine List.forall₂_map_right_iff.2 ?_
  induction h with
  | nil => exact .nil
  | @cons p resource ps rest hp _ ih =>
    obtain ⟨⟨d, hd⟩, hothers⟩ := List.forall_mem_cons.1 hbuilds
    exact .cons ⟨d, hd, hp.key c d hd⟩ (ih hothers)

theorem nodup_rows : ∀ resources ∈ table ++ reservedTable,
    (resources.map fun r => (r.1.type, r.2)).Nodup := by decide +kernel

/-! The heartbeat: its job comes last, after an account with its role. -/

def heartbeatAccess : List (Kind × String) := [
  (.serviceAccount, "linkerd-heartbeat"),
  (.role, "linkerd-heartbeat"),
  (.roleBinding, "linkerd-heartbeat")]

theorem identified_access : List.Forall₂ Production.Identified
    (Heartbeat.subsystem.productions.take 3) heartbeatAccess := by
  repeat' apply List.Forall₂.cons
  all_goals first
    | exact .nil
    | exact identified_unpinned (fun _ => rfl) fun _ => rfl
    | exact identified_always (fun _ => rfl) fun _ _ => rfl

theorem identifies_heartbeat :
    Identifies Heartbeat.subsystem (heartbeatAccess ++ [Part.heartbeat.resource]) :=
  List.rel_append identified_access (.cons identified_heartbeat .nil)

theorem buildsAt_access (c : Configuration) :
    List.Forall₂ (Production.BuildsAt c) (Heartbeat.subsystem.productions.take 3)
      (heartbeatAccess.map (address c.ns)) := by
  refine buildsAt_addresses identified_access ?_
  simp only [Heartbeat.subsystem, List.take, List.forall_mem_cons, Production.always,
    Production.present, Except.map, Except.ok.injEq, exists_eq', List.not_mem_nil, false_implies,
    implies_true, and_self]

theorem buildsAt_heartbeat {c : Configuration}
    (h : Heartbeat.isSchedule c.heartbeat.schedule = true) :
    List.Forall₂ (Production.BuildsAt c) Heartbeat.subsystem.productions
      ((heartbeatAccess ++ [Part.heartbeat.resource]).map (address c.ns)) := by
  obtain ⟨d, hd⟩ := (Part.buildable_iff .heartbeat c).2 fun _ => h
  rw [List.map_append]
  exact List.rel_append (buildsAt_access c) (.cons ⟨d, hd, identified_heartbeat.key c d hd⟩ .nil)

theorem nodup_heartbeat (ns : String) :
    ((heartbeatAccess ++ [Part.heartbeat.resource]).map (address ns)).Nodup :=
  nodup_addresses ns (by decide +kernel)

theorem heartbeat_unscheduled {c : Configuration}
    (h : Heartbeat.isSchedule c.heartbeat.schedule = false) :
    Part.heartbeat.workload.build c = .error (.schedule c.heartbeat.schedule) := by
  have hjob : Heartbeat.cronJob c = .error (.schedule c.heartbeat.schedule) :=
    if_neg (Bool.eq_false_iff.1 h)
  show (Heartbeat.cronJob c).map (·.managed) = _
  rw [hjob]
  rfl

/-- Without a schedule, all of the heartbeat but its job is removed. -/
theorem heartbeat_stopped {c : Configuration} {m : Memory} (hq : m.Quiet)
    (h : Heartbeat.isSchedule c.heartbeat.schedule = false) :
    ∃ m', ((Component.ofSubsystem (Heartbeat.subsystem.withState .absent)).reconcile c).run.run
        Memory.answer m = (.error (.build "cron-job" (.schedule c.heartbeat.schedule)), m') ∧
      Removed (heartbeatAccess.map (address c.ns)) m m' := by
  have hnodup := nodup_heartbeat c.ns
  rw [List.map_append, List.nodup_append] at hnodup
  exact reconcile_stopped (s := Heartbeat.subsystem) rfl (buildsAt_access c)
    (heartbeat_unscheduled h) hnodup.1 hq

end Catalogue

/-- A subsystem of the catalogue has resources whose keys depend on the namespace alone, such that
on any quiet store, if it is to be absent as a whole:

* its component succeeds, unless it is the heartbeat and its schedule is none. Afterwards nothing
  has one of the keys, everything else is as it was, and the report counts what was there as deleted
  and the rest as absent;
* else it ends with the error of the job, once it has removed everything but the job. -/
theorem torn_down {s : Subsystem} (hs : s ∈ Catalogue.controlPlane ++ Catalogue.reserved) :
    ∃ resources, Catalogue.Identifies s resources ∧
      ∀ (c : Configuration) {m : Memory}, m.Quiet →
        let keys := resources.map (Catalogue.address c.ns)
        let run := ((Component.ofSubsystem (s.withState .absent)).reconcile c).run
        let scheduled := Catalogue.Heartbeat.isSchedule c.heartbeat.schedule
        keys.Nodup ∧
        ((s = Catalogue.Heartbeat.subsystem → scheduled = true) →
          ∃ m', run.run Memory.answer m = (.ok (m.removals keys), m') ∧ Removed keys m m') ∧
        (s = Catalogue.Heartbeat.subsystem → scheduled = false →
          ∃ m', run.run Memory.answer m =
              (.error (.build "cron-job" (.schedule c.heartbeat.schedule)), m') ∧
            Removed keys.dropLast m m') := by
  by_cases hheart : s = Catalogue.Heartbeat.subsystem
  · subst hheart
    refine ⟨_, Catalogue.identifies_heartbeat, fun c m hq =>
      ⟨Catalogue.nodup_heartbeat c.ns, fun hscheduled => ?_, fun _ hscheduled => ?_⟩⟩
    · exact reconcile_removed (Catalogue.buildsAt_heartbeat (hscheduled rfl))
        (Catalogue.nodup_heartbeat c.ns) hq
    · rw [List.map_append, List.map_singleton, List.dropLast_concat]
      exact Catalogue.heartbeat_stopped hq hscheduled
  · obtain ⟨resources, hrow, hidentified⟩ := exists_of_forall₂
      (List.rel_append Catalogue.identifies_controlPlane Catalogue.identifies_reserved) hs
    refine ⟨resources, hidentified, fun c m hq => ?_⟩
    have hnodup : (resources.map (Catalogue.address c.ns)).Nodup :=
      Catalogue.nodup_addresses c.ns (Catalogue.nodup_rows resources hrow)
    have hbuilds := (Catalogue.builds_catalogue c s hs).resolve_left hheart
    exact ⟨hnodup, fun _ => reconcile_removed
      (Catalogue.buildsAt_addresses hidentified hbuilds) hnodup hq, fun h => absurd h hheart⟩

/-- A store with one object. -/
def Memory.holding (d : Managed) : Memory := ((empty .epoch).insert d.object).2

theorem Memory.contains_holding (d : Managed) : (holding d).objects.contains d.key = true := by
  rw [holding, insert, withKey, d.keyed, SortedMap.contains]
  exact congrArg Option.isSome (SortedMap.get?_insert_self _ _)

theorem Memory.quiet_holding (d : Managed) : (holding d).Quiet := by
  rw [holding, insert, withKey, d.keyed]
  exact ⟨rfl, fun _ => rfl⟩

/-- With a schedule the heartbeat is torn down, its job included. Without one the run fails. -/
theorem torn_down_heartbeat :
    let run := (Component.ofSubsystem (Catalogue.Heartbeat.subsystem.withState .absent)).reconcile
    ∃ plain daily job report m' m'', Configuration.resolve (.plain none) = .ok plain ∧
      Configuration.resolve .daily = .ok daily ∧ Part.heartbeat.workload.build plain = .ok job ∧
      (run plain).run.run Memory.answer (.holding job) = (.ok report, m') ∧
      0 < report.deleted ∧ report.total = 4 ∧ m'.objects.get? job.key = none ∧
      (run daily).run.run Memory.answer (.holding job) =
        (.error (.build "cron-job" (.schedule "daily")), m'') := by
  intro run
  obtain ⟨plain, daily, job, hplain, hdaily, hjob, hscheduled, hunscheduled⟩ :
      ∃ plain daily job, Configuration.resolve (.plain none) = .ok plain ∧
        Configuration.resolve .daily = .ok daily ∧ Part.heartbeat.workload.build plain = .ok job ∧
        Catalogue.Heartbeat.isSchedule plain.heartbeat.schedule = true ∧
        daily.heartbeat.schedule = "daily" := ⟨_, _, _, rfl, rfl, rfl, by decide +kernel, rfl⟩
  obtain ⟨resources, hidentified, htorn⟩ := torn_down (s := Catalogue.Heartbeat.subsystem)
    (List.mem_append_left _ Part.heartbeat.mem_controlPlane)
  obtain ⟨-, hdown, -⟩ := htorn plain (quiet_holding job)
  obtain ⟨m', hrun, hremoved⟩ := hdown fun _ => hscheduled
  obtain ⟨-, -, hstopped⟩ := htorn daily (quiet_holding job)
  obtain ⟨m'', hfailed, -⟩ := hstopped rfl (by rw [hunscheduled]; decide +kernel)
  obtain ⟨resource, hresource, hkey⟩ := exists_of_forall₂ hidentified Part.heartbeat.mem_productions
  have hmem : job.key ∈ resources.map (Catalogue.address plain.ns) :=
    List.mem_map.2 ⟨resource, hresource, (hkey.key plain job hjob).symm⟩
  refine ⟨plain, daily, job, _, m', m'', hplain, hdaily, hjob, hrun, ?_, ?_,
    hremoved.gone _ hmem, hunscheduled ▸ hfailed⟩
  · exact List.countP_pos_iff.2 ⟨job.key, hmem, contains_holding job⟩
  · rw [← counting_removals, ComponentReport.total_counting, List.length_map, List.length_map]
    exact hidentified.length_eq.symm

/-- The job of a heartbeat stays if its schedule is none by the time it is torn down. -/
theorem heartbeat_left :
    let run := (Component.ofSubsystem (Catalogue.Heartbeat.subsystem.withState .absent)).reconcile
    ∃ plain daily job m', Configuration.resolve (.plain none) = .ok plain ∧
      Configuration.resolve .daily = .ok daily ∧ Part.heartbeat.workload.build plain = .ok job ∧
      Catalogue.Heartbeat.subsystem ∈ Catalogue.controlPlane ∧ (Memory.holding job).Quiet ∧
      (run daily).run.run Memory.answer (.holding job) =
        (.error (.build "cron-job" (.schedule "daily")), m') ∧
      m'.objects.contains job.key = true := by
  intro run
  obtain ⟨plain, daily, job, hplain, hdaily, hjob, hschedule, hns⟩ :
      ∃ plain daily job, Configuration.resolve (.plain none) = .ok plain ∧
        Configuration.resolve .daily = .ok daily ∧ Part.heartbeat.workload.build plain = .ok job ∧
        daily.heartbeat.schedule = "daily" ∧ daily.ns = plain.ns :=
    ⟨_, _, _, rfl, rfl, rfl, rfl, rfl⟩
  obtain ⟨m', hrun, hremoved⟩ := Catalogue.heartbeat_stopped (c := daily) (quiet_holding job)
    (by rw [hschedule]; decide +kernel)
  refine ⟨plain, daily, job, m', hplain, hdaily, hjob, Part.heartbeat.mem_controlPlane,
    quiet_holding job, hschedule ▸ hrun, ?_⟩
  -- the key of the job is none of those that were removed
  have hkey : job.key = Catalogue.address plain.ns Part.heartbeat.resource :=
    Catalogue.identified_heartbeat.key plain job hjob
  have hnodup := Catalogue.nodup_heartbeat plain.ns
  rw [List.map_append, List.nodup_append, List.map_singleton, ← hkey] at hnodup
  have hkept : job.key ∉ Catalogue.heartbeatAccess.map (Catalogue.address daily.ns) := fun hmem =>
    hnodup.2.2 _ (hns ▸ hmem) _ (List.mem_singleton_self _) rfl
  rw [SortedMap.contains, hremoved.frame _ hkept]
  exact contains_holding job

end MeshOperator
