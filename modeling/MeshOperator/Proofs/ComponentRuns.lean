import MeshOperator.Proofs.Convergence
import MeshOperator.Proofs.ResourceNames

/-!
The run of a subsystem.

A component builds the resource of one production and syncs it before it builds the next, where
rendering builds all of them before it hands out any. Whatever answers the calls, a run of the
component is this: the first productions can be built and are synced one after another, and then
there are either no more of them, or the next one cannot be built, or its sync fails. `SyncedInTurn`
is the first part, `Ending` the second, and `Course` both together.
-/

namespace MeshOperator

set_option autoImplicit false

/-! ## Reports -/

namespace ComponentReport

/-- The report of syncs that ended like this. -/
def counting (outcomes : List SyncOutcome) : ComponentReport where
  created := outcomes.count .created
  updated := outcomes.count .updated
  unchanged := outcomes.count .unchanged
  deleted := outcomes.count .deleted
  absent := outcomes.count .absent

theorem record_counting (outcomes : List SyncOutcome) (last : SyncOutcome) :
    (counting outcomes).record last = counting (outcomes ++ [last]) := by
  cases last <;> simp [counting, record]

theorem total_counting (outcomes : List SyncOutcome) :
    (counting outcomes).total = outcomes.length := by
  induction outcomes with
  | nil => rfl
  | cons outcome rest ih =>
    have hcons : (counting (outcome :: rest)).total = (counting rest).total + 1 := by
      cases outcome <;> simp [counting, total] <;> omega
    rw [hcons, ih, List.length_cons]

end ComponentReport

/-! ## Syncs in turn -/

/-- Sync resources one after another, up to the first error. -/
def ensureInTurn (pairs : List (Managed × Existence)) : Attempt SyncError (List SyncOutcome) :=
  pairs.mapM fun e => ensure e.1 e.2

/-- What some productions make, each with the state that it is to have. -/
def Subsystem.pairs (s : Subsystem) (c : Configuration) (ps : List Production) :
    Except BuildError (List (Managed × Existence)) :=
  ps.mapM fun p => (p.build c).map fun resource => (resource, s.effectiveState p)

section Runs

variable {σ : Type} (answer : (c : Call) → σ → c.Answer × σ)

/-- The resources have been synced one after another, with these outcomes; these are the calls that
it took. -/
inductive SyncedInTurn :
    List (Managed × Existence) → σ → List SyncOutcome → List Call → σ → Prop where
  | nil (st : σ) : SyncedInTurn [] st [] [] st
  | cons {resource : Managed} {state : Existence} {rest : List (Managed × Existence)}
      {outcome : SyncOutcome} {outcomes : List SyncOutcome} {calls : List Call} {st st₁ st₂ : σ}
      (h : (ensure resource state).run.run answer st = (.ok outcome, st₁))
      (hrest : SyncedInTurn rest st₁ outcomes calls st₂) :
      SyncedInTurn ((resource, state) :: rest) st (outcome :: outcomes)
        ((ensure resource state).run.questions answer st ++ calls) st₂

variable (s : Subsystem) (c : Configuration)

/-- How a run with this report so far goes on over these productions: it ends because there are
none, or with the first of them. -/
inductive Ending (report : ComponentReport) :
    List Production → σ → Except ComponentError ComponentReport → List Call → σ → Prop where
  | finished (st : σ) : Ending report [] st (.ok report) [] st
  | unbuilt {p : Production} {later : List Production} {e : BuildError} (st : σ)
      (hbuild : p.build c = .error e) :
      Ending report (p :: later) st (.error (.build p.resource e)) [] st
  | unsynced {p : Production} {later : List Production} {resource : Managed} {e : SyncError}
      {st st' : σ} (hbuild : p.build c = .ok resource)
      (hsync : (ensure resource (s.effectiveState p)).run.run answer st = (.error e, st')) :
      Ending report (p :: later) st (.error (.sync e))
        ((ensure resource (s.effectiveState p)).run.questions answer st) st'

/-- The first productions are built and synced in turn, and there the run ends. -/
inductive Course (st : σ) (result : Except ComponentError ComponentReport) (calls : List Call)
    (st' : σ) : Prop where
  | intro {before rest : List Production} {pairs : List (Managed × Existence)}
      {outcomes : List SyncOutcome} {made last : List Call} {mid : σ}
      (hsplit : s.productions = before ++ rest) (hbuilt : s.pairs c before = .ok pairs)
      (hsynced : SyncedInTurn answer pairs st outcomes made mid)
      (hends : Ending answer s c (.counting outcomes) rest mid result last st')
      (hcalls : calls = made ++ last)

end Runs

section Steps

variable {σ : Type} {answer : (c : Call) → σ → c.Answer × σ} {s : Subsystem} {c : Configuration}
  {p : Production} {resource : Managed}

theorem pairs_cons_inv {ps : List Production} {pairs : List (Managed × Existence)}
    (h : s.pairs c (p :: ps) = .ok pairs) :
    ∃ resource others, p.build c = .ok resource ∧ s.pairs c ps = .ok others ∧
      pairs = (resource, s.effectiveState p) :: others := by
  obtain ⟨e, others, hp, hps, hcons⟩ := mapM_cons_ok h
  obtain ⟨resource, hbuild, he⟩ := map_ok_inv hp
  exact ⟨resource, others, hbuild, hps, by rw [hcons, he]⟩

/-- A production that is synced is counted, and the run goes on after it. -/
theorem run_synced {outcome : SyncOutcome} {st st' : σ} (hbuild : p.build c = .ok resource)
    (hsync : (ensure resource (s.effectiveState p)).run.run answer st = (.ok outcome, st'))
    (rest : List Production) (first : List SyncOutcome) :
    let run := (s.reconcileProductions c (p :: rest) (.counting first)).run
    let next := (s.reconcileProductions c rest (.counting (first ++ [outcome]))).run
    run.run answer st = next.run answer st' ∧
      run.questions answer st = (ensure resource (s.effectiveState p)).run.questions answer st ++
        next.questions answer st' := by
  intro run next
  have hone : (s.reconcileOne c p).run.run answer st = (.ok outcome, st') :=
    run_built hbuild hsync
  have hasked : (s.reconcileOne c p).run.questions answer st =
      (ensure resource (s.effectiveState p)).run.questions answer st := by
    rw [reconcileOne_built hbuild]
    exact Attempt.questions_adapt ComponentError.sync
  have hnext : next = (s.reconcileProductions c rest
      ((ComponentReport.counting first).record outcome)).run := by
    rw [ComponentReport.record_counting]
  rw [hnext, ← hasked]
  exact ⟨Attempt.run_bind_ok hone, Attempt.questions_bind_ok hone⟩

/-- Once the first productions have been synced, the run goes on as if it began there. -/
theorem SyncedInTurn.run_append {before : List Production} {pairs : List (Managed × Existence)}
    {st st' : σ} {outcomes : List SyncOutcome} {calls : List Call}
    (h : SyncedInTurn answer pairs st outcomes calls st') (hbuilt : s.pairs c before = .ok pairs)
    (rest : List Production) (first : List SyncOutcome) :
    let run := (s.reconcileProductions c (before ++ rest) (.counting first)).run
    let next := (s.reconcileProductions c rest (.counting (first ++ outcomes))).run
    run.run answer st = next.run answer st' ∧
      run.questions answer st = calls ++ next.questions answer st' := by
  -- over the syncs: each takes the production at the head into the report
  induction h generalizing before first with
  | nil st =>
    cases before with
    | nil =>
      rw [List.append_nil]
      exact ⟨rfl, rfl⟩
    | cons p before =>
      obtain ⟨_, _, -, -, hcons⟩ := pairs_cons_inv hbuilt
      cases hcons
  | @cons _ _ _ outcome outcomes _ _ _ _ hsync _ ih =>
    cases before with
    | nil => cases hbuilt
    | cons p before =>
      obtain ⟨resource, others, hbuild, hbefore, hcons⟩ := pairs_cons_inv hbuilt
      cases hcons
      obtain ⟨hrun, hquestions⟩ := run_synced hbuild hsync (before ++ rest) first
      obtain ⟨hrest, hasked⟩ := ih hbefore (first ++ [outcome])
      rw [List.append_assoc, List.singleton_append] at hrest hasked
      refine ⟨hrun.trans hrest, hquestions.trans ?_⟩
      rw [hasked, List.append_assoc]

theorem Ending.run {report : ComponentReport} {rest : List Production} {st st' : σ}
    {result : Except ComponentError ComponentReport} {calls : List Call}
    (h : Ending answer s c report rest st result calls st') :
    (s.reconcileProductions c rest report).run.run answer st = (result, st') ∧
      (s.reconcileProductions c rest report).run.questions answer st = calls := by
  cases h with
  | finished => exact ⟨rfl, rfl⟩
  | @unbuilt p later e _ hbuild =>
    have hone : (s.reconcileOne c p).run.run answer st = (.error (.build p.resource e), st) :=
      run_unbuilt hbuild
    refine ⟨Attempt.run_bind_error hone, (Attempt.questions_bind_error hone).trans ?_⟩
    rw [reconcileOne_unbuilt hbuild]
    rfl
  | @unsynced p later resource e _ _ hbuild hsync =>
    have hone : (s.reconcileOne c p).run.run answer st = (.error (.sync e), st') :=
      run_built hbuild hsync
    refine ⟨Attempt.run_bind_error hone, (Attempt.questions_bind_error hone).trans ?_⟩
    rw [reconcileOne_built hbuild]
    exact Attempt.questions_adapt ComponentError.sync

theorem Course.run {st st' : σ} {result : Except ComponentError ComponentReport}
    {calls : List Call} (h : Course answer s c st result calls st') :
    ((Component.ofSubsystem s).reconcile c).run.run answer st = (result, st') ∧
      ((Component.ofSubsystem s).reconcile c).run.questions answer st = calls := by
  obtain ⟨hsplit, hbuilt, hsynced, hends, rfl⟩ := h
  obtain ⟨hrun, hquestions⟩ := hsynced.run_append hbuilt _ []
  obtain ⟨hlast, hasked⟩ := hends.run
  rw [← hsplit] at hrun hquestions
  exact ⟨hrun.trans hlast, hquestions.trans (congrArg (_ ++ ·) hasked)⟩

/-- Productions can be synced in turn up to where the run ends. How it ends does not depend on the
report so far, which is known at the head of the run only. -/
theorem exists_syncedInTurn (answer : (c : Call) → σ → c.Answer × σ) (s : Subsystem)
    (c : Configuration) (ps : List Production) (st : σ) :
    ∃ before rest pairs outcomes made mid, ps = before ++ rest ∧ s.pairs c before = .ok pairs ∧
      SyncedInTurn answer pairs st outcomes made mid ∧
      ∀ report, ∃ result last st', Ending answer s c report rest mid result last st' := by
  induction ps generalizing st with
  | nil => exact ⟨[], [], [], [], [], st, rfl, rfl, .nil st, fun _ => ⟨_, _, _, .finished st⟩⟩
  | cons p later ih =>
    cases hbuild : p.build c with
    | error e =>
      exact ⟨[], p :: later, [], [], [], st, rfl, rfl, .nil st,
        fun _ => ⟨_, _, _, .unbuilt st hbuild⟩⟩
    | ok resource =>
      cases hsync : (ensure resource (s.effectiveState p)).run.run answer st with
      | mk r st₁ =>
        cases r with
        | error e =>
          exact ⟨[], p :: later, [], [], [], st, rfl, rfl, .nil st,
            fun _ => ⟨_, _, _, .unsynced hbuild hsync⟩⟩
        | ok outcome =>
          obtain ⟨before, rest, pairs, outcomes, made, mid, rfl, hbuilt, hsynced, hends⟩ := ih st₁
          refine ⟨p :: before, rest, (resource, s.effectiveState p) :: pairs, outcome :: outcomes,
            _, mid, rfl, mapM_cons_of_ok ?_ hbuilt, .cons hsync hsynced, hends⟩
          rw [hbuild]
          rfl

theorem exists_course (answer : (c : Call) → σ → c.Answer × σ) (s : Subsystem)
    (c : Configuration) (st : σ) :
    ∃ result calls st', Course answer s c st result calls st' := by
  obtain ⟨before, rest, pairs, outcomes, made, mid, hsplit, hbuilt, hsynced, hends⟩ :=
    exists_syncedInTurn answer s c s.productions st
  obtain ⟨result, last, st', hends⟩ := hends (.counting outcomes)
  exact ⟨result, made ++ last, st', .intro hsplit hbuilt hsynced hends rfl⟩

theorem SyncedInTurn.length {pairs : List (Managed × Existence)} {st st' : σ}
    {outcomes : List SyncOutcome} {calls : List Call}
    (h : SyncedInTurn answer pairs st outcomes calls st') : outcomes.length = pairs.length := by
  induction h with
  | nil st => rfl
  | cons _ _ ih => rw [List.length_cons, List.length_cons, ih]

theorem ensureInTurn_cons (state : Existence) (rest : List (Managed × Existence)) :
    ensureInTurn ((resource, state) :: rest) = (do
      let outcome ← ensure resource state
      let outcomes ← ensureInTurn rest
      return outcome :: outcomes) := List.mapM_cons

/-- Productions that can all be built are run by syncing what they make. -/
theorem reconcileProductions_built {ps : List Production} {pairs : List (Managed × Existence)}
    (h : s.pairs c ps = .ok pairs) (first : List SyncOutcome) :
    s.reconcileProductions c ps (.counting first) =
      ((ExceptT.adapt ComponentError.sync (ensureInTurn pairs) : Attempt ComponentError _) >>=
        fun outcomes => return .counting (first ++ outcomes)) := by
  induction ps generalizing pairs first with
  | nil =>
    cases h
    exact congrArg (fun outcomes => (pure (ComponentReport.counting outcomes) :
      Attempt ComponentError ComponentReport)) (List.append_nil first).symm
  | cons p rest ih =>
    obtain ⟨resource, others, hbuild, hrest, rfl⟩ := pairs_cons_inv h
    rw [ensureInTurn_cons, Attempt.adapt_bind, bind_assoc, Subsystem.reconcileProductions,
      reconcileOne_built hbuild]
    refine bind_congr fun outcome => ?_
    rw [ComponentReport.record_counting, ih hrest, Attempt.adapt_bind, bind_assoc]
    refine bind_congr fun outcomes => ?_
    rw [List.append_assoc]
    rfl

theorem pairs_states {ps : List Production} {pairs : List (Managed × Existence)}
    (h : s.pairs c ps = .ok pairs) : pairs.map (·.2) = ps.map s.effectiveState := by
  induction ps generalizing pairs with
  | nil =>
    cases h
    rfl
  | cons p rest ih =>
    obtain ⟨resource, others, -, hrest, rfl⟩ := pairs_cons_inv h
    rw [List.map_cons, List.map_cons, ih hrest]

theorem Course.of_run {st st' : σ} {result : Except ComponentError ComponentReport}
    (h : ((Component.ofSubsystem s).reconcile c).run.run answer st = (result, st')) :
    Course answer s c st result
      (((Component.ofSubsystem s).reconcile c).run.questions answer st) st' := by
  obtain ⟨result', calls, st'', hcourse⟩ := exists_course answer s c st
  obtain ⟨hrun, hquestions⟩ := hcourse.run
  cases h.symm.trans hrun
  rw [hquestions]
  exact hcourse

theorem Course.of_ok {st st' : σ} {report : ComponentReport} {calls : List Call}
    (h : Course answer s c st (.ok report) calls st') :
    ∃ pairs outcomes, s.render c = .ok pairs ∧ SyncedInTurn answer pairs st outcomes calls st' ∧
      report = .counting outcomes ∧ report.total = s.productions.length := by
  obtain @⟨before, _, pairs, outcomes, made, _, _, hsplit, hbuilt, hsynced, hends, rfl⟩ := h
  cases hends
  rw [List.append_nil] at hsplit
  subst hsplit
  refine ⟨pairs, outcomes, hbuilt, by rwa [List.append_nil], rfl, ?_⟩
  have hlength := congrArg List.length (pairs_states hbuilt)
  rw [List.length_map, List.length_map] at hlength
  rw [ComponentReport.total_counting, hsynced.length, hlength]

end Steps

theorem Existence.combine_eq_absent (a b : Existence) :
    a.combine b = .absent ↔ a = .absent ∨ b = .absent := by
  cases a <;> cases b <;> decide

/-- The component of a subsystem, for every configuration and whatever answers the calls:

* a resource is to be absent exactly if its production says so or the subsystem does;
* the run syncs what the first productions make in turn, and ends with the report if these are all
  of them, and otherwise with the error of the next one, which cannot be built or synced; the
  productions after that one are free to be anything;
* a report counts the outcomes, one for each production;
* if the subsystem can be rendered, to run it is to sync what is rendered, in that order. -/
theorem component_syncs_in_turn (s : Subsystem) (c : Configuration) :
    let run := (Component.ofSubsystem s).reconcile c
    (∀ p, s.effectiveState p = .absent ↔ p.state = .absent ∨ s.state = .absent) ∧
    (∀ {σ : Type} (answer : (c : Call) → σ → c.Answer × σ) (st st' : σ)
      (result : Except ComponentError ComponentReport) (calls : List Call),
      run.run.run answer st = (result, st') ∧ run.run.questions answer st = calls ↔
        Course answer s c st result calls st') ∧
    (∀ {σ : Type} (answer : (c : Call) → σ → c.Answer × σ) (st st' : σ) (report : ComponentReport),
      run.run.run answer st = (.ok report, st') →
        ∃ pairs outcomes, s.render c = .ok pairs ∧
          SyncedInTurn answer pairs st outcomes (run.run.questions answer st) st' ∧
          report = .counting outcomes ∧ report.total = s.productions.length) ∧
    ∀ pairs, s.render c = .ok pairs →
      pairs.map (·.2) = s.productions.map s.effectiveState ∧
      run = (do
        let outcomes ← (ExceptT.adapt ComponentError.sync (ensureInTurn pairs) :
          Attempt ComponentError (List SyncOutcome))
        return .counting outcomes) := by
  intro run
  refine ⟨fun p => Existence.combine_eq_absent _ _, ?_, ?_, ?_⟩
  · intro σ answer st st' result calls
    constructor
    · rintro ⟨hrun, rfl⟩
      exact .of_run hrun
    · exact Course.run
  · intro σ answer st st' report hrun
    exact (Course.of_run hrun).of_ok
  · intro pairs hrender
    exact ⟨pairs_states hrender, reconcileProductions_built hrender []⟩

/-- An account, a job that cannot be built, and a role. -/
def Subsystem.stuckAccess : Subsystem where
  name := "web"
  productions := [
    .always "service-account" fun _ => .webAccount (.ofList [(Catalogue.componentLabel, "web")]),
    ⟨"cron-job", fun _ => .error (.schedule "daily"), .present⟩,
    ⟨"cluster-role", fun _ => .ok Manifest.webRole.managed, .absent⟩]

/-- On an empty store the account is created and the role found absent. Where the job stands between
them, the role is not asked about. -/
theorem component_syncs_in_turn_webAccess :
    let account := (Manifest.webAccount (.ofList [(Catalogue.componentLabel, "web")])).managed
    let role := Manifest.webRole.managed
    let m := Memory.empty .epoch
    ∃ c m', Configuration.resolve (.plain none) = .ok c ∧
      (Component.ofSubsystem .webAccess).reconcile c = (do
        let outcomes ← (ExceptT.adapt ComponentError.sync
          (ensureInTurn [(account, .present), (role, .absent)]) : Attempt ComponentError _)
        return .counting outcomes) ∧
      ((Component.ofSubsystem .webAccess).reconcile c).run.run Memory.answer m =
        (.ok ⟨1, 0, 0, 0, 1⟩, m') ∧
      ComponentReport.total ⟨1, 0, 0, 0, 1⟩ = Subsystem.webAccess.productions.length ∧
      ((Component.ofSubsystem .stuckAccess).reconcile c).run.run Memory.answer m =
        (.error (.build "cron-job" (.schedule "daily")), m') ∧
      ((Component.ofSubsystem .stuckAccess).reconcile c).run.questions Memory.answer m =
        (ensure account .present).run.questions Memory.answer m := by
  intro account role m
  obtain ⟨c, hc⟩ : ∃ c, Configuration.resolve (.plain none) = .ok c := ⟨_, rfl⟩
  have hq : m.Quiet := ⟨rfl, fun _ => rfl⟩
  have hcreate : (ensure account .present).run.run Memory.answer m = (.ok .created, _) :=
    ensurePresent_missing hq account rfl
  have habsent : (ensure role .absent).run.run Memory.answer _ = (.ok .absent, _) :=
    ensureAbsent_missing (hq.of_run hcreate) (SortedMap.get?_insert_ne _ _ (by decide))
  obtain ⟨-, hcourses, hreports, hrendered⟩ := component_syncs_in_turn .webAccess c
  have hboth : SyncedInTurn Memory.answer [(account, .present), (role, .absent)] m
      [.created, .absent] _ _ := .cons hcreate (.cons habsent (.nil _))
  have hcourse := Course.intro (s := .webAccess) (c := c) (List.append_nil _).symm rfl hboth
    (.finished _) rfl
  obtain ⟨hrun, -⟩ := (hcourses Memory.answer m _ _ _).2 hcourse
  obtain ⟨-, -, -, -, -, htotal⟩ := hreports _ _ _ _ hrun
  obtain ⟨-, heq⟩ := hrendered _ rfl
  obtain ⟨-, hstuck, -, -⟩ := component_syncs_in_turn .stuckAccess c
  have hone : SyncedInTurn Memory.answer [(account, .present)] m [.created] _ _ :=
    .cons hcreate (.nil _)
  have hcourse := Course.intro (s := .stuckAccess) (c := c)
    (List.take_append_drop 1 _).symm rfl hone (.unbuilt _ rfl) rfl
  obtain ⟨herror, hcalls⟩ := (hstuck Memory.answer m _ _ _).2 hcourse
  refine ⟨c, _, hc, heq, hrun, htotal, herror, hcalls.trans ?_⟩
  rw [List.append_nil, List.append_nil]

end MeshOperator
