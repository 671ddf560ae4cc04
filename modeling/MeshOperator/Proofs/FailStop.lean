import MeshOperator.Proofs.QuietMemory

/-!
A pass stops at the first component that fails.

Whatever answers the calls: the components before the one that fails have run in order, those after
it are not run, and the pass ends with the error of the one that failed. All that it does after the
failure is one update of the status, whose own result does not matter.

The message that the record then bears is the text of the error. `Shown` is an error as the ones
who handle it see it: a message and what caused it. An alternative that only passes an error on is
shown as that error.
-/

namespace MeshOperator

set_option autoImplicit false

/-! ## Components in order -/

section Components

variable {σ : Type} (answer : (c : Call) → σ → c.Answer × σ) (c : Configuration)

/-- The components have succeeded one after another, each run once; these are the calls that they
have made. -/
inductive Succeeded : List Component → σ → List Call → σ → Prop where
  | nil (s : σ) : Succeeded [] s [] s
  | cons {component : Component} {rest : List Component} {s s' s'' : σ} {calls : List Call}
      {report : ComponentReport}
      (h : (component.reconcile c).run.run answer s = (.ok report, s'))
      (hrest : Succeeded rest s' calls s'') :
      Succeeded (component :: rest) s
        ((component.reconcile c).run.questions answer s ++ calls) s''

variable {answer c}

theorem run_components_error {before after : List Component} {component : Component}
    {s s' s'' : σ} {calls : List Call} {e : ComponentError}
    (hbefore : Succeeded answer c before s calls s')
    (hfail : (component.reconcile c).run.run answer s' = (.error e, s'')) :
    (reconcileComponents c (before ++ component :: after)).run.run answer s =
        (.error (.component component.name e), s'') ∧
      (reconcileComponents c (before ++ component :: after)).run.questions answer s =
        calls ++ (component.reconcile c).run.questions answer s' := by
  induction hbefore with
  | nil s =>
    have hrun := Attempt.run_adapt (ReconcileError.component component.name) hfail
    refine ⟨Attempt.run_bind_error hrun, ?_⟩
    rw [List.nil_append, ← Attempt.questions_adapt (ReconcileError.component component.name)]
    exact Attempt.questions_bind_error hrun
  | @cons first rest s s₁ s₂ calls report h _ ih =>
    obtain ⟨hrun, hquestions⟩ := ih hfail
    have hfirst := Attempt.run_adapt (ReconcileError.component first.name) h
    refine ⟨(Attempt.run_bind_ok hfirst).trans hrun, ?_⟩
    have hall : (reconcileComponents c (first :: (rest ++ component :: after))).run.questions
        answer s = (Attempt.run (ExceptT.adapt (ReconcileError.component first.name)
          (first.reconcile c) : Attempt ReconcileError _)).questions answer s ++
            (reconcileComponents c (rest ++ component :: after)).run.questions answer s₁ :=
      Attempt.questions_bind_ok hfirst
    rw [List.cons_append, hall, hquestions, Attempt.questions_adapt, List.append_assoc]

end Components

/-! ## Errors with their causes -/

inductive Shown where
  | root (message : String)
  | wrapped (message : String) (cause : Shown)

namespace Shown

/-- The messages of the error and of each cause below it. -/
def chain : Shown → String
  | .root message => message
  | .wrapped message cause => message ++ ": " ++ cause.chain

def messages : Shown → List String
  | .root message => [message]
  | .wrapped message cause => message :: cause.messages

def innermost : Shown → String
  | .root message => message
  | .wrapped _ cause => cause.innermost

/-- An error with texts of causes that are not known otherwise. -/
def ofTexts (message : String) : List String → Shown
  | [] => .root message
  | cause :: rest => .wrapped message (ofTexts cause rest)

theorem messages_ne_nil (e : Shown) : e.messages ≠ [] := by
  cases e <;> exact List.cons_ne_nil _ _

theorem chain_messages (e : Shown) : MeshOperator.chain e.messages = e.chain := by
  induction e with
  | root message => exact String.intercalate_singleton
  | wrapped message cause ih =>
    rw [chain, ← ih, MeshOperator.chain, MeshOperator.chain, messages,
      String.intercalate_cons_of_ne_nil cause.messages_ne_nil, String.append_assoc]

theorem getLast?_messages (e : Shown) : e.messages.getLast? = some e.innermost := by
  induction e with
  | root message => rfl
  | wrapped message cause ih =>
    rw [messages, List.getLast?_cons, ih]
    rfl

theorem messages_ofTexts (message : String) (causes : List String) :
    (ofTexts message causes).messages = message :: causes := by
  induction causes generalizing message with
  | nil => rfl
  | cons cause rest ih => rw [ofTexts, messages, ih]

end Shown

def StoreError.shown (e : StoreError) : Shown := .ofTexts e.text e.causes

def BuildError.shown : BuildError → Shown
  | .encode cause => .wrapped (encode cause).text cause.shown
  | .schedule text => .root (schedule text).text

def SyncError.shown (e : SyncError) : Shown :=
  .wrapped ("failed to " ++ e.verb ++ " " ++ e.key.display) e.cause.shown

def ComponentError.shown : ComponentError → Shown
  | .build resource cause => .wrapped ("could not build " ++ resource) cause.shown
  | .sync cause => cause.shown

def StatusError.shown : StatusError → Shown
  | .repeatedConflict cause => .wrapped "status write conflicted again after refetch" cause.shown
  | .forbidden source target =>
    .root ("state " ++ source.text ++ " cannot move to " ++ target.text)
  | .store cause => cause.shown

def ReconcileError.shown : ReconcileError → Shown
  | .store key cause => .wrapped ("failed to read record " ++ key.display) cause.shown
  | .component name cause => .wrapped ("failed to reconcile component " ++ name) cause.shown
  | .status phase cause => .wrapped ("failed to set status " ++ phase.text) cause.shown
  | .build cause => .wrapped "record cannot be resolved" (.root cause.text)

theorem StoreError.messages_shown (e : StoreError) : e.shown.messages = e.layers :=
  Shown.messages_ofTexts e.text e.causes

theorem BuildError.messages_shown (e : BuildError) : e.shown.messages = e.layers := by
  cases e with
  | encode cause => exact congrArg (List.cons _) cause.messages_shown
  | schedule text => rfl

theorem ComponentError.messages_shown (e : ComponentError) : e.shown.messages = e.layers := by
  cases e with
  | build resource cause => exact congrArg (List.cons _) cause.messages_shown
  | sync cause => exact congrArg (List.cons _) cause.cause.messages_shown

theorem StatusError.messages_shown (e : StatusError) : e.shown.messages = e.layers := by
  cases e with
  | repeatedConflict cause => exact congrArg (List.cons _) cause.messages_shown
  | forbidden source target => rfl
  | store cause => exact cause.messages_shown

theorem ReconcileError.messages_shown (e : ReconcileError) : e.shown.messages = e.layers := by
  cases e with
  | store key cause => exact congrArg (List.cons _) cause.messages_shown
  | component name cause => exact congrArg (List.cons _) cause.messages_shown
  | status phase cause => exact congrArg (List.cons _) cause.messages_shown
  | build cause => rfl

/-- The text of an error is what one reads going from it to its causes. -/
theorem ReconcileError.text_eq_chain (e : ReconcileError) : e.text = e.shown.chain := by
  rw [text, ← e.messages_shown, Shown.chain_messages]

/-! ## Fail-stop -/

/-- A pass over the record with this key that gets to its components, all of which succeed before
this one, which fails. -/
structure FailedPass {σ : Type} (answer : (c : Call) → σ → c.Answer × σ) (key : ObjectKey)
    (c : Configuration) (record : Record) (before : List Component) (component : Component)
    (e : ComponentError) (calls : List Call) (s₀ s₁ s₂ s₃ : σ) : Prop where
  ready : (prepare key).run.run answer s₀ = (.ok (.ready c record), s₁)
  before : Succeeded answer c before s₁ calls s₂
  failure : (component.reconcile c).run.run answer s₂ = (.error e, s₃)

section FailStop

variable {σ : Type} {answer : (c : Call) → σ → c.Answer × σ} {key : ObjectKey} {c : Configuration}
  {record : Record} {before after : List Component} {component : Component} {e : ComponentError}
  {calls : List Call} {s₀ s₁ s₂ s₃ : σ}

/-- What is left to do once a component has failed. -/
def markFailed (record : Record) (e : ReconcileError) : Procedure (Except StatusError Unit × Record) :=
  updateStatus .reconcileFailed e.text record

theorem install_error (record : Record) (after : List Component)
    (hbefore : Succeeded answer c before s₁ calls s₂)
    (hfail : (component.reconcile c).run.run answer s₂ = (.error e, s₃)) :
    let error := ReconcileError.component component.name e
    (install (before ++ component :: after) c record).run.run answer s₁ =
        (.error error, ((markFailed record error).run answer s₃).2) ∧
      (install (before ++ component :: after) c record).run.questions answer s₁ =
        calls ++ (component.reconcile c).run.questions answer s₂ ++
          (markFailed record error).questions answer s₃ := by
  intro error
  obtain ⟨hrun, hquestions⟩ := run_components_error hbefore hfail
  have hlift : (Attempt.run (ExceptT.lift
      (reconcileComponents c (before ++ component :: after)).run :
        Attempt ReconcileError _)).run answer s₁ = (.ok (.error error), s₃) := by
    rw [Attempt.run_lift, hrun]
  have hmark : (do
      let _ ← updateStatus .reconcileFailed error.text record
      throw error : Attempt ReconcileError PassOutcome).run =
        (markFailed record error >>= fun _ => .done (.error error)) := by
    rw [Attempt.run_lift_bind]
    rfl
  constructor
  · refine (Attempt.run_bind_ok hlift).trans ?_
    exact (congrArg (fun p => Dialogue.run answer p s₃) hmark).trans (Dialogue.run_bind answer _ _ _)
  · refine (Attempt.questions_bind_ok hlift).trans ?_
    rw [Attempt.questions_lift, hquestions]
    refine congrArg (_ ++ ·) ((congrArg (fun p => Dialogue.questions answer p s₃) hmark).trans ?_)
    exact (Dialogue.questions_bind answer _ _ _).trans (List.append_nil _)

theorem FailedPass.run (h : FailedPass answer key c record before component e calls s₀ s₁ s₂ s₃) :
    let error := ReconcileError.component component.name e
    let pass := reconcilePass (before ++ component :: after) key
    pass.run.run answer s₀ = (.error error, ((markFailed record error).run answer s₃).2) ∧
      pass.run.questions answer s₀ = (prepare key).run.questions answer s₀ ++ calls ++
        (component.reconcile c).run.questions answer s₂ ++
          (markFailed record error).questions answer s₃ := by
  intro error pass
  obtain ⟨hrun, hquestions⟩ := install_error record after h.before h.failure
  constructor
  · exact (Attempt.run_bind_ok h.ready).trans hrun
  · refine (Attempt.questions_bind_ok h.ready).trans ?_
    refine (congrArg (_ ++ ·) hquestions).trans ?_
    simp only [error, List.append_assoc]

end FailStop

theorem Succeeded.reachable {c : Configuration} {components : List Component} {m m' : Memory}
    {calls : List Call} (hm : m.Reachable)
    (h : Succeeded Memory.answer c components m calls m') : m'.Reachable := by
  induction h with
  | nil m => exact hm
  | @cons component rest m m₁ m₂ calls report hrun _ ih =>
    exact ih (hm.of_run hrun)

/-- What the record reads after the failure has been kept in its status. -/
theorem FailedPass.stored {key : ObjectKey} {c : Configuration} {record written : Record}
    {before : List Component} {component : Component} {e : ComponentError} {calls : List Call}
    {m₀ m₁ m₂ m₃ m₄ : Memory} (hm : m₀.Reachable) (hkey : key.type = Record.type)
    (h : FailedPass Memory.answer key c record before component e calls m₀ m₁ m₂ m₃)
    {error : ReconcileError}
    (hmark : (markFailed record error).run Memory.answer m₃ = ((.ok (), written), m₄)) :
    Record.StoredAs m₄ key written ∧ written.phase = some .reconcileFailed ∧
      written.errorMessage = error.text := by
  have hm₁ := hm.of_run h.ready
  have hm₃ := (h.before.reachable hm₁).of_run h.failure
  obtain ⟨hstored, hstatus⟩ := updateStatus_ok hm₃ hmark
  rw [prepare_key hm hkey h.ready] at hstored
  refine ⟨hstored, ?_, ?_⟩
  · rw [Record.phase, hstatus]
    rfl
  · rw [Record.errorMessage, hstatus]
    rfl

/-- If a component of a pass fails, those before it having succeeded:

* against any store the pass ends with the error of that component, and the calls that it has made
  are those of the preparation, of the components before, of the one that failed, and of one update
  of the status;
* on a store in memory, if that update goes through, the record is stored as failed, and its
  message is the text of the error;
* that text names the component, then each cause below it once, down to the root cause. -/
theorem fail_stop (key : ObjectKey) (c : Configuration) (record : Record) (component : Component)
    (before after : List Component) (e : ComponentError) :
    let error := ReconcileError.component component.name e
    let pass := reconcilePass (before ++ component :: after) key
    (∀ {σ : Type} {answer : (c : Call) → σ → c.Answer × σ} {calls : List Call} {s₀ s₁ s₂ s₃ : σ},
      FailedPass answer key c record before component e calls s₀ s₁ s₂ s₃ →
        pass.run.run answer s₀ = (.error error, ((markFailed record error).run answer s₃).2) ∧
        pass.run.questions answer s₀ = (prepare key).run.questions answer s₀ ++ calls ++
          (component.reconcile c).run.questions answer s₂ ++
            (markFailed record error).questions answer s₃) ∧
    (∀ {calls : List Call} {m₀ m₁ m₂ m₃ m₄ : Memory} {written : Record}, m₀.Reachable →
      key.type = Record.type →
      FailedPass Memory.answer key c record before component e calls m₀ m₁ m₂ m₃ →
        (markFailed record error).run Memory.answer m₃ = ((.ok (), written), m₄) →
          Record.StoredAs m₄ key written ∧ written.phase = some .reconcileFailed ∧
            written.errorMessage = error.text) ∧
    error.text = error.shown.chain ∧
    error.shown = .wrapped ("failed to reconcile component " ++ component.name) e.shown ∧
    error.text = ": ".intercalate error.shown.messages ∧
    error.shown.messages = ("failed to reconcile component " ++ component.name) :: e.layers ∧
    e.layers.getLast? = some e.shown.innermost := by
  intro error pass
  have hmessages : error.shown.messages = error.layers := error.messages_shown
  refine ⟨fun h => h.run, fun hm hkey h hmark => h.stored hm hkey hmark, ?_, rfl, ?_, ?_, ?_⟩
  · exact error.text_eq_chain
  · rw [hmessages]
    rfl
  · exact hmessages
  · rw [← e.messages_shown]
    exact e.shown.getLast?_messages

def Component.idle : Component := .ofSubsystem { name := "idle", productions := [] }

/-- A component whose job has a schedule that is none. -/
def Component.unscheduled : Component := .ofSubsystem {
  name := "heartbeat"
  productions := [⟨"cron-job", fun _ => .error (.schedule "daily"), .present⟩] }

/-- The pass ends with the second component, and the record says why. -/
theorem unscheduled_stops_pass :
    let key := (Record.plain none).key
    ∃ m' written,
      (reconcilePass [.idle, .unscheduled, .idle] key).run.run Memory.answer (.ofPlain none) =
          (.error (.component "heartbeat" (.build "cron-job" (.schedule "daily"))), m') ∧
        Record.StoredAs m' key written ∧ written.phase = some .reconcileFailed ∧
          written.errorMessage = "failed to reconcile component heartbeat: " ++
            "could not build cron-job: " ++
              "invalid heartbeat schedule \"daily\": expected five cron fields" := by
  intro key
  have hm := Memory.reachable_ofPlain none
  have hquiet := Memory.quiet_ofPlain none
  have hkey : key.type = Record.type := rfl
  obtain ⟨c, hc⟩ : ∃ c, Configuration.resolve ((Record.plain none).inserted (.empty .epoch)) =
      .ok c := Configuration.resolve_ok rfl rfl
  have hnew : ((Record.plain none).inserted (.empty .epoch)).phase ≠ some .unmanaged := by decide
  obtain ⟨r, m₁, hready, htouched, hstored, hphase⟩ := prepare_quiet hquiet hm hkey
    (Record.storedAs_ofPlain none) rfl hnew (by decide) hc
  let e : ComponentError := .build "cron-job" (.schedule "daily")
  have hpass : FailedPass Memory.answer key c r [.idle] .unscheduled e _ _ m₁ m₁ m₁ :=
    ⟨hready, .cons (by rfl) (.nil m₁), by rfl⟩
  obtain ⟨written, m', hmark, -⟩ := updateStatus_quiet htouched.quiet (hm.of_run hready) hkey hstored
    hphase .reconcileFailed (ReconcileError.component Component.unscheduled.name e).text
  obtain ⟨hany, hmemory, -⟩ := fail_stop key c r .unscheduled [.idle] [.idle] e
  obtain ⟨hstored', hphase', hmessage⟩ := hmemory hm hkey hpass hmark
  obtain ⟨hrun, -⟩ := hany hpass
  refine ⟨m', written, ?_, hstored', hphase', hmessage.trans (by decide +kernel)⟩
  rw [markFailed, hmark] at hrun
  exact hrun

end MeshOperator
