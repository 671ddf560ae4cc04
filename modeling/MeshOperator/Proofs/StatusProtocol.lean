import MeshOperator.Proofs.PassWrites

/-!
The statuses that a record goes through.

A status is written with its phase and its message together. Each write of a pass or of a release
leaves a message just if it leaves the record failed, and so does a run of errands over any records,
whatever is arranged, as long as the components spare the record.
-/

namespace MeshOperator

set_option autoImplicit false

open Memory

/-! ## Messages of failed records -/

/-- There is a message just if the record has failed. -/
def Record.Coherent (r : Record) : Prop :=
  r.errorMessage ≠ "" ↔ r.phase = some .reconcileFailed

theorem ReconcileError.text_ne_empty (e : ReconcileError) : e.text ≠ "" := by
  have hwrapped : ∃ message cause, e.shown = .wrapped message cause := by
    cases e <;> exact ⟨_, _, rfl⟩
  obtain ⟨message, cause, hshown⟩ := hwrapped
  rw [e.text_eq_chain, hshown, Shown.chain]
  intro hempty
  have hlength := congrArg String.length hempty
  simp only [String.length_append] at hlength
  have hcolon : (": " : String).length = 2 := by decide
  have hzero : ("" : String).length = 0 := by decide
  omega

namespace Memory

/-- The effect has left a record that is coherent. -/
def Effect.Coherent (key : ObjectKey) (e : Effect) : Prop :=
  ∃ x r, e = .wrote key x ∧ Record.ofObject x = .ok r ∧ r.Coherent

section Coherent

variable {key : ObjectKey} {q : Record} {e : Effect} {phase : Phase} {message : String}

theorem Effect.Marks.coherent (h : e.Marks key (some ⟨some phase, message⟩))
    (hmessage : message ≠ "" ↔ phase = .reconcileFailed) : e.Coherent key := by
  obtain ⟨x, r, he, hr, hstatus⟩ := h
  refine ⟨x, r, he, hr, ?_⟩
  rw [Record.Coherent, Record.errorMessage, Record.phase, hstatus]
  exact hmessage.trans ⟨congrArg some, Option.some.inj⟩

theorem Effect.Marks.coherent_of_kept (h : e.Marks key q.status) (hq : q.Coherent) :
    e.Coherent key := by
  obtain ⟨x, r, he, hr, hstatus⟩ := h
  refine ⟨x, r, he, hr, ?_⟩
  rw [Record.Coherent, Record.errorMessage, Record.phase, hstatus]
  exact hq

end Coherent

end Memory

theorem ReleaseWrites.coherent {key : ObjectKey} {q : Record} {es : List Effect}
    (h : ReleaseWrites key q.status es) (hq : q.Coherent) : ∀ e ∈ es, e.Coherent key := by
  cases h with
  | mk hdropped hmarked =>
    refine List.forall_mem_append.2 ⟨fun e he => ?_, fun e he => ?_⟩
    · exact (hdropped.all e he).coherent_of_kept hq
    · exact (hmarked.all e he).coherent (by decide)

theorem PassWrites.coherent {key : ObjectKey} {q : Record} {unset succeeded : Prop}
    {es : List Effect} (h : PassWrites key q.status unset succeeded es) (hq : q.Coherent) :
    ∀ e ∈ es, e.Coherent key := by
  cases h with
  | released h => exact h.coherent hq
  | installed hcreated hresult =>
    refine List.forall_mem_append.2 ⟨fun e he => ?_, fun e he => ?_⟩
    · exact (hcreated.all e he).2.coherent (by decide)
    · rcases hresult.all e he with ⟨-, havailable⟩ | ⟨error, hfailed⟩
      · exact havailable.coherent (by decide)
      · exact hfailed.coherent ⟨fun _ => rfl, fun _ => error.text_ne_empty⟩

/-! ## Errands -/

/-- What the operator does on an errand with these components. -/
def Errand.procedure (components : List Component) : Errand → Procedure Unit
  | .pass key => (reconcilePass components key).run >>= fun _ => .done ()
  | .decommission key => (MeshOperator.decommission key).run >>= fun _ => .done ()
  | .releaseAll ns => (MeshOperator.releaseAll ns).run >>= fun _ => .done ()

/-- What a store comes to while the operator runs errands with these components, and errors,
conflicts and the loss of a status subresource are arranged between them. -/
inductive Memory.Attended (components : List Component) (m : Memory) : Memory → Prop where
  | start : Attended components m m
  | errand {m' : Memory} (errand : Errand) (h : Attended components m m') :
      Attended components m ((errand.procedure components).run Memory.answer m').2
  | arranged {m' : Memory} (op : Operation) (hop : op.Arranges) (h : Attended components m m') :
      Attended components m (op.apply m')

/-- A coherent record is stored in a store that can come about. -/
structure Memory.Sound (key : ObjectKey) (m : Memory) : Prop where
  reachable : m.Reachable
  stored : ∃ r, Record.StoredAs m key r ∧ r.Coherent

section Errands

variable {α : Type} {m m' : Memory} {key : ObjectKey} {components : List Component}

theorem Memory.Sound.states (h : m.Sound key) {p : Procedure α}
    (hp : ∀ e ∈ writes key p m, e.Coherent key) :
    ∀ s ∈ p.states Memory.answer m, ∃ r, Record.StoredAs s key r ∧ r.Coherent := by
  obtain ⟨r, ⟨o, hget, ho⟩, hr⟩ := h.stored
  have hgood : ∃ o, m.objects.get? key = some o ∧ ∃ r, Record.ofObject o = .ok r ∧ r.Coherent :=
    ⟨o, hget, r, ho, hr⟩
  intro s hs
  obtain ⟨x, hx, r', hr', hcoherent⟩ := h.reachable.forall_states hgood (fun e he => by
    obtain ⟨x, r, he, hr⟩ := hp e he
    exact ⟨x, he, r, hr⟩) s hs
  exact ⟨r', ⟨x, hx, hr'⟩, hcoherent⟩

theorem Memory.Sound.run (h : m.Sound key) {p : Procedure α}
    (hp : ∀ e ∈ writes key p m, e.Coherent key) : Sound key (p.run Memory.answer m).2 :=
  ⟨h.reachable.run p, h.states hp _ (p.mem_states_last Memory.answer m)⟩

theorem coherent_decommission (h : m.Sound key) (other : ObjectKey) :
    ∀ e ∈ writes key (decommission other).run m, e.Coherent key := by
  obtain ⟨q, hstored, hq⟩ := h.stored
  exact (writes_decommission h.reachable hstored other).coherent hq

theorem coherent_releaseListed (h : m.Sound key) (ns : Option String) (objects : List Object)
    (released : Nat) :
    ∀ e ∈ writes key (releaseListed ns objects released).run m, e.Coherent key := by
  induction objects generalizing m released with
  | nil => exact List.forall_mem_nil _
  | cons object rest ih =>
    unfold releaseListed
    cases object.key with
    | error defect => exact List.forall_mem_nil _
    | ok other =>
      have hfirst := coherent_decommission h other
      have hsound := h.run hfirst
      dsimp only
      cases hrun : (decommission other).run.run Memory.answer m with
      | mk result m₁ =>
        rw [hrun] at hsound
        cases result with
        | error e =>
          rw [writes_bind_error hrun]
          exact hfirst
        | ok found =>
          rw [writes_bind_ok hrun]
          exact List.forall_mem_append.2 ⟨hfirst, ih hsound _⟩

theorem coherent_releaseAll (h : m.Sound key) (ns : Option String) :
    ∀ e ∈ writes key (releaseAll ns).run m, e.Coherent key := by
  have hlist : writes key (Attempt.ask (ReconcileError.store (recordsKey ns))
      (.list Record.type ns)).run m = [] := by
    refine writes_of_effects ?_
    rw [effects_ask, callEffect?_list]
    rfl
  unfold releaseAll
  cases hrun : (Attempt.ask (ReconcileError.store (recordsKey ns))
      (.list Record.type ns)).run.run Memory.answer m with
  | mk result m₁ =>
    cases result with
    | error e =>
      rw [writes_bind_error hrun, hlist]
      exact List.forall_mem_nil _
    | ok objects =>
      have hsound := h.run (by rw [hlist]; exact List.forall_mem_nil _)
      rw [hrun] at hsound
      rw [writes_bind_ok hrun, hlist, List.nil_append]
      exact coherent_releaseListed hsound ns objects 0

/-- All that an errand writes over the record is coherent. -/
theorem Errand.coherent (h : m.Sound key)
    (hspares : ∀ component ∈ components, component.Spares key) (errand : Errand) :
    ∀ e ∈ writes key (errand.procedure components) m, e.Coherent key := by
  cases errand with
  | pass other =>
    obtain ⟨q, hstored, hq⟩ := h.stored
    have hpass : PassWrites key q.status True (PassSucceeds components other m) _ :=
      writes_reconcilePass h.reachable hstored hspares other fun _ _ _ => trivial
    rw [procedure, writes_bind_done]
    exact hpass.coherent hq
  | decommission other =>
    rw [procedure, writes_bind_done]
    exact coherent_decommission h other
  | releaseAll ns =>
    rw [procedure, writes_bind_done]
    exact coherent_releaseAll h ns

theorem Memory.Attended.sound (hattended : Attended components m m') (h : m.Sound key)
    (hspares : ∀ component ∈ components, component.Spares key) : m'.Sound key := by
  induction hattended with
  | start => exact h
  | errand errand _ ih => exact ih.run (errand.coherent ih hspares)
  | arranged op hop _ ih =>
    obtain ⟨effects, hrun⟩ := ih.reachable
    obtain ⟨r, hstored, hr⟩ := ih.stored
    exact ⟨⟨_, hrun.step op⟩, r, hstored.congr (by rw [hop.objects]), hr⟩

end Errands

/-- For a stored record and components that spare it:

* if it has no status at first, then in every state that the store goes through, while the operator
  runs errands one after another and anything is arranged between them, the record is stored with a
  message just if it is stored as failed;
* the writes of a pass over the record are those of a release, or the record is marked as created,
  if it had no phase, and then as available or as failed, each at most once; it is marked as
  available only if all components have succeeded.

The components of the default control plane spare every record. -/
theorem status_protocol {m : Memory} (hm : m.Reachable) {key : ObjectKey} {r : Record}
    (hstored : Record.StoredAs m key r) {components : List Component}
    (hspares : ∀ component ∈ components, component.Spares key) :
    (r.status = none → ∀ m', m.Attended components m' → ∀ errand : Errand,
      ∀ s ∈ (errand.procedure components).states Memory.answer m',
        ∃ r', Record.StoredAs s key r' ∧
          (r'.errorMessage ≠ "" ↔ r'.phase = some .reconcileFailed)) ∧
    PassWrites key r.status (r.phase = none) (PassSucceeds components key m)
      (writes key (reconcilePass components key).run m) ∧
    (key.type = Record.type →
      ∀ component ∈ Catalogue.controlPlane.map Component.ofSubsystem, component.Spares key) := by
  refine ⟨fun hstatus m' hattended errand => ?_, ?_, spares_controlPlane⟩
  · have hr : r.Coherent := by
      rw [Record.Coherent, Record.errorMessage, Record.phase, hstatus]
      simp
    have hsound := hattended.sound ⟨hm, r, hstored, hr⟩ hspares
    exact hsound.states (errand.coherent hsound hspares)
  · refine writes_reconcilePass hm hstored hspares key fun r' hread hphase => ?_
    cases hstored.unique hread
    exact hphase

/-- A pass whose second component fails over a record without status: each store that it goes
through is coherent, and it does not get as far as to mark the record as available. -/
theorem status_protocol_unscheduled :
    let key := (Record.plain none).key
    let components := [Component.idle, .unscheduled]
    let m := Memory.ofPlain none
    (∀ s ∈ ((Errand.pass key).procedure components).states Memory.answer m,
      ∃ r, Record.StoredAs s key r ∧ (r.errorMessage ≠ "" ↔ r.phase = some .reconcileFailed)) ∧
    PassWrites key none (Record.phase ((Record.plain none).inserted (.empty .epoch)) = none)
      (PassSucceeds components key m) (writes key (reconcilePass components key).run m) ∧
    ¬PassSucceeds components key m := by
  intro key components m
  have hspares : ∀ component ∈ components, component.Spares key := by
    simp only [components, List.forall_mem_cons]
    exact ⟨fun c m _ => rfl, fun c m _ => rfl, List.forall_mem_nil _⟩
  obtain ⟨hcoherent, hwrites, -⟩ :=
    status_protocol (Memory.reachable_ofPlain none) (Record.storedAs_ofPlain none) hspares
  refine ⟨hcoherent rfl m .start (.pass key), hwrites, ?_⟩
  rintro ⟨c, r, m₁, calls, m₂, -, hall⟩
  have hsucceeded : Succeeded Memory.answer c [.idle, .unscheduled] m₁ calls m₂ := hall
  cases hsucceeded with
  | cons _ hrest =>
    cases hrest with
    | cons hfails _ => cases hfails

end MeshOperator
