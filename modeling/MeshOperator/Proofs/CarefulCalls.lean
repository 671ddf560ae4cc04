import MeshOperator.Proofs.RecordObject
import MeshOperator.Reconcile.Pass

/-!
What the procedures of the operator overwrite.

Whatever a store answers, a procedure that overwrites an object does so with something that it made
from an object it has seen: a desired object laid over a live one, or a record that was read from
an object, perhaps with another status or without the finalizer. Either carries the resource
version of the object that it was made from.

`Obeys` says that each call of a procedure satisfies a guard that depends on what was seen before.
-/

namespace MeshOperator

set_option autoImplicit false

namespace Call

def objects : (c : Call) → c.Answer → List Object
  | .get _, .ok object | .create _, .ok object | .replace _, .ok object
  | .replaceStatus _, .ok object => [object]
  | .list _ _, .ok objects => objects
  | _, _ => []

@[simp] theorem objects_error (c : Call) (e : StoreError) : c.objects (.error e) = [] := by
  cases c <;> rfl

/-- The object that a call writes over a stored one. -/
def overwriting? : Call → Option Object
  | .replace object | .replaceStatus object => some object
  | _ => none

end Call

/-! ## Objects made from other objects -/

/-- The record was read from the object and has at most another status or fewer finalizers. -/
inductive Record.Derived (live : Object) : Record → Prop where
  | read {r : Record} (h : Record.ofObject live = .ok r) : Derived live r
  | staged {r staged : Record} {phase : Phase} {message : String} (h : Derived live r)
      (hs : r.stage phase message = .ok staged) : Derived live staged
  | withoutFinalizer {r : Record} (h : Derived live r) : Derived live r.withoutFinalizer

/-- The object was made from the live one: for a resource with a key that may be synced, or as a
record. -/
inductive BasedOn (synced : ObjectKey → Prop) (live : Object) : Object → Prop where
  | overlay (resource : Managed) (h : synced resource.key) :
      BasedOn synced live (resource.object.overlay live)
  | record {r : Record} (h : r.Derived live) : BasedOn synced live r.object

/-- What a careful client asks for: what it overwrites is made from something that it has seen, and
it only deletes what may be synced. -/
def Careful (synced : ObjectKey → Prop) (seen : List Object) : Call → Prop
  | .get _ | .create _ | .list _ _ => True
  | .delete key => synced key
  | .replace object | .replaceStatus object => ∃ live ∈ seen, BasedOn synced live object

theorem Careful.mono {synced : ObjectKey → Prop} {seen more : List Object} (hsub : seen ⊆ more)
    {c : Call} (h : Careful synced seen c) : Careful synced more c := by
  cases c with
  | get key => trivial
  | create object => trivial
  | list type ns => trivial
  | delete key => exact h
  | replace object =>
    obtain ⟨live, hlive, hbased⟩ := h
    exact ⟨live, hsub hlive, hbased⟩
  | replaceStatus object =>
    obtain ⟨live, hlive, hbased⟩ := h
    exact ⟨live, hsub hlive, hbased⟩

theorem Careful.based {synced : ObjectKey → Prop} {seen : List Object} {c : Call} {x : Object}
    (h : Careful synced seen c) (hx : c.overwriting? = some x) :
    ∃ live ∈ seen, BasedOn synced live x := by
  cases c with
  | replace object =>
    cases hx
    exact h
  | replaceStatus object =>
    cases hx
    exact h
  | _ => cases hx

theorem Record.metadata_stage {r staged : Record} {phase : Phase} {message : String}
    (h : r.stage phase message = .ok staged) : staged.metadata = r.metadata := by
  unfold Record.stage at h
  split at h
  · split at h
    · cases h
      rfl
    · cases h
  · cases h
    rfl

theorem Record.Derived.version {live : Object} {r : Record} (h : r.Derived live) :
    r.metadata.resourceVersion = live.metadata.resourceVersion := by
  induction h with
  | read h => rw [Record.metadata_of_ofObject h]
  | staged _ hs ih => rw [Record.metadata_stage hs, ih]
  | withoutFinalizer _ ih => exact ih

theorem Record.Derived.name {live : Object} {r : Record} (h : r.Derived live) :
    r.metadata.name = live.metadata.name := by
  induction h with
  | read h => rw [Record.metadata_of_ofObject h]
  | staged _ hs ih => rw [Record.metadata_stage hs, ih]
  | withoutFinalizer _ ih => exact ih

theorem Record.Derived.ns {live : Object} {r : Record} (h : r.Derived live) :
    r.metadata.ns = live.metadata.ns := by
  induction h with
  | read h => rw [Record.metadata_of_ofObject h]
  | staged _ hs ih => rw [Record.metadata_stage hs, ih]
  | withoutFinalizer _ ih => exact ih

theorem Record.Derived.isRecord {live : Object} {r : Record} (h : r.Derived live) :
    live.IsRecord := by
  induction h with
  | read h => exact ⟨_, h⟩
  | staged _ _ ih => exact ih
  | withoutFinalizer _ ih => exact ih

theorem BasedOn.version {synced : ObjectKey → Prop} {live x : Object} (h : BasedOn synced live x) :
    x.metadata.resourceVersion = live.metadata.resourceVersion := by
  cases h with
  | overlay resource _ => rfl
  | record h => exact h.version

theorem BasedOn.keyed {synced : ObjectKey → Prop} {live x : Object} (h : BasedOn synced live x)
    {key : ObjectKey} (hlive : live.key = .ok key) : ∃ key', x.key = .ok key' := by
  cases h with
  | overlay resource _ => exact ⟨resource.key, resource.keyed⟩
  | @record r h =>
    refine ⟨r.key, r.object_key ?_⟩
    rw [h.name, Object.name_of_key hlive]
    rfl

/-! ## Procedures and guards -/

/-- Every call satisfies the guard, given what was seen before, and so does the result. -/
def Obeys {α : Type} (guard : List Object → Call → Prop) (result : List Object → α → Prop) :
    Procedure α → List Object → Prop
  | .done a, seen => result seen a
  | Dialogue.ask c next, seen =>
    guard seen c ∧ ∀ answer, Obeys guard result (next answer) (seen ++ c.objects answer)

section Guards

variable {α β ε δ : Type} {guard : List Object → Call → Prop} {seen : List Object}

theorem Obeys.bind {p : Procedure α} {f : α → Procedure β} {middle : List Object → α → Prop}
    {result : List Object → β → Prop} (hp : Obeys guard middle p seen)
    (hf : ∀ more a, seen ⊆ more → middle more a → Obeys guard result (f a) more) :
    Obeys guard result (p >>= f) seen := by
  induction p generalizing seen with
  | done a => exact hf seen a (fun _ h => h) hp
  | ask c next ih =>
    refine ⟨hp.1, fun answer => ih answer (hp.2 answer) fun more a hsub => ?_⟩
    exact hf more a fun x hx => hsub (List.mem_append_left _ hx)

theorem Obeys.mono {p : Procedure α} {result : List Object → α → Prop} {more : List Object}
    (hguard : ∀ {seen more : List Object} {c : Call}, seen ⊆ more → guard seen c → guard more c)
    (hresult : ∀ {seen more : List Object} {a : α}, seen ⊆ more → result seen a → result more a)
    (hsub : seen ⊆ more) (h : Obeys guard result p seen) : Obeys guard result p more := by
  induction p generalizing seen more with
  | done a => exact hresult hsub h
  | ask c next ih =>
    refine ⟨hguard hsub h.1, fun answer => ih answer ?_ (h.2 answer)⟩
    intro x hx
    rcases List.mem_append.1 hx with hx | hx
    · exact List.mem_append_left _ (hsub hx)
    · exact List.mem_append_right _ hx

/-- The result satisfies this unless it is an error. -/
def OnSuccess (result : List Object → α → Prop) (seen : List Object) (r : Except ε α) : Prop :=
  ∀ a, r = .ok a → result seen a

theorem OnSuccess.ok {result : List Object → α → Prop} {a : α} (h : result seen a) :
    OnSuccess result seen (.ok a : Except ε α) := fun _ ha => Except.ok.inj ha ▸ h

theorem OnSuccess.error (result : List Object → α → Prop) (e : ε) :
    OnSuccess result seen (.error e : Except ε α) := fun _ ha => nomatch ha

theorem Obeys.attempt_bind {p : Attempt ε α} {f : α → Attempt ε β}
    (middle : List Object → α → Prop) {result : List Object → β → Prop}
    (hp : Obeys guard (OnSuccess middle) p.run seen)
    (hf : ∀ more a, seen ⊆ more → middle more a → Obeys guard (OnSuccess result) (f a).run more) :
    Obeys guard (OnSuccess result) (p >>= f).run seen := by
  refine Obeys.bind hp fun more r hsub hr => ?_
  cases r with
  | ok a => exact hf more a hsub (hr a rfl)
  | error e => exact OnSuccess.error result e

theorem Obeys.adapt {p : Attempt ε α} {result : List Object → α → Prop} (f : ε → δ)
    (hp : Obeys guard (OnSuccess result) p.run seen) :
    Obeys guard (OnSuccess result) (ExceptT.adapt f p : Attempt δ α).run seen := by
  refine Obeys.bind hp fun more r _ hr => ?_
  cases r with
  | ok a => exact OnSuccess.ok (hr a rfl)
  | error e => exact OnSuccess.error result _

theorem Obeys.attempt_ask {c : Call} {result : List Object → c.Reply → Prop}
    (context : StoreError → ε) (hc : guard seen c)
    (hok : ∀ reply, result (seen ++ c.objects (.ok reply)) reply) :
    Obeys guard (OnSuccess result) (Attempt.ask context c).run seen := by
  refine ⟨hc, fun answer => ?_⟩
  cases answer with
  | ok reply => exact OnSuccess.ok (hok reply)
  | error e => exact OnSuccess.error result _

theorem Obeys.find {result : List Object → Option Object → Prop} (context : StoreError → ε)
    {key : ObjectKey} (hget : guard seen (.get key)) (hnone : result seen none)
    (hsome : ∀ object, result (seen ++ [object]) (some object)) :
    Obeys guard (OnSuccess result) (Attempt.find context key).run seen := by
  refine ⟨hget, fun answer => ?_⟩
  cases answer with
  | ok object => exact OnSuccess.ok (hsome object)
  | error e =>
    cases e with
    | notFound _ => exact OnSuccess.ok (by rwa [Call.objects_error, List.append_nil])
    | _ => exact OnSuccess.error result _

end Guards

/-! ## Syncing -/

section Tasks

variable {synced : ObjectKey → Prop} {seen : List Object}

def anyResult {α : Type} : List Object → α → Prop := fun _ _ => True

theorem careful_ensurePresent {resource : Managed} (h : synced resource.key) :
    Obeys (Careful synced) (OnSuccess anyResult) (ensurePresent resource).run seen := by
  refine Obeys.attempt_bind (fun seen live? => ∀ live, live? = some live → live ∈ seen)
    (Obeys.find _ trivial (by simp) (by simp)) fun more live? _ hlive => ?_
  cases live? with
  | none =>
    exact Obeys.attempt_bind anyResult (Obeys.attempt_ask _ trivial fun _ => trivial)
      fun _ _ _ _ => OnSuccess.ok trivial
  | some live =>
    by_cases hs : resource.object.isSettled live = true
    · simp only [hs, if_true]
      exact OnSuccess.ok trivial
    · simp only [hs]
      have hbased : Careful synced more (.replace (resource.object.overlay live)) :=
        ⟨live, hlive live rfl, .overlay resource h⟩
      exact Obeys.attempt_bind anyResult (Obeys.attempt_ask _ hbased fun _ => trivial)
        fun _ _ _ _ => OnSuccess.ok trivial

theorem careful_ensureAbsent {key : ObjectKey} (h : synced key) :
    Obeys (Careful synced) (OnSuccess anyResult) (ensureAbsent key).run seen := by
  refine Obeys.attempt_bind anyResult (Obeys.find _ trivial trivial fun _ => trivial)
    fun more live? _ _ => ?_
  cases live? with
  | none => exact OnSuccess.ok trivial
  | some live => exact ⟨h, fun _ _ _ => trivial⟩

theorem careful_ensure {resource : Managed} (h : synced resource.key) (state : Existence) :
    Obeys (Careful synced) (OnSuccess anyResult) (ensure resource state).run seen := by
  cases state with
  | present => exact careful_ensurePresent h
  | absent => exact careful_ensureAbsent h

/-! ## Writing the status -/

/-- The record was made from something that was seen. -/
def Held (seen : List Object) (r : Record) : Prop := ∃ live ∈ seen, r.Derived live

theorem Held.mono {more : List Object} {r : Record} (hsub : seen ⊆ more) (h : Held seen r) :
    Held more r := by
  obtain ⟨live, hlive, hr⟩ := h
  exact ⟨live, hsub hlive, hr⟩

theorem Held.staged {r staged : Record} {phase : Phase} {message : String} (h : Held seen r)
    (hs : r.stage phase message = .ok staged) : Held seen staged := by
  obtain ⟨live, hlive, hr⟩ := h
  exact ⟨live, hlive, hr.staged hs⟩

theorem Held.withoutFinalizer {r : Record} (h : Held seen r) : Held seen r.withoutFinalizer := by
  obtain ⟨live, hlive, hr⟩ := h
  exact ⟨live, hlive, hr.withoutFinalizer⟩

theorem Held.read {object : Object} {r : Record} (h : Record.ofObject object = .ok r) :
    Held (seen ++ [object]) r :=
  ⟨object, List.mem_append_right _ List.mem_cons_self, .read h⟩

theorem Held.based {r : Record} (h : Held seen r) : ∃ live ∈ seen, BasedOn synced live r.object := by
  obtain ⟨live, hlive, hr⟩ := h
  exact ⟨live, hlive, .record hr⟩

theorem careful_writeStatus {r : Record} (h : Held seen r) :
    Obeys (Careful synced) (OnSuccess Held) r.writeStatus seen := by
  unfold Record.writeStatus
  rw [Record.toObject_eq]
  refine ⟨h.based, fun answer => ?_⟩
  cases answer with
  | ok written => exact fun r hr => Held.read hr
  | error e =>
    cases e with
    | notFound key =>
      refine ⟨(h.mono (List.subset_append_left _ _)).based, fun answer => ?_⟩
      cases answer with
      | ok written => exact fun r hr => Held.read hr
      | error e => exact OnSuccess.error Held e
    | _ => exact OnSuccess.error Held _

/-- Both a record that was written and one that was not are made from something that was seen. -/
def HeldAfter (seen : List Object) (r : Except StatusError Unit × Record) : Prop := Held seen r.2

theorem careful_retryStatus {phase : Phase} {message : String} {fresh : Record}
    (h : Held seen fresh) :
    Obeys (Careful synced) HeldAfter (retryStatus phase message fresh) seen := by
  unfold retryStatus
  cases hs : fresh.stage phase message with
  | error e => exact h
  | ok staged =>
    refine Obeys.bind (careful_writeStatus (h.staged hs)) fun more result hsub hresult => ?_
    cases result with
    | ok written => exact hresult written rfl
    | error e =>
      have hstaged : Held more staged := (h.staged hs).mono hsub
      cases e with
      | conflict key => exact hstaged
      | _ => exact hstaged

theorem careful_updateStatus {phase : Phase} {message : String} {r : Record} (h : Held seen r) :
    Obeys (Careful synced) HeldAfter (updateStatus phase message r) seen := by
  unfold updateStatus
  cases hs : r.stage phase message with
  | error e => exact h
  | ok staged =>
    refine Obeys.bind (careful_writeStatus (h.staged hs)) fun more result hsub hresult => ?_
    cases result with
    | ok written => exact hresult written rfl
    | error e =>
      have hstaged : Held more staged := (h.staged hs).mono hsub
      cases e with
      | conflict key =>
        refine ⟨trivial, fun answer => ?_⟩
        cases answer with
        | error e => exact hstaged.mono (List.subset_append_left _ _)
        | ok object =>
          dsimp only [Dialogue.bind]
          cases hr : Record.ofObject object with
          | error e => exact hstaged.mono (List.subset_append_left _ _)
          | ok fresh => exact careful_retryStatus (Held.read hr)
      | _ => exact hstaged

theorem careful_setPhase {phase : Phase} {message : String} {r : Record} (h : Held seen r) :
    Obeys (Careful synced) (OnSuccess Held) (setPhase phase message r).run seen := by
  refine Obeys.attempt_bind HeldAfter ?_ fun more result _ hresult => ?_
  · exact Obeys.bind (careful_updateStatus h) fun _ _ _ hresult => OnSuccess.ok hresult
  · obtain ⟨result, record⟩ := result
    cases result with
    | ok _ => exact OnSuccess.ok hresult
    | error e => exact OnSuccess.error Held _

/-! ## Letting go -/

theorem careful_fetchRecord (key : ObjectKey) :
    Obeys (Careful synced) (OnSuccess fun seen r? => ∀ r, r? = some r → Held seen r)
      (fetchRecord key).run seen := by
  refine Obeys.attempt_bind (fun seen live? => ∀ live, live? = some live →
      ∀ r, Record.ofObject live = .ok r → Held seen r)
    (Obeys.find _ trivial (by simp) ?_) fun more live? _ hlive => ?_
  · intro object live hobject r hr
    cases hobject
    exact Held.read hr
  · cases live? with
    | none => exact OnSuccess.ok (by simp)
    | some live =>
      dsimp only
      cases hr : Record.ofObject live with
      | error e => exact OnSuccess.error _ _
      | ok r =>
        refine OnSuccess.ok fun r' hr' => ?_
        cases hr'
        exact hlive live rfl r hr

theorem careful_dropFinalizer {r : Record} (h : Held seen r) :
    Obeys (Careful synced) (OnSuccess Held) (dropFinalizer r).run seen := by
  unfold dropFinalizer
  by_cases hf : r.hasFinalizer = true
  · rw [if_pos hf, Record.toObject_eq]
    refine Obeys.attempt_bind (fun seen written => ∀ r, Record.ofObject written = .ok r →
        Held seen r)
      (Obeys.attempt_ask _ h.withoutFinalizer.based fun written r hr => Held.read hr)
      fun more written _ hwritten => ?_
    cases hr : Record.ofObject written with
    | error e => exact OnSuccess.error Held _
    | ok r => exact OnSuccess.ok (hwritten r hr)
  · rw [if_neg hf]
    exact OnSuccess.ok h.withoutFinalizer

theorem careful_release {r : Record} (h : Held seen r) :
    Obeys (Careful synced) (OnSuccess anyResult) (release r).run seen := by
  refine Obeys.attempt_bind Held (careful_dropFinalizer h) fun more r _ hr => ?_
  rw [Attempt.run_lift_bind]
  exact Obeys.bind (careful_updateStatus hr) fun _ _ _ _ => fun _ _ => trivial

theorem careful_decommission (key : ObjectKey) :
    Obeys (Careful synced) (OnSuccess anyResult) (decommission key).run seen := by
  refine Obeys.attempt_bind _ (careful_fetchRecord key) fun more r? _ hr => ?_
  cases r? with
  | none => exact OnSuccess.ok trivial
  | some r =>
    exact Obeys.attempt_bind anyResult (careful_release (hr r rfl))
      fun _ _ _ _ => OnSuccess.ok trivial

/-! ## Passes -/

/-- All that a subsystem may make can be synced. -/
def Subsystem.Within (synced : ObjectKey → Prop) (s : Subsystem) : Prop :=
  ∀ p ∈ s.productions, ∀ c resource, p.build c = .ok resource → synced resource.key

/-- Productions obey a guard if syncing what they build does. -/
theorem Obeys.productions {guard : List Object → Call → Prop} (s : Subsystem) (c : Configuration)
    {ps : List Production} (report : ComponentReport)
    (h : ∀ p ∈ ps, ∀ resource, p.build c = .ok resource → ∀ state seen,
      Obeys guard (OnSuccess anyResult) (ensure resource state).run seen) :
    Obeys guard (OnSuccess anyResult) (s.reconcileProductions c ps report).run seen := by
  induction ps generalizing seen report with
  | nil => exact OnSuccess.ok trivial
  | cons p rest ih =>
    refine Obeys.attempt_bind anyResult ?_ fun more outcome _ _ => ih _ ?_
    · unfold Subsystem.reconcileOne
      cases hp : p.build c with
      | error e => exact OnSuccess.error _ _
      | ok resource =>
        exact Obeys.adapt _ (h p List.mem_cons_self resource hp _ _)
    · exact fun p hp => h p (List.mem_cons_of_mem _ hp)

theorem careful_reconcileComponents (c : Configuration) {subsystems : List Subsystem}
    (h : ∀ s ∈ subsystems, s.Within synced) :
    Obeys (Careful synced) (OnSuccess anyResult)
      (reconcileComponents c (subsystems.map Component.ofSubsystem)).run seen := by
  induction subsystems generalizing seen with
  | nil => exact OnSuccess.ok trivial
  | cons s rest ih =>
    refine Obeys.attempt_bind anyResult (Obeys.adapt _ ?_) fun more _ _ _ => ih ?_
    · exact Obeys.productions s c .none fun p hp resource hbuild state _ =>
        careful_ensure (h s List.mem_cons_self p hp c resource hbuild) state
    · exact fun s hs => h s (List.mem_cons_of_mem _ hs)

theorem careful_prepare (key : ObjectKey) :
    Obeys (Careful synced) (OnSuccess fun seen p => ∀ c r, p = .ready c r → Held seen r)
      (prepare key).run seen := by
  refine Obeys.attempt_bind _ (careful_fetchRecord key) fun more r? _ hr => ?_
  cases r? with
  | none => exact OnSuccess.ok (by simp)
  | some r =>
    have hheld : Held more r := hr r rfl
    by_cases hdeleted : r.metadata.deletionTimestamp.isSome = true
    · by_cases hf : r.hasFinalizer = true
      · simp only [hdeleted, hf, if_true]
        exact Obeys.attempt_bind _ (careful_release hheld) fun _ _ _ _ => OnSuccess.ok (by simp)
      · simp only [hdeleted, hf, if_true]
        exact OnSuccess.ok (by simp)
    · by_cases hphase : r.phase = some .unmanaged
      · simp only [hdeleted, hphase, if_true]
        exact OnSuccess.ok (by simp)
      · by_cases hv : isSupported r.spec.version = true
        · cases hc : Configuration.resolve r with
          | error e =>
            simp only [hdeleted, hphase, hv, hc, if_true, if_false]
            exact OnSuccess.error _ _
          | ok c =>
            by_cases hnew : r.phase.isNone = true
            · simp only [hdeleted, hphase, hv, hc, hnew, if_true, if_false]
              refine Obeys.attempt_bind _ (careful_setPhase hheld) fun more r _ hr => ?_
              exact OnSuccess.ok fun _ _ h => by cases h; exact hr
            · simp only [hdeleted, hphase, hv, hc, hnew, if_true, if_false]
              exact OnSuccess.ok fun _ _ h => by cases h; exact hheld
        · simp only [hdeleted, hphase, hv, if_false]
          exact OnSuccess.ok (by simp)

theorem careful_install {subsystems : List Subsystem} (h : ∀ s ∈ subsystems, s.Within synced)
    (c : Configuration) {r : Record} (hr : Held seen r) :
    Obeys (Careful synced) (OnSuccess anyResult)
      (install (subsystems.map Component.ofSubsystem) c r).run seen := by
  refine Obeys.attempt_bind anyResult ?_ fun more result hsub _ => ?_
  · exact Obeys.bind (careful_reconcileComponents c h) fun _ _ _ _ => OnSuccess.ok trivial
  · cases result with
    | error e =>
      refine Obeys.attempt_bind anyResult ?_ fun _ _ _ _ => OnSuccess.error _ _
      exact Obeys.bind (careful_updateStatus (hr.mono hsub)) fun _ _ _ _ => OnSuccess.ok trivial
    | ok _ =>
      exact Obeys.attempt_bind _ (careful_setPhase (hr.mono hsub))
        fun _ _ _ _ => OnSuccess.ok trivial

theorem careful_reconcilePass {subsystems : List Subsystem}
    (h : ∀ s ∈ subsystems, s.Within synced) (key : ObjectKey) :
    Obeys (Careful synced) (OnSuccess anyResult)
      (reconcilePass (subsystems.map Component.ofSubsystem) key).run seen := by
  refine Obeys.attempt_bind _ (careful_prepare key) fun more p _ hp => ?_
  cases p with
  | ended outcome => exact OnSuccess.ok trivial
  | ready c r => exact careful_install h c (hp c r rfl)

end Tasks

end MeshOperator
