import MeshOperator.Proofs.Release

/-!
The gates of a pass.

A pass reads the record and looks at its marks in a fixed order: is it there, is it being deleted,
is it unmanaged, is its version supported, does it have a configuration? `Halts` lists the answers
to the one read that end a pass there and then, each with its result. Such a pass makes no other
call, against any store and with any components. All other answers are records to be released or to
be installed.
-/

namespace MeshOperator

set_option autoImplicit false

open Memory

/-! ## Procedures that end after one call -/

section OneCall

variable {α β ε σ : Type}

/-- The procedure makes this call and no other, and ends with this. -/
structure EndsAfter (answer : (c : Call) → σ → c.Answer × σ) (s : σ) (c : Call) (p : Procedure α)
    (result : α) : Prop where
  run : p.run answer s = (result, (answer c s).2)
  questions : p.questions answer s = [c]

variable {answer : (c : Call) → σ → c.Answer × σ} {s : σ} {c : Call} {p : Attempt ε α}
  {f : α → Attempt ε β}

theorem EndsAfter.bind_ok {a : α} {result : Except ε β}
    (h : EndsAfter answer s c p.run (.ok a)) (hf : (f a).run = .done result) :
    EndsAfter answer s c (Attempt.run (p >>= f)) result where
  run := by
    rw [Attempt.run_bind_ok h.run, hf]
    rfl
  questions := by
    rw [Attempt.questions_bind_ok h.run, h.questions, hf]
    rfl

theorem EndsAfter.bind_error {e : ε} (h : EndsAfter answer s c p.run (.error e)) :
    EndsAfter answer s c (Attempt.run (p >>= f)) (.error e) where
  run := Attempt.run_bind_error h.run
  questions := (Attempt.questions_bind_error h.run).trans h.questions

end OneCall

/-! ## Answers that end a pass -/

/-- What is known of the record once it was read. -/
def readRecord (key : ObjectKey) : (Call.get key).Answer → Except ReconcileError (Option Record)
  | .ok o => ((Record.ofObject o).map some).mapError (ReconcileError.store key)
  | .error (.notFound _) => .ok none
  | .error e => .error (.store key e)

/-- A pass that is answered this way ends there and then with this result. -/
inductive Halts (key : ObjectKey) :
    (Call.get key).Answer → Except ReconcileError PassOutcome → Prop where
  | missing {other : ObjectKey} : Halts key (.error (.notFound other)) (.ok .deleted)
  | failed {e : StoreError} (he : e.isNotFound = false) :
      Halts key (.error e) (.error (.store key e))
  | unreadable {o : Object} {e : StoreError} (ho : Record.ofObject o = .error e) :
      Halts key (.ok o) (.error (.store key e))
  | gone {o : Object} {r : Record} (ho : Record.ofObject o = .ok r)
      (hdeletion : r.metadata.deletionTimestamp.isSome) (hfinalizer : r.hasFinalizer = false) :
      Halts key (.ok o) (.ok .deleted)
  | unmanaged {o : Object} {r : Record} (ho : Record.ofObject o = .ok r)
      (hdeletion : r.metadata.deletionTimestamp = none) (hphase : r.phase = some .unmanaged) :
      Halts key (.ok o) (.ok .unmanaged)
  | unsupported {o : Object} {r : Record} (ho : Record.ofObject o = .ok r)
      (hdeletion : r.metadata.deletionTimestamp = none) (hphase : r.phase ≠ some .unmanaged)
      (hversion : isSupported r.spec.version = false) : Halts key (.ok o) (.ok .unsupportedVersion)
  | unresolved {o : Object} {r : Record} {e : ResolveError} (ho : Record.ofObject o = .ok r)
      (hdeletion : r.metadata.deletionTimestamp = none) (hphase : r.phase ≠ some .unmanaged)
      (hversion : isSupported r.spec.version = true)
      (hresolve : Configuration.resolve r = .error e) : Halts key (.ok o) (.error (.build e))

/-- The record is being deleted, and the operator still holds on to it. -/
structure Record.ToRelease (r : Record) : Prop where
  deletion : r.metadata.deletionTimestamp.isSome
  finalizer : r.hasFinalizer = true

/-- The record passes all gates. -/
structure Record.ToInstall (r : Record) : Prop where
  deletion : r.metadata.deletionTimestamp = none
  phase : r.phase ≠ some .unmanaged
  version : isSupported r.spec.version = true
  name : r.metadata.name.isSome
  ns : r.metadata.ns.isSome

section Gates

variable {σ : Type} {answer : (c : Call) → σ → c.Answer × σ} {s : σ} {key : ObjectKey}

theorem fetchRecord_eq (key : ObjectKey) :
    (fetchRecord key).run = Dialogue.ask (.get key) fun a => .done (readRecord key a) := by
  refine congrArg (Dialogue.ask (Call.get key)) (funext fun a => ?_)
  cases a with
  | ok o =>
    dsimp only [Dialogue.bind, ExceptT.bindCont, readRecord]
    cases Record.ofObject o <;> rfl
  | error e => cases e <;> rfl

theorem endsAfter_fetchRecord (answer : (c : Call) → σ → c.Answer × σ) (s : σ) (key : ObjectKey) :
    EndsAfter answer s (.get key) (fetchRecord key).run
      (readRecord key (answer (.get key) s).1) := by
  constructor <;> rw [fetchRecord_eq] <;> rfl

theorem Halts.pass {result : Except ReconcileError PassOutcome}
    (h : Halts key (answer (.get key) s).1 result) (components : List Component) :
    EndsAfter answer s (.get key) (reconcilePass components key).run result := by
  have hfetch := endsAfter_fetchRecord answer s key
  generalize (answer (.get key) s).1 = a at h hfetch
  cases h with
  | missing => exact (hfetch.bind_ok rfl).bind_ok rfl
  | @failed e he =>
    have hread : readRecord key (.error e) = .error (.store key e) := by
      cases e with
      | notFound other => cases he
      | _ => rfl
    rw [hread] at hfetch
    exact hfetch.bind_error.bind_error
  | unreadable ho =>
    rw [readRecord, ho] at hfetch
    exact hfetch.bind_error.bind_error
  | gone ho hdeletion hfinalizer =>
    rw [readRecord, ho] at hfetch
    have hprepare : EndsAfter answer s (.get key) (prepare key).run (.ok (.ended .deleted)) := by
      refine hfetch.bind_ok ?_
      simp only [hdeletion, hfinalizer, Bool.false_eq_true, if_true, if_false]
      rfl
    exact hprepare.bind_ok rfl
  | unmanaged ho hdeletion hphase =>
    rw [readRecord, ho] at hfetch
    have hprepare : EndsAfter answer s (.get key) (prepare key).run (.ok (.ended .unmanaged)) := by
      refine hfetch.bind_ok ?_
      simp only [hdeletion, hphase, Option.isSome_none, Bool.false_eq_true, if_true, if_false]
      rfl
    exact hprepare.bind_ok rfl
  | unsupported ho hdeletion hphase hversion =>
    rw [readRecord, ho] at hfetch
    have hprepare : EndsAfter answer s (.get key) (prepare key).run
        (.ok (.ended .unsupportedVersion)) := by
      refine hfetch.bind_ok ?_
      simp only [hdeletion, hphase, hversion, Option.isSome_none, Bool.false_eq_true, if_false]
      rfl
    exact hprepare.bind_ok rfl
  | @unresolved o r e ho hdeletion hphase hversion hresolve =>
    rw [readRecord, ho] at hfetch
    have hprepare : EndsAfter answer s (.get key) (prepare key).run (.error (.build e)) := by
      refine hfetch.bind_ok ?_
      simp only [hdeletion, hphase, hversion, hresolve, Option.isSome_none, Bool.false_eq_true,
        if_true, if_false]
      rfl
    exact hprepare.bind_error

/-- An answer ends the pass, or it is a record to be released or to be installed. -/
theorem halts_or (key : ObjectKey) (a : (Call.get key).Answer) :
    (∃ result, Halts key a result) ∨
      ∃ o r, a = .ok o ∧ Record.ofObject o = .ok r ∧ (r.ToRelease ∨ r.ToInstall) := by
  cases a with
  | error e =>
    left
    by_cases he : e.isNotFound = true
    · cases e with
      | notFound other => exact ⟨_, .missing⟩
      | _ => cases he
    · exact ⟨_, .failed (Bool.eq_false_iff.2 he)⟩
  | ok o =>
    cases ho : Record.ofObject o with
    | error e => exact .inl ⟨_, .unreadable ho⟩
    | ok r =>
      by_cases hdeletion : r.metadata.deletionTimestamp.isSome = true
      · by_cases hfinalizer : r.hasFinalizer = true
        · exact .inr ⟨o, r, rfl, ho, .inl ⟨hdeletion, hfinalizer⟩⟩
        · exact .inl ⟨_, .gone ho hdeletion (Bool.eq_false_iff.2 hfinalizer)⟩
      · have hdeletion : r.metadata.deletionTimestamp = none := by simpa using hdeletion
        by_cases hphase : r.phase = some .unmanaged
        · exact .inl ⟨_, .unmanaged ho hdeletion hphase⟩
        · by_cases hversion : isSupported r.spec.version = true
          · cases hresolve : Configuration.resolve r with
            | error e => exact .inl ⟨_, .unresolved ho hdeletion hphase hversion hresolve⟩
            | ok c =>
              obtain ⟨hname, hns⟩ := Configuration.named_of_resolve hresolve
              exact .inr ⟨o, r, rfl, ho, .inr ⟨hdeletion, hphase, hversion, hname, hns⟩⟩
          · exact .inl ⟨_, .unsupported ho hdeletion hphase (Bool.eq_false_iff.2 hversion)⟩

end Gates

/-! ## Gates on a store in memory -/

section Memory

variable {m : Memory} {key : ObjectKey} {r : Record}

theorem Halts.pass_some (hq : m.Quiet) {o : Object} (hget : m.objects.get? key = some o)
    {result : Except ReconcileError PassOutcome} (h : Halts key (.ok o) result)
    (components : List Component) :
    (reconcilePass components key).run.run Memory.answer m = (result, m) := by
  have ha := hq.get_some hget
  have hhalts : Halts key (Memory.answer (.get key) m).1 result := by
    rw [ha]
    exact h
  rw [(hhalts.pass components).run, ha]

theorem Halts.pass_none (hq : m.Quiet) (hget : m.objects.get? key = none)
    (components : List Component) :
    (reconcilePass components key).run.run Memory.answer m = (.ok .deleted, m) := by
  have ha := hq.get_none hget
  have hmissing : Halts key (Memory.answer (.get key) m).1 (.ok .deleted) := by
    rw [ha]
    exact .missing
  rw [(hmissing.pass components).run, ha]

/-- A record that is being deleted is let go of, if the operator still holds on to it. -/
theorem pass_deleted (hm : m.Reachable) (hq : m.Quiet) (hkey : key.type = Record.type)
    (hstored : Record.StoredAs m key r) (hdeletion : r.metadata.deletionTimestamp.isSome) :
    ∃ m', (∀ components,
        (reconcilePass components key).run.run Memory.answer m = (.ok .deleted, m')) ∧
      (r.hasFinalizer = false → m' = m) := by
  obtain ⟨o, hget, ho⟩ := id hstored
  by_cases hfinalizer : r.hasFinalizer = true
  · obtain ⟨m', hrelease, -⟩ := release_clear (hq.clear key) hm hkey hstored
    have hfetch := run_fetchRecord (Attempt.run_find_ok (hq.get_some hget)) ho
    have hprepare := run_prepare_released hfetch hdeletion hfinalizer hrelease
    refine ⟨m', fun components => Attempt.run_bind_ok hprepare, fun hnone => ?_⟩
    cases hnone.symm.trans hfinalizer
  · have hgone : Halts key (.ok o) (.ok .deleted) :=
      .gone ho hdeletion (Bool.eq_false_iff.2 hfinalizer)
    exact ⟨m, hgone.pass_some hq hget, fun _ => rfl⟩

/-- A record that passes all gates is installed, whatever the components. -/
theorem pass_installs (hm : m.Reachable) (hq : m.Quiet) (hkey : key.type = Record.type)
    (hstored : Record.StoredAs m key r) (h : r.ToInstall) :
    ∃ c r' m', Configuration.resolve r = .ok c ∧ Record.StoredAs m' key r' ∧
      ∀ components, (reconcilePass components key).run.run Memory.answer m =
        (install components c r').run.run Memory.answer m' := by
  obtain ⟨c, hresolve⟩ := Configuration.resolve_ok h.name h.ns
  obtain ⟨r', m', hprepare, -, hstored', -⟩ :=
    prepare_quiet hq hm hkey hstored h.deletion h.phase h.version hresolve
  exact ⟨c, r', m', hresolve, hstored', fun components => Attempt.run_bind_ok hprepare⟩

end Memory

/-- Where a pass over the record with this key ends before it comes to its components, and that it
leaves everything alone there:

* against any store, an answer to its first call that halts it is the end of the pass, whatever the
  components, and that call is the only one that it makes;
* all other answers are records that are being deleted and held by the finalizer of the operator,
  or that pass all gates;
* on a store in memory with nothing arranged, whose object with this key is a record if there is
  one, the gates are tried in this order: a missing or deleted record, an unmanaged one, a version
  that is not supported, a missing namespace. The store stays as it is, unless the finalizer is
  taken off a deleted record. Only past all of them the pass goes on to its components. -/
theorem pass_gates (key : ObjectKey) :
    (∀ {σ : Type} (answer : (c : Call) → σ → c.Answer × σ) (s : σ) result,
      Halts key (answer (.get key) s).1 result → ∀ components,
        EndsAfter answer s (.get key) (reconcilePass components key).run result) ∧
    (∀ a, (∃ result, Halts key a result) ∨
      ∃ o r, a = .ok o ∧ Record.ofObject o = .ok r ∧ (r.ToRelease ∨ r.ToInstall)) ∧
    ∀ m : Memory, m.Reachable → m.Quiet → key.type = Record.type →
      let pass components := (reconcilePass components key).run.run Memory.answer m
      (m.objects.get? key = none → ∀ components, pass components = (.ok .deleted, m)) ∧
      ∀ r, Record.StoredAs m key r →
        (r.metadata.deletionTimestamp.isSome →
          ∃ m', (∀ components, pass components = (.ok .deleted, m')) ∧
            (r.hasFinalizer = false → m' = m)) ∧
        (r.metadata.deletionTimestamp = none → r.phase = some .unmanaged →
          ∀ components, pass components = (.ok .unmanaged, m)) ∧
        (r.metadata.deletionTimestamp = none → r.phase ≠ some .unmanaged →
          isSupported r.spec.version = false →
            ∀ components, pass components = (.ok .unsupportedVersion, m)) ∧
        (r.metadata.deletionTimestamp = none → r.phase ≠ some .unmanaged →
          isSupported r.spec.version = true → r.metadata.ns = none →
            ∀ components, pass components =
              (.error (.build (.missingMetadata "namespace")), m)) ∧
        (r.metadata.deletionTimestamp = none → r.phase ≠ some .unmanaged →
          isSupported r.spec.version = true → r.metadata.ns.isSome →
            ∃ c r' m', Configuration.resolve r = .ok c ∧ Record.StoredAs m' key r' ∧
              ∀ components, pass components =
                (install components c r').run.run Memory.answer m') := by
  refine ⟨fun answer s result h => h.pass, halts_or key, fun m hm hq hkey => ?_⟩
  intro pass
  refine ⟨Halts.pass_none hq, fun r hstored => ?_⟩
  obtain ⟨o, hget, ho⟩ := id hstored
  have hname : r.metadata.name.isSome := by
    rw [Record.metadata_of_ofObject ho, Object.name_of_key (hm.keyed _ _ hget)]
    rfl
  refine ⟨pass_deleted hm hq hkey hstored, fun hdeletion hphase => ?_,
    fun hdeletion hphase hversion => ?_, fun hdeletion hphase hversion hns => ?_,
    fun hdeletion hphase hversion hns => ?_⟩
  · exact Halts.pass_some hq hget (.unmanaged ho hdeletion hphase)
  · exact Halts.pass_some hq hget (.unsupported ho hdeletion hphase hversion)
  · have hresolve := Configuration.resolve_of_ns_none hname hns
    exact Halts.pass_some hq hget (.unresolved ho hdeletion hphase hversion hresolve)
  · exact pass_installs hm hq hkey hstored ⟨hdeletion, hphase, hversion, hname, hns⟩

/-- The default pass over an unmanaged record leaves the store as it is, and on a store that is down
it tries to read the record and no more. -/
theorem pass_gates_unmanaged :
    let key := (Record.plain none).key
    let m := Memory.ofPlain (some ⟨some .unmanaged, ""⟩)
    let down : (c : Call) → Nat → c.Answer × Nat := fun _ tries =>
      (.error (.api 500 "InternalError" "store down"), tries + 1)
    let pass := reconcilePass (Catalogue.controlPlane.map Component.ofSubsystem) key
    pass.run.run Memory.answer m = (.ok .unmanaged, m) ∧
      pass.run.run down 0 =
          (.error (.store key (.api 500 "InternalError" "store down")), 1) ∧
        pass.run.questions down 0 = [.get key] := by
  intro key m down pass
  obtain ⟨hany, -, hmemory⟩ := pass_gates key
  obtain ⟨-, hstored⟩ := hmemory m (Memory.reachable_ofPlain _) (Memory.quiet_ofPlain _) rfl
  obtain ⟨-, hunmanaged, -⟩ := hstored _ (Record.storedAs_ofPlain _)
  have hdown := hany down 0 _ (.failed rfl) (Catalogue.controlPlane.map Component.ofSubsystem)
  exact ⟨hunmanaged rfl rfl _, hdown.run, hdown.questions⟩

end MeshOperator
