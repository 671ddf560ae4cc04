import MeshOperator.Proofs.MemoryHistory
import MeshOperator.Proofs.RecordWrites
import MeshOperator.Reconcile.Status

/-!
Writing a status to a store in memory.

`StatusWrite` lists all that one attempt can do. A status write that succeeds has stored the status
under the key of the record, whichever way it went and however often it was tried, and the caller
holds the record as it is stored.
-/

namespace MeshOperator

set_option autoImplicit false

namespace Memory

/-! ## Procedures -/

theorem Reachable.run {α : Type} (p : Procedure α) {m : Memory} (hm : m.Reachable) :
    (p.run Memory.answer m).2.Reachable := by
  induction p generalizing m with
  | done a => exact hm
  | ask c next ih =>
    obtain ⟨h, hrun⟩ := hm
    exact ih _ ⟨_, hrun.step (.call c)⟩

theorem Reachable.of_run {α : Type} {p : Procedure α} {a : α} {m m' : Memory} (hm : m.Reachable)
    (h : p.run Memory.answer m = (a, m')) : m'.Reachable := by
  have hreach := hm.run p
  rw [h] at hreach
  exact hreach

theorem reachable_ofRecord (r : Record) : (ofRecord r).Reachable :=
  ⟨_, .step (.insert r.object) (.start .epoch)⟩

theorem reachable_ofPlain (status : Option RecordStatus) : (ofPlain status).Reachable :=
  reachable_ofRecord (Record.plain status)

theorem Reachable.keyed {m : Memory} (hm : m.Reachable) : m.Keyed := by
  obtain ⟨h, hrun⟩ := hm
  exact hrun.recorded.keyed_store

end Memory

/-! ## Records and their keys -/

namespace Record

theorem key_eq {o : Object} {r : Record} {key : ObjectKey} (ho : o.key = .ok key)
    (htype : key.type = type) (h : r.metadata.name = o.metadata.name)
    (hns : r.metadata.ns = o.metadata.ns) : r.key = key := by
  unfold Object.key at ho
  split at ho
  · cases ho
  next t ht =>
    split at ho
    · cases ho
    next name hname =>
      cases ho
      have hversion : t.apiVersion = type.apiVersion := congrArg TypeName.apiVersion htype
      have hkind : t.kind = type.kind := congrArg TypeName.kind htype
      simp only [Record.key, h, hname, hns, hversion, hkind, Option.some_or, Option.getD_some]

theorem key_of_ofObject {o : Object} {r : Record} {key : ObjectKey} (ho : o.key = .ok key)
    (htype : key.type = type) (h : ofObject o = .ok r) : r.key = key := by
  have hmetadata := metadata_of_ofObject h
  exact key_eq ho htype (by rw [hmetadata]) (by rw [hmetadata])

theorem key_stage {r staged : Record} {phase : Phase} {message : String}
    (h : r.stage phase message = .ok staged) :
    staged.key = r.key ∧ staged.status = some ⟨some phase, message⟩ := by
  unfold stage at h
  split at h
  · split at h
    · cases h
      exact ⟨rfl, rfl⟩
    · cases h
  · cases h
    exact ⟨rfl, rfl⟩

/-! ## Runs of a status write -/

section Runs

variable {σ : Type} {answer : (c : Call) → σ → c.Answer × σ} {s s' : σ} {r : Record}

theorem run_writeStatus_ok {written : Object}
    (ha : answer (.replaceStatus r.object) s = (.ok written, s')) :
    r.writeStatus.run answer s = (ofObject written, s') := by
  unfold writeStatus
  rw [toObject_eq]
  dsimp only
  rw [Dialogue.run_bind, Procedure.run_ask, ha]
  rfl

theorem run_writeStatus_notFound {key : ObjectKey}
    (ha : answer (.replaceStatus r.object) s = (.error (.notFound key), s')) :
    r.writeStatus.run answer s =
      ((answer (.replace r.object) s').1.bind ofObject, (answer (.replace r.object) s').2) := by
  unfold writeStatus
  rw [toObject_eq]
  dsimp only
  rw [Dialogue.run_bind, Procedure.run_ask, ha]
  dsimp only
  rw [Dialogue.run_bind, Procedure.run_ask]
  cases (answer (.replace r.object) s').1 <;> rfl

theorem run_writeStatus_error {e : StoreError}
    (ha : answer (.replaceStatus r.object) s = (.error e, s')) (he : e.isNotFound = false) :
    r.writeStatus.run answer s = (.error e, s') := by
  unfold writeStatus
  rw [toObject_eq]
  dsimp only
  rw [Dialogue.run_bind, Procedure.run_ask, ha]
  cases e with
  | notFound key => cases he
  | _ => rfl

end Runs

/-! ## Writes that succeeded -/

/-- The record is stored as this one. -/
def StoredAs (m : Memory) (key : ObjectKey) (r : Record) : Prop :=
  ∃ o, m.objects.get? key = some o ∧ ofObject o = .ok r

theorem StoredAs.unique {m : Memory} {key : ObjectKey} {r r' : Record} (h : StoredAs m key r)
    (h' : StoredAs m key r') : r = r' := by
  obtain ⟨o, hget, hr⟩ := h
  obtain ⟨o', hget', hr'⟩ := h'
  cases hget.symm.trans hget'
  exact Except.ok.inj (hr.symm.trans hr')

theorem StoredAs.congr {m m' : Memory} {key : ObjectKey} {r : Record} (h : StoredAs m key r)
    (hget : m'.objects.get? key = m.objects.get? key) : StoredAs m' key r := by
  obtain ⟨o, hstored, hr⟩ := h
  exact ⟨o, hget.trans hstored, hr⟩

theorem StoredAs.read {m : Memory} {key : ObjectKey} {r : Record} {o : Object}
    (h : StoredAs m key r) (hget : m.objects.get? key = some o) : ofObject o = .ok r := by
  obtain ⟨stored, hstored, hr⟩ := h
  cases hget.symm.trans hstored
  exact hr

theorem storedAs_insert (m : Memory) {r : Record} (hname : r.metadata.name.isSome) :
    StoredAs (m.insert r.object).2 r.key (r.inserted m) :=
  ⟨_, m.get?_insert_object hname, ofObject_object _⟩

theorem StoredAs.insert {m : Memory} {key : ObjectKey} {q r : Record} (h : StoredAs m key q)
    (hname : r.metadata.name.isSome) (hne : key ≠ r.key) :
    StoredAs (m.insert r.object).2 key q := by
  refine h.congr ?_
  rw [objects_insert m hname, SortedMap.get?_insert_ne _ _ hne]

theorem storedAs_ofRecord {r : Record} (hname : r.metadata.name.isSome) :
    StoredAs (.ofRecord r) r.key (r.inserted (.empty .epoch)) :=
  storedAs_insert _ hname

theorem storedAs_ofPlain (status : Option RecordStatus) :
    StoredAs (.ofPlain status) (plain status).key ((plain status).inserted (.empty .epoch)) :=
  ⟨_, Memory.get?_ofPlain status, ofObject_object _⟩

theorem status_of_ofObject {o : Object} {r : Record} {status : Option RecordStatus}
    (h : ofObject o = .ok r) (ho : o.status? = status.map (·.toJson)) : r.status = status := by
  obtain ⟨-, -, hstatus⟩ := ofObject_eq_ok.1 h
  rw [ho, optional?_status] at hstatus
  exact (Option.some.inj hstatus).symm

theorem key_of_object {r : Record} {key : ObjectKey} (h : r.object.key = .ok key) :
    key = r.key := by
  cases hname : r.metadata.name with
  | none =>
    simp only [Object.key, object, hname] at h
    cases h
  | some name =>
    have hkey := r.object_key (by rw [hname]; rfl)
    exact Except.ok.inj (h.symm.trans hkey)

/-- All that writing the status of a record can do. -/
inductive StatusWrite (m : Memory) (r : Record) : Except StoreError Record × Memory → Prop where
  | foiled (e : StoreError) (f : Verb → Nat)
      (hmissing : e.isNotFound = true → m.objects.get? r.key = none) :
      StatusWrite m r (.error e, { m with conflicts := f })
  | done {stored : Object} (hget : m.objects.get? r.key = some stored) :
      StatusWrite m r (ofObject (m.stamp (m.marked r.key r stored)),
        (m.write (m.statusVerb r.key) r.key (m.marked r.key r stored)).2)

/-- Where the status is not found, it goes with the whole record. -/
theorem writeStatus_step_notFound {m m' : Memory} {r : Record} {missing : ObjectKey}
    (h : m.replaceStatus r.object = (.error (.notFound missing), m')) :
    StatusWrite m r (r.writeStatus.run Memory.answer m) := by
  have ha : m.answer (.replaceStatus r.object) = _ := h
  rw [run_writeStatus_notFound ha]
  cases hkey : r.object.key with
  | error defect =>
    simp only [Memory.replaceStatus, Memory.withKey, hkey] at h
    cases h
  | ok key =>
    cases key_of_object hkey
    obtain ⟨rfl, hcause⟩ := Memory.replaceStatus_notFound hkey h
    rcases m'.replace_cases r.object with ⟨e, f, he⟩ | ⟨key, stored, hkey', hget, -, hw⟩
    · have ha' : m'.answer (.replace r.object) = _ := he
      rw [ha']
      refine .foiled e f fun hmissing => ?_
      cases e with
      | notFound missing => exact Memory.replace_notFound hkey he
      | _ => cases hmissing
    · have ha' : m'.answer (.replace r.object) = _ := hw
      rw [ha']
      cases key_of_object hkey'
      have hsub : ¬m'.hasStatusSubresource r.key = true := by
        rcases hcause with hsub | hnone
        · exact Bool.eq_false_iff.1 hsub
        · cases hnone.symm.trans hget
      have hdone := StatusWrite.done (r := r) hget
      rw [Memory.marked, if_neg hsub, Memory.statusVerb, if_neg hsub] at hdone
      exact hdone

theorem writeStatus_step (m : Memory) (r : Record) :
    StatusWrite m r (r.writeStatus.run Memory.answer m) := by
  rcases m.replaceStatus_cases r.object with ⟨e, f, he⟩ | ⟨key, stored, hkey, hget, -, hsub, hw⟩
  · by_cases hmissing : e.isNotFound = true
    · cases e with
      | notFound missing => exact writeStatus_step_notFound he
      | _ => cases hmissing
    · have ha : m.answer (.replaceStatus r.object) = _ := he
      rw [run_writeStatus_error ha (Bool.eq_false_iff.2 hmissing)]
      exact .foiled e f fun h => absurd h hmissing
  · have ha : m.answer (.replaceStatus r.object) = _ := hw
    rw [run_writeStatus_ok ha]
    cases key_of_object hkey
    have hdone := StatusWrite.done (r := r) hget
    rw [Memory.marked, if_pos hsub, Memory.statusVerb, if_pos hsub] at hdone
    exact hdone

/-! ## Updates -/

theorem stage_ne_store {r : Record} {phase : Phase} {message : String} {e : StoreError} :
    r.stage phase message ≠ .error (.store e) := by
  unfold stage
  split
  · split <;> simp
  · simp

theorem ofObject_error {o : Object} {e : StoreError} (h : ofObject o = .error e) :
    e = .serialization [] := by
  unfold ofObject at h
  split at h <;> cases h
  rfl

end Record

/-- All that an update of the status can do: fail without a write, or write the record once with its
new status. Then it succeeds if what was written can be read. -/
inductive StatusUpdate (m : Memory) (phase : Phase) (message : String) (r : Record) :
    (Except StatusError Unit × Record) × Memory → Prop where
  | foiled (e : StatusError) (last : Record) (f : Verb → Nat)
      (hmissing : ∀ missing, e = .store (.notFound missing) → m.objects.get? r.key = none) :
      StatusUpdate m phase message r ((.error e, last), { m with conflicts := f })
  | wrote {staged : Record} {stored : Object} {result : Except StatusError Unit × Record}
      (f : Verb → Nat) (hget : m.objects.get? r.key = some stored)
      (hstatus : staged.status = some ⟨some phase, message⟩)
      (hresult : ∀ written, result = (.ok (), written) ↔
        Record.ofObject (m.stamp (m.marked r.key staged stored)) = .ok written) :
      StatusUpdate m phase message r (result,
        ({ m with conflicts := f }.write (m.statusVerb r.key) r.key
          (m.marked r.key staged stored)).2)

/-- What an update ends with after a write of this record, unless that was a conflict. -/
def updateResult (staged : Record) :
    Except StoreError Record → Except StatusError Unit × Record
  | .ok written => (.ok (), written)
  | .error e => (.error (.store e), staged)

section Updates

variable {m m' : Memory} {phase : Phase} {message : String} {r : Record}

theorem Record.StatusWrite.update {staged : Record} (hs : r.stage phase message = .ok staged)
    {result : Except StoreError Record} (h : StatusWrite m staged (result, m')) :
    (∃ key f, result = .error (.conflict key) ∧ m' = { m with conflicts := f }) ∨
      (∀ key, result ≠ .error (.conflict key)) ∧
        StatusUpdate m phase message r (updateResult staged result, m') := by
  obtain ⟨hkey, hstatus⟩ := key_stage hs
  cases h with
  | foiled e f hmissing =>
    rw [hkey] at hmissing
    cases e with
    | conflict key => exact .inl ⟨key, f, rfl, rfl⟩
    | notFound missing => exact .inr ⟨by simp, .foiled _ staged f fun _ _ => hmissing rfl⟩
    | _ => exact .inr ⟨by simp, .foiled _ staged f (by simp)⟩
  | @done stored hget =>
    rw [hkey] at hget ⊢
    right
    cases hw : ofObject (m.stamp (m.marked r.key staged stored)) with
    | ok written =>
      refine ⟨by simp, .wrote m.conflicts hget hstatus fun other => ?_⟩
      simp [updateResult, hw]
    | error e =>
      cases ofObject_error hw
      refine ⟨by simp, .wrote m.conflicts hget hstatus fun other => ?_⟩
      simp [updateResult, hw]

theorem retryStatus_step (m : Memory) (phase : Phase) (message : String) (r : Record) :
    StatusUpdate m phase message r ((retryStatus phase message r).run Memory.answer m) := by
  unfold retryStatus
  cases hs : r.stage phase message with
  | error e =>
    refine .foiled e r m.conflicts ?_
    rintro missing rfl
    exact absurd hs Record.stage_ne_store
  | ok staged =>
    dsimp only
    rw [Dialogue.run_bind]
    have hstep := Record.writeStatus_step m staged
    generalize staged.writeStatus.run Memory.answer m = result at hstep
    obtain ⟨result, m'⟩ := result
    rcases hstep.update hs with ⟨key, f, rfl, rfl⟩ | ⟨hother, hupdate⟩
    · exact .foiled _ staged f (by simp)
    · cases result with
      | ok written => exact hupdate
      | error e =>
        cases e with
        | conflict key => exact absurd rfl (hother key)
        | _ => exact hupdate

/-- Using up conflicts before does not matter. -/
theorem StatusUpdate.of_conflicts {f : Verb → Nat} {fresh : Record} (hkey : fresh.key = r.key)
    {result : (Except StatusError Unit × Record) × Memory}
    (h : StatusUpdate { m with conflicts := f } phase message fresh result) :
    StatusUpdate m phase message r result := by
  cases h with
  | foiled e last f' hmissing => exact .foiled e last f' (hkey ▸ hmissing)
  | wrote f' hget hstatus hresult =>
    rw [hkey, Memory.stamp_conflicts, Memory.marked_conflicts] at hresult
    rw [hkey] at hget
    rw [hkey, Memory.marked_conflicts, Memory.statusVerb_conflicts]
    exact .wrote f' hget hstatus hresult

theorem updateStatus_step (hm : m.Reachable) (phase : Phase) (message : String) (r : Record) :
    StatusUpdate m phase message r ((updateStatus phase message r).run Memory.answer m) := by
  unfold updateStatus
  cases hs : r.stage phase message with
  | error e =>
    refine .foiled e r m.conflicts ?_
    rintro missing rfl
    exact absurd hs Record.stage_ne_store
  | ok staged =>
    dsimp only
    rw [Dialogue.run_bind]
    have hkey := (Record.key_stage hs).1
    have hstep := Record.writeStatus_step m staged
    generalize staged.writeStatus.run Memory.answer m = result at hstep
    obtain ⟨result, m'⟩ := result
    rcases hstep.update hs with ⟨key, f, rfl, rfl⟩ | ⟨hother, hupdate⟩
    · dsimp only
      rw [Dialogue.run_bind, Procedure.run_ask]
      rcases Memory.get_cases staged.key { m with conflicts := f } with
        ⟨e, f', he⟩ | ⟨live, hlive, ha⟩
      · have ha : Memory.answer (.get staged.key) { m with conflicts := f } = _ := he
        rw [ha]
        refine .foiled (.store e) staged f' ?_
        rintro missing ⟨⟩
        rw [← hkey]
        exact (Memory.get_notFound he).2
      · have ha : Memory.answer (.get staged.key) { m with conflicts := f } = _ := ha
        rw [ha]
        dsimp only
        cases hr : Record.ofObject live with
        | error e =>
          cases Record.ofObject_error hr
          exact .foiled _ staged f (by simp)
        | ok fresh =>
          -- the second attempt is about the same key
          have hfresh : fresh.key = staged.key :=
            Record.key_of_ofObject (hm.keyed _ _ hlive) rfl hr
          exact .of_conflicts (hfresh.trans hkey) (retryStatus_step _ phase message fresh)
    · cases result with
      | ok written => exact hupdate
      | error e =>
        cases e with
        | conflict key => exact absurd rfl (hother key)
        | _ => exact hupdate

/-- An update of the status that goes through leaves the record stored with phase and message. -/
theorem updateStatus_ok (hm : m.Reachable) {written : Record}
    (h : (updateStatus phase message r).run Memory.answer m = ((.ok (), written), m')) :
    Record.StoredAs m' r.key written ∧ written.status = some ⟨some phase, message⟩ := by
  have hstep := updateStatus_step hm phase message r
  rw [h] at hstep
  generalize hresult : ((.ok (), written) : Except StatusError Unit × Record) = result at hstep
  cases hstep with
  | foiled e last f _ => cases hresult
  | @wrote staged stored _ f hget hstatus hiff =>
    have hwritten := (hiff written).1 hresult.symm
    refine ⟨⟨_, SortedMap.get?_insert_self _ _, hwritten⟩, ?_⟩
    exact (Record.status_of_ofObject hwritten (m.status?_marked r.key staged stored)).trans hstatus

end Updates

end MeshOperator
