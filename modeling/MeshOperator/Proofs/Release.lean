import MeshOperator.Proofs.KeptDeclaration
import MeshOperator.Proofs.QuietMemory

/-!
Letting go of a stored record.

A status is written once or not at all: whatever is arranged, an update of the status of a stored
record goes through or is foiled, and it never finds the record missing. So a release that
succeeds has taken the finalizer off and marked the record.
-/

namespace MeshOperator

set_option autoImplicit false

open Memory

/-! ## Updates of the status -/

section Status

variable {m : Memory} {r q : Record}

/-- An update of the status of a stored record is foiled, for another reason than that the record
is missing, or it goes through. -/
theorem updateStatus_cases (hm : m.Reachable) (phase : Phase) (message : String)
    (hstored : Record.StoredAs m r.key q) :
    (∃ e last f, (updateStatus phase message r).run Memory.answer m =
        ((.error e, last), { m with conflicts := f }) ∧
          ∀ missing, e ≠ .store (.notFound missing)) ∨
      ∃ written m', (updateStatus phase message r).run Memory.answer m =
        ((.ok (), written), m') := by
  obtain ⟨o, hget, ho⟩ := hstored
  have hstep := updateStatus_step hm phase message r
  generalize (updateStatus phase message r).run Memory.answer m = result at hstep
  cases hstep with
  | foiled e last f hmissing =>
    refine .inl ⟨e, last, f, rfl, fun missing he => ?_⟩
    cases (hmissing missing he).symm.trans hget
  | @wrote staged stored result f hstored _ hresult =>
    cases hget.symm.trans hstored
    obtain ⟨written, hwritten⟩ := isRecord_stamp m (isRecord_marked m r.key staged ⟨q, ho⟩)
    obtain rfl := (hresult written).2 hwritten
    exact .inr ⟨written, _, rfl⟩

/-- An update that is struck by an error writes nothing. -/
theorem updateStatus_fault {o : Object} {key : ObjectKey} {phase : Phase} {f : Fault}
    (hm : m.Reachable) (hkey : key.type = Record.type) (hget : m.objects.get? key = some o)
    (ho : Record.ofObject o = .ok r) (hpermits : Phase.permits r.phase phase = true)
    (message : String) (hconflicts : m.conflicts .replaceStatus = 0)
    (hfault : m.faults.find? (fun f => f.strikes .replaceStatus key) = some f) :
    (updateStatus phase message r).run Memory.answer m =
      ((.error (.store f.error), r.withStatus phase message), m) := by
  have hmetadata : (r.withStatus phase message).metadata = o.metadata :=
    (Record.metadata_of_ofObject ho :)
  have hxkey : (r.withStatus phase message).object.key = .ok key :=
    Record.object_key_of_stored (hm.keyed _ _ hget) hkey (by rw [hmetadata]) (by rw [hmetadata])
  have hanswer : m.answer (.replaceStatus (r.withStatus phase message).object) =
      (.error f.error, m) := by
    show m.replaceStatus _ = _
    rw [Memory.replaceStatus, withKey, hxkey]
    exact unlessObstacle_fault _ hconflicts hfault
  unfold updateStatus
  rw [Record.stage_permitted hpermits]
  dsimp only
  rw [Dialogue.run_bind, Record.run_writeStatus_error hanswer rfl]
  rfl

end Status

/-! ## Finalizers -/

theorem Phase.permits_unmanaged (source : Option Phase) :
    Phase.permits source .unmanaged = true := by simp [Phase.permits]

namespace Record

/-- A record with the same status that is written over a stored one leaves the status alone. -/
theorem status_of_replaced {m : Memory} {key : ObjectKey} {o : Object} {r changed written : Record}
    (ho : ofObject o = .ok r) (hstatus : changed.status = r.status)
    (hwritten : ofObject (m.stamp (m.replaced key changed.object o)) = .ok written) :
    written.status = r.status := by
  by_cases hsub : m.hasStatusSubresource key = true
  · have hsame : (m.stamp (m.replaced key changed.object o)).status? = o.status? := by
      rw [replaced, if_pos hsub]
      exact Object.status?_withStatusOf _ _
    obtain ⟨-, -, hread⟩ := ofObject_eq_ok.1 ho
    obtain ⟨-, -, hread'⟩ := ofObject_eq_ok.1 hwritten
    rw [hsame, hread] at hread'
    exact (Option.some.inj hread').symm
  · refine status_of_ofObject hwritten ?_
    rw [replaced, if_neg hsub, ← hstatus]
    exact changed.object_status

theorem hasFinalizer_withoutFinalizer (r : Record) : r.withoutFinalizer.hasFinalizer = false := by
  simp [hasFinalizer, withoutFinalizer, Metadata.finalizerList]

theorem hasFinalizer_congr {r r' : Record}
    (h : r'.metadata.finalizerList = r.metadata.finalizerList) :
    r'.hasFinalizer = r.hasFinalizer := by rw [hasFinalizer, h, hasFinalizer]

theorem SameDeclaration.hasFinalizer {r r' : Record} (h : r.SameDeclaration r')
    (hr : r.hasFinalizer = false) : r'.hasFinalizer = false := by
  rcases h.finalizers with hsame | hless
  · rw [hasFinalizer_congr hsame, hr]
  · simp [Record.hasFinalizer, hless]

end Record

/-! ## Releases -/

section Release

variable {m m' : Memory} {key : ObjectKey} {r : Record}

/-- A record that was written over a stored object is what is stored. -/
theorem ask_replace_record {ε : Type} {context : StoreError → ε} {changed : Record}
    {written : Object}
    (h : (Attempt.ask context (.replace changed.object)).run.run Memory.answer m =
      (.ok written, m')) :
    m'.objects.get? changed.key = some written ∧
      written.metadata.finalizers = changed.metadata.finalizers := by
  rcases m.ask_cases context (.replace changed.object) with
    ⟨e, f, he⟩ | ⟨reply, m₁, hreply, hserved⟩
  · cases he.symm.trans h
  · cases hreply.symm.trans h
    cases hserved with
    | replace hxkey _ _ =>
      cases Record.key_of_object hxkey
      refine ⟨SortedMap.get?_insert_self _ _, ?_⟩
      unfold replaced
      split <;> rfl

/-- A record whose finalizer was taken off is stored without it, and what the release goes on with
was made from what is stored. -/
theorem dropFinalizer_ok (hm : m.Reachable) (hkey : key.type = Record.type)
    (hstored : Record.StoredAs m key r) {next : Record}
    (h : (dropFinalizer r).run.run Memory.answer m = (.ok next, m')) :
    next.key = key ∧ ∃ o q, m'.objects.get? key = some o ∧ Record.ofObject o = .ok q ∧
      q.hasFinalizer = false ∧ next.Derived o := by
  obtain ⟨o, hget, ho⟩ := id hstored
  have hrkey : r.key = key := hstored.key_eq hm hkey
  have hreach := hm.of_run h
  by_cases hf : r.hasFinalizer = true
  · rw [dropFinalizer, if_pos hf, Record.toObject_eq] at h
    obtain ⟨written, m₁, hask, hrest⟩ := Attempt.run_bind_inv h
    obtain ⟨hget', hfinalizers⟩ := ask_replace_record hask
    cases hw : Record.ofObject written with
    | error e =>
      rw [hw] at hrest
      cases hrest
    | ok w =>
      rw [hw] at hrest
      cases hrest
      have hget' : m'.objects.get? key = some written := hrkey ▸ hget'
      have hwithout : next.metadata.finalizerList =
          r.withoutFinalizer.metadata.finalizerList := by
        rw [Record.metadata_of_ofObject hw, Metadata.finalizerList, hfinalizers]
        rfl
      refine ⟨Record.key_of_ofObject (hreach.keyed _ _ hget') hkey hw, _, next, hget', hw, ?_,
        .read hw⟩
      rw [Record.hasFinalizer_congr hwithout, r.hasFinalizer_withoutFinalizer]
  · rw [dropFinalizer, if_neg hf] at h
    cases h
    refine ⟨hrkey, o, r, hget, ho, Bool.eq_false_iff.2 hf, ?_⟩
    exact .withoutFinalizer (.read ho)

theorem releaseResult_ok {record : Record} {e : StatusError}
    (he : ∀ missing, e ≠ .store (.notFound missing)) :
    releaseResult record (.error e) ≠ .ok () := by
  unfold releaseResult
  split
  · simp_all
  · rename_i missing h
    cases h
    exact absurd rfl (he missing)
  · simp

/-- A release that succeeds leaves the record without the finalizer of the operator, unmanaged and
with no message. -/
theorem release_ok (hm : m.Reachable) (hkey : key.type = Record.type)
    (hstored : Record.StoredAs m key r)
    (h : (release r).run.run Memory.answer m = (.ok (), m')) :
    ∃ r', Record.StoredAs m' key r' ∧ r'.hasFinalizer = false ∧
      r'.status = some ⟨some .unmanaged, ""⟩ := by
  obtain ⟨next, m₁, hdrop, hrest⟩ := Attempt.run_bind_inv h
  have hm₁ := hm.of_run hdrop
  obtain ⟨hnext, o, q, hget, hq, hfinalizer, hderived⟩ := dropFinalizer_ok hm hkey hstored hdrop
  have hstored₁ : Record.StoredAs m₁ next.key q := ⟨o, by rw [hnext]; exact hget, hq⟩
  rw [Attempt.run_lift_bind, Dialogue.run_bind] at hrest
  rcases updateStatus_cases hm₁ .unmanaged "" hstored₁ with
    ⟨e, last, f, hrun, he⟩ | ⟨written, m₂, hrun⟩
  · rw [hrun] at hrest
    exact absurd (congrArg Prod.fst hrest) (releaseResult_ok he)
  · obtain ⟨hwritten, hstatus⟩ := updateStatus_ok hm₁ hrun
    -- the update has not given the finalizer back
    obtain ⟨kept, hkept, hsame⟩ := hm₁.keeps_declaration hkey
      (fun x (hx : x ∈ [o]) => ⟨key, List.mem_singleton.1 hx ▸ hget⟩)
      (careful_updateStatus ⟨o, List.mem_singleton_self o, hderived⟩) ⟨o, hget, hq⟩
    rw [hrun] at hkept
    obtain rfl : m₂ = m' := by
      rw [hrun] at hrest
      exact congrArg Prod.snd hrest
    rw [hnext] at hwritten
    cases hwritten.unique hkept
    exact ⟨written, hwritten, hsame.hasFinalizer hfinalizer, hstatus⟩

/-- Without obstacle the finalizer is taken off with one write, which leaves the status alone. -/
theorem dropFinalizer_of_free (hm : m.Reachable) (hkey : key.type = Record.type) {o : Object}
    (hget : m.objects.get? key = some o) (ho : Record.ofObject o = .ok r)
    (hfinalizer : r.hasFinalizer = true) (hfree : (m.obstacle? .replace key).1 = none) :
    ∃ next, Record.ofObject (m.stamp (m.replaced key r.withoutFinalizer.object o)) = .ok next ∧
      next.status = r.status ∧
      (dropFinalizer r).run.run Memory.answer m = (.ok next,
        (m.write .replace key (m.replaced key r.withoutFinalizer.object o)).2) := by
  have hmetadata := Record.metadata_of_ofObject ho
  obtain ⟨next, hnext⟩ :=
    isRecord_stamp m (isRecord_replaced m key r.withoutFinalizer ⟨r, ho⟩)
  have hstatus : r.withoutFinalizer.status = r.status := rfl
  refine ⟨next, hnext, Record.status_of_replaced ho hstatus hnext, ?_⟩
  have hxkey : r.withoutFinalizer.object.key = .ok key :=
    Record.object_key_of_stored (hm.keyed _ _ hget) hkey
      (congrArg Metadata.name hmetadata :) (congrArg Metadata.ns hmetadata :)
  have hcur : isCurrent r.withoutFinalizer.object o = true :=
    isCurrent_of_version (congrArg Metadata.resourceVersion hmetadata :)
  have hask : (Attempt.ask (ReconcileError.store r.key)
      (.replace r.withoutFinalizer.object)).run.run Memory.answer m = (.ok _, _) :=
    Attempt.run_ask_ok (replace_of_free hfree hxkey hget hcur)
  rw [dropFinalizer, if_pos hfinalizer, Record.toObject_eq]
  refine (Attempt.run_bind_ok hask).trans ?_
  dsimp only
  rw [hnext]
  rfl

theorem run_release {next last : Record} {marked : Except StatusError Unit} {m₁ m₂ : Memory}
    (hdrop : (dropFinalizer r).run.run Memory.answer m = (.ok next, m₁))
    (hmark : (updateStatus .unmanaged "" next).run Memory.answer m₁ = ((marked, last), m₂)) :
    (release r).run.run Memory.answer m = (releaseResult next marked, m₂) := by
  refine (Attempt.run_bind_ok hdrop).trans ?_
  rw [Attempt.run_lift_bind, Dialogue.run_bind, hmark]
  rfl

/-- Where nothing is in the way a release goes through, and nothing else is written. -/
theorem release_clear (hclear : m.Clear key) (hm : m.Reachable) (hkey : key.type = Record.type)
    (hstored : Record.StoredAs m key r) :
    ∃ m', (release r).run.run Memory.answer m = (.ok (), m') ∧
      ∀ other, other ≠ key → m'.objects.get? other = m.objects.get? other := by
  obtain ⟨o, hget, ho⟩ := hstored
  by_cases hfinalizer : r.hasFinalizer = true
  · obtain ⟨next, hnext, -, hdrop⟩ :=
      dropFinalizer_of_free hm hkey hget ho hfinalizer (hclear .replace)
    have hclear₁ := hclear.write .replace (m.replaced key r.withoutFinalizer.object o)
    obtain ⟨written, -, hmark⟩ := updateStatus_writes hclear₁ (hm.of_run hdrop) hkey
      (SortedMap.get?_insert_self _ _) (.read hnext) (Phase.permits_unmanaged _) ""
    refine ⟨_, run_release hdrop hmark, fun other hother => ?_⟩
    exact (SortedMap.get?_insert_ne _ _ hother).trans (SortedMap.get?_insert_ne _ _ hother)
  · have hdrop : (dropFinalizer r).run.run Memory.answer m = (.ok r.withoutFinalizer, m) := by
      rw [dropFinalizer, if_neg hfinalizer]
      rfl
    obtain ⟨written, -, hmark⟩ := updateStatus_writes hclear hm hkey hget
      (.withoutFinalizer (.read ho)) (Phase.permits_unmanaged _) ""
    exact ⟨_, run_release hdrop hmark, fun other hother => SortedMap.get?_insert_ne _ _ hother⟩

/-- Where only the status write is struck by an error, a release is broken off after its first
write. -/
theorem release_interrupted (hm : m.Reachable) (hkey : key.type = Record.type) {o : Object}
    (hget : m.objects.get? key = some o) (ho : Record.ofObject o = .ok r)
    (hfinalizer : r.hasFinalizer = true) (hfree : (m.obstacle? .replace key).1 = none)
    (hconflicts : m.conflicts .replaceStatus = 0) {f : Fault}
    (hfault : m.faults.find? (fun f => f.strikes .replaceStatus key) = some f) :
    ∃ next m', (release r).run.run Memory.answer m =
        (.error (.status .unmanaged (.store f.error)), m') ∧
      Record.StoredAs m' key next ∧ next.status = r.status ∧ next.hasFinalizer = false ∧
        m'.conflicts = m.conflicts := by
  obtain ⟨next, hnext, hstatus, hdrop⟩ := dropFinalizer_of_free hm hkey hget ho hfinalizer hfree
  obtain ⟨-, o', q, hget', hq, hreleased, -⟩ := dropFinalizer_ok hm hkey ⟨o, hget, ho⟩ hdrop
  have hstored : (m.write .replace key
      (m.replaced key r.withoutFinalizer.object o)).2.objects.get? key = some _ :=
    SortedMap.get?_insert_self _ _
  cases hstored.symm.trans hget'
  cases hnext.symm.trans hq
  have hmark := updateStatus_fault (hm.of_run hdrop) hkey hstored hnext
    (Phase.permits_unmanaged _) "" hconflicts hfault
  exact ⟨next, _, run_release hdrop hmark, ⟨_, hstored, hnext⟩, hstatus, hreleased, rfl⟩

end Release

end MeshOperator
