import MeshOperator.Proofs.Decommission
import MeshOperator.Proofs.NoLostUpdate
import MeshOperator.Proofs.StatusApart

/-!
Updates of the status from an old copy of the record.

The caller may hold the record as it was long ago. Its resource version tells: either the record is
still what it was, and the first attempt goes through, or that is a conflict, the record is read
again and the second attempt goes through. Both ways what is stored gets the new status and nothing
else, and the caller holds it as it is stored.
-/

namespace MeshOperator

set_option autoImplicit false

open Memory

/-! ## Copies of stored objects -/

namespace Memory

variable {m : Memory} {key : ObjectKey}

theorem Run.applyAll {h : List Effect} (hrun : Run h m) (ops : List Operation) :
    ∃ later, Run (h ++ later) (applyAll ops m) := by
  induction ops generalizing h m with
  | nil => exact ⟨[], by rwa [List.append_nil]⟩
  | cons op rest ih =>
    obtain ⟨later, hlater⟩ := ih (hrun.step op)
    rw [List.append_assoc] at hlater
    exact ⟨_, hlater⟩

theorem Reachable.applyAll (hm : m.Reachable) (ops : List Operation) :
    (applyAll ops m).Reachable := by
  obtain ⟨h, hrun⟩ := hm
  obtain ⟨later, hlater⟩ := hrun.applyAll ops
  exact ⟨_, hlater⟩

/-- What was made from an object that was stored once is up to date only over that very object. -/
theorem Reachable.eq_of_copy (hm : m.Reachable) {ops : List Operation} {other : ObjectKey}
    {copy stored x : Object} (hcopy : m.objects.get? other = some copy)
    (hget : (Memory.applyAll ops m).objects.get? key = some stored)
    (hversion : x.metadata.resourceVersion = copy.metadata.resourceVersion)
    (hcur : isCurrent x stored = true) : copy = stored := by
  obtain ⟨h, hrun⟩ := hm
  obtain ⟨later, hlater⟩ := hrun.applyAll ops
  have hwrote := hrun.recorded.mem_history hcopy
  obtain ⟨n, -, hv⟩ := hrun.recorded.numbered other copy hwrote
  have hsame := version_of_isCurrent hcur (hversion.trans hv)
  have hwrote' : .wrote other copy ∈ h ++ later := List.mem_append_left _ hwrote
  exact (hlater.recorded.eq_of_version hwrote' (hlater.recorded.mem_history hget)
    (hv.trans hsame.symm)).2

theorem overwrite_stale {x stored : Object} (hget : m.objects.get? key = some stored)
    (hstale : isCurrent x stored = false) (verb : Verb) (result : Object → Object) :
    m.overwrite verb key x result = (.error (.conflict key), m) := by
  rw [overwrite, find?, hget]
  exact if_neg (Bool.eq_false_iff.1 hstale)

end Memory

/-! ## What is stored -/

namespace Record

variable {m : Memory} {key : ObjectKey} {o : Object} {r q : Record} {phase : Phase}
  {message : String}

/-- The record as it is stored once it was written with this status. -/
def updated (m : Memory) (r : Record) (phase : Phase) (message : String) : Record :=
  { r.withStatus phase message with
    metadata := { r.metadata with resourceVersion := some (toString (m.revision + 1)) } }

theorem ofObject_marked (ho : ofObject o = .ok q) (m : Memory) (key : ObjectKey) (phase : Phase)
    (message : String) :
    ofObject (m.stamp (m.marked key (q.withStatus phase message) o)) =
      .ok (q.updated m phase message) := by
  have hmetadata := metadata_of_ofObject ho
  obtain ⟨-, hspec, -⟩ := ofObject_eq_ok.1 ho
  obtain ⟨-, hspec', -⟩ := ofObject_eq_ok.1 (q.withStatus phase message).ofObject_object
  refine ofObject_eq_ok.2 ⟨?_, ?_, ?_⟩
  · -- the whole record takes its identity from the stored object, which it was read from
    unfold marked replaced
    split <;> simp only [updated, withStatus, stamp, Object.withStatusOf, object_metadata, hmetadata]
  · unfold marked replaced
    split
    · exact (congrArg (·.bind Declaration.ofJson?) (Object.spec_withStatusOf _ _)).trans hspec
    · exact hspec'
  · have hstatus : (m.stamp (m.marked key (q.withStatus phase message) o)).status? =
        (q.withStatus phase message).status.map (·.toJson) := m.status?_marked key _ o
    rw [hstatus, optional?_status]
    rfl

/-! ## Both attempts -/

/-- Writing the status of an old copy is a conflict, whether it goes alone or with the whole
record. -/
theorem writeStatus_stale (hclear : m.Clear key)
    (hkey : r.object.key = .ok key) (hget : m.objects.get? key = some o)
    (hstale : isCurrent r.object o = false) :
    r.writeStatus.run Memory.answer m = (.error (.conflict key), m) := by
  by_cases hstatus : m.hasStatusSubresource key = true
  · have hanswer : m.answer (.replaceStatus r.object) = (.error (.conflict key), m) := by
      show m.replaceStatus r.object = _
      rw [Memory.replaceStatus, withKey, hkey]
      dsimp only
      rw [unlessObstacle_free _ (hclear .replaceStatus), if_pos hstatus, overwrite_stale hget hstale]
    exact run_writeStatus_error hanswer rfl
  · have hanswer : m.answer (.replace r.object) = (.error (.conflict key), m) := by
      show m.replace r.object = _
      rw [Memory.replace, withKey, hkey]
      dsimp only
      rw [unlessObstacle_free _ (hclear .replace), overwrite_stale hget hstale]
    have hrun := run_writeStatus_notFound
      (replaceStatus_none_of_free (hclear .replaceStatus) hkey (Bool.eq_false_iff.2 hstatus))
    rw [hanswer] at hrun
    exact hrun

end Record

section Updates

variable {m : Memory} {key : ObjectKey} {o : Object} {r q : Record} {phase : Phase}

/-- The second attempt writes what is stored with the new status. -/
theorem retryStatus_writes (hclear : m.Clear key) (hm : m.Reachable)
    (hkey : key.type = Record.type) (hget : m.objects.get? key = some o)
    (ho : Record.ofObject o = .ok q) (hpermits : Phase.permits q.phase phase = true)
    (message : String) :
    (retryStatus phase message q).run Memory.answer m = ((.ok (), q.updated m phase message),
      (m.write (m.statusVerb key) key (m.marked key (q.withStatus phase message) o)).2) := by
  have hstaged : (q.withStatus phase message).Derived o :=
    .staged (.read ho) (Record.stage_permitted hpermits message)
  obtain ⟨written, hwritten, hrun⟩ := Record.writeStatus_clear hclear hm hkey hget hstaged
  cases hwritten.symm.trans (Record.ofObject_marked ho m key phase message)
  unfold retryStatus
  rw [Record.stage_permitted hpermits]
  dsimp only
  rw [Dialogue.run_bind, hrun]
  rfl

/-- An update from an old copy ends as the second attempt does. -/
theorem updateStatus_stale (hclear : m.Clear key)
    (hkey : r.object.key = .ok key) (hget : m.objects.get? key = some o)
    (ho : Record.ofObject o = .ok q) (hstale : isCurrent r.object o = false)
    (hpermits : Phase.permits r.phase phase = true) (message : String) :
    (updateStatus phase message r).run Memory.answer m =
      (retryStatus phase message q).run Memory.answer m := by
  have hwrite : (r.withStatus phase message).writeStatus.run Memory.answer m =
      (.error (.conflict key), m) := Record.writeStatus_stale hclear hkey hget hstale
  have hstaged : (r.withStatus phase message).key = key := (Record.key_of_object hkey).symm
  have hanswer : m.answer (.get key) = (.ok o, m) := by
    rw [get_of_free (hclear .get), find?, hget]
  unfold updateStatus
  rw [Record.stage_permitted hpermits]
  dsimp only
  rw [Dialogue.run_bind, hwrite]
  dsimp only
  rw [Dialogue.run_bind, Procedure.run_ask, hstaged, hanswer]
  dsimp only
  rw [ho]

/-- An update of the status from what was stored once writes what is stored now, with the new status:
the old copy only has to be of the same key. -/
theorem updateStatus_of_copy {m₀ : Memory} {ops : List Operation} (hm : m₀.Reachable)
    (hkey : key.type = Record.type) {copy : Object} (hcopy : m₀.objects.get? key = some copy)
    (hr : Record.ofObject copy = .ok r) (hops : applyAll ops m₀ = m) (hclear : m.Clear key)
    (hget : m.objects.get? key = some o) (ho : Record.ofObject o = .ok q)
    (hheld : Phase.permits r.phase phase = true) (hpermits : Phase.permits q.phase phase = true)
    (message : String) :
    (updateStatus phase message r).run Memory.answer m = ((.ok (), q.updated m phase message),
      (m.write (m.statusVerb key) key (m.marked key (q.withStatus phase message) o)).2) := by
  subst hops
  have hreach := hm.applyAll ops
  have hmetadata := Record.metadata_of_ofObject hr
  by_cases hcur : isCurrent r.object o = true
  · -- nothing was done to the record meanwhile
    have hversion : r.object.metadata.resourceVersion = copy.metadata.resourceVersion :=
      congrArg Metadata.resourceVersion hmetadata
    obtain rfl : copy = o := hm.eq_of_copy hcopy hget hversion hcur
    cases hr.symm.trans ho
    obtain ⟨written, hwritten, hrun⟩ :=
      updateStatus_writes hclear hreach hkey hget (.read ho) hpermits message
    cases hwritten.symm.trans (Record.ofObject_marked ho (applyAll ops m₀) key phase message)
    exact hrun
  · have hxkey : r.object.key = .ok key :=
      Record.object_key_of_stored (hm.keyed _ _ hcopy) hkey (congrArg Metadata.name hmetadata)
        (congrArg Metadata.ns hmetadata)
    exact (updateStatus_stale hclear hxkey hget ho
      (Bool.eq_false_iff.2 hcur) hheld message).trans
        (retryStatus_writes hclear hreach hkey hget ho hpermits message)

end Updates

/-- Whatever was done to a store since a record was read from it, if a record is still kept under
that key and the new phase is one that both the old copy and the stored record may take on:

* where nothing is arranged an update of the status from the old copy succeeds; the stored record
  then is the one that was stored, with the new status and a new resource version, the caller holds
  exactly that record, one write was made and no other object has changed;
* whatever is arranged, an update that fails has written nothing. -/
theorem updateStatus_coherent {m₀ : Memory} (hm : m₀.Reachable) {key : ObjectKey}
    (hkey : key.type = Record.type) {r q : Record} (hread : Record.StoredAs m₀ key r)
    (ops : List Operation) (hstored : Record.StoredAs (applyAll ops m₀) key q) (phase : Phase)
    (message : String) :
    ((applyAll ops m₀).Quiet → Phase.permits r.phase phase = true →
      Phase.permits q.phase phase = true →
        ∃ m', (updateStatus phase message r).run Memory.answer (applyAll ops m₀) =
            ((.ok (), q.updated (applyAll ops m₀) phase message), m') ∧
          Record.StoredAs m' key (q.updated (applyAll ops m₀) phase message) ∧
          m'.revision = (applyAll ops m₀).revision + 1 ∧
          m'.journal = (applyAll ops m₀).journal ++ [⟨(applyAll ops m₀).statusVerb key, key⟩] ∧
          ∀ other, other ≠ key →
            m'.objects.get? other = (applyAll ops m₀).objects.get? other) ∧
      ∀ e last m', (updateStatus phase message r).run Memory.answer (applyAll ops m₀) =
          ((.error e, last), m') → (applyAll ops m₀).Unwritten m' := by
  have hreach := hm.applyAll ops
  generalize hops : applyAll ops m₀ = m at hstored hreach ⊢
  refine ⟨fun hq hheld hpermits => ?_, fun e last m' hrun => ?_⟩
  · obtain ⟨copy, hcopy, hr⟩ := hread
    obtain ⟨o, hget, ho⟩ := hstored
    exact ⟨_, updateStatus_of_copy hm hkey hcopy hr hops (hq.clear key) hget ho hheld hpermits message,
      ⟨_, SortedMap.get?_insert_self _ _, Record.ofObject_marked ho m key phase message⟩,
      rfl, rfl, fun other hother => SortedMap.get?_insert_ne _ _ hother⟩
  · rw [← hread.key_eq hm hkey] at hstored
    rcases updateStatus_cases hreach phase message hstored with
      ⟨e', last', f, hfoiled, -⟩ | ⟨written, m₁, hok⟩
    · cases hfoiled.symm.trans hrun
      exact ⟨rfl, rfl, rfl⟩
    · cases hok.symm.trans hrun

/-- A plain record was touched after it was read, and its kind has lost the status subresource: its
status goes through with the second attempt, by a full write. -/
theorem updateStatus_coherent_ofPlain :
    let key := (Record.plain none).key
    let m := applyAll [.touch key, .withoutStatus Record.type.kind] (ofPlain none)
    let r := (Record.plain none).inserted (.empty .epoch)
    ∃ written m', (updateStatus .available "" r).run Memory.answer m = ((.ok (), written), m') ∧
      Record.StoredAs m' key written ∧ written.status = some ⟨some .available, ""⟩ ∧
        written.metadata.resourceVersion = some "3" ∧ m'.journal = [⟨.replace, key⟩] := by
  intro key m r
  have hm : m = ((ofPlain none).store key r.object).withoutStatus Record.type.kind := by
    show ((ofPlain none).touch key).2.withoutStatus _ = _
    rw [touch, find?, get?_ofPlain]
  have hget : m.objects.get? key = some ((ofPlain none).stamp r.object) := by
    rw [hm]
    exact SortedMap.get?_insert_self _ _
  have hquiet : m.Quiet := by
    rw [hm]
    exact ⟨(quiet_ofPlain none).faults, (quiet_ofPlain none).conflicts⟩
  have hrevision : m.revision = 2 := by
    rw [hm]
    rfl
  have hjournal : m.journal = [] := by
    rw [hm]
    rfl
  have hverb : m.statusVerb key = .replace := by
    rw [hm]
    rfl
  obtain ⟨q, hq⟩ := isRecord_stamp (ofPlain none) ⟨r, Record.ofObject_object r⟩
  have hphase : q.phase = none := by
    have hstatus : q.status = none := Record.status_of_ofObject hq (r.object_status :)
    rw [Record.phase, hstatus]
    rfl
  have hcoherent := updateStatus_coherent (reachable_ofPlain none) rfl (Record.storedAs_ofPlain none)
    [.touch key, .withoutStatus Record.type.kind] ⟨_, hget, hq⟩ .available ""
  obtain ⟨m', hrun, hstored', -, hwritten, -⟩ := hcoherent.1 hquiet rfl (by rw [hphase]; rfl)
  refine ⟨_, m', hrun, hstored', rfl, ?_, ?_⟩
  · show some (toString (m.revision + 1)) = _
    rw [hrevision]
    rfl
  · rw [hwritten]
    show m.journal ++ [⟨m.statusVerb key, key⟩] = _
    rw [hjournal, hverb]
    rfl

end MeshOperator
