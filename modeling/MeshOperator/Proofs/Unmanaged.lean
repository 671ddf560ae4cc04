import MeshOperator.Catalogue.All
import MeshOperator.Proofs.RecordCalls

/-!
Unmanaged for good.

Once the stored record reads unmanaged, it does so in every later state, whatever passes, releases
and status updates do in between, and whichever records they have read before. A task that holds
an older copy of the record carries an older resource version, so its write is refused; one that
holds the copy that is stored holds an unmanaged record, and no task moves such a record to another
phase.
-/

namespace MeshOperator

set_option autoImplicit false

/-! ## The phase of an object -/

/-- The phase that the status of an object reads. -/
def Object.phase? (o : Object) : Option Phase :=
  (Json.optional? RecordStatus.ofJson? o.status?).bind fun status => status.bind (·.phase)

namespace Record

theorem phase_of_ofObject {o : Object} {r : Record} (h : ofObject o = .ok r) :
    r.phase = o.phase? := by
  obtain ⟨-, -, hstatus⟩ := ofObject_eq_ok.1 h
  rw [Object.phase?, hstatus]
  rfl

theorem phase?_object (r : Record) : r.object.phase? = r.phase := by
  rw [Object.phase?, object_status, optional?_status]
  rfl

theorem phase_stage {r staged : Record} {phase : Phase} {message : String}
    (h : r.stage phase message = .ok staged) (hr : r.phase = some .unmanaged) :
    staged.phase = some .unmanaged := by
  unfold stage at h
  rw [hr] at h
  by_cases hphase : phase = .unmanaged
  · subst hphase
    have hpermits : Phase.permits (some .unmanaged) .unmanaged = true := by decide
    simp only [hpermits, if_true] at h
    cases h
    rfl
  · have hpermits : Phase.permits (some .unmanaged) phase = false := by
      simp [Phase.permits, hphase]
    simp only [hpermits, Bool.false_eq_true, if_false] at h
    cases h

theorem Derived.phase {live : Object} {r : Record} (h : r.Derived live)
    (hlive : live.phase? = some .unmanaged) : r.phase = some .unmanaged := by
  induction h with
  | read h => rw [phase_of_ofObject h, hlive]
  | staged _ hs ih => exact phase_stage hs ih
  | withoutFinalizer _ ih => exact ih

end Record

namespace Object

theorem phase?_congr {a b : Object} (h : a.status? = b.status?) : a.phase? = b.phase? := by
  rw [phase?, phase?, h]

end Object

/-! ## Writes of records -/

namespace Memory

variable {m : Memory} {key : ObjectKey} {stored : Object} {r : Record}

theorem phase?_replaced (hr : r.Derived stored) (hphase : stored.phase? = some .unmanaged) :
    (m.replaced key r.object stored).phase? = some .unmanaged := by
  unfold replaced
  split
  · rw [← hphase]
    exact Object.phase?_congr (Object.status?_withStatusOf _ _)
  · rw [← hr.phase hphase, ← r.phase?_object]
    exact Object.phase?_congr rfl

theorem phase?_withStatusOf (hr : r.Derived stored) (hphase : stored.phase? = some .unmanaged) :
    (stored.withStatusOf r.object).phase? = some .unmanaged := by
  rw [← hr.phase hphase, ← r.phase?_object]
  exact Object.phase?_congr (Object.status?_withStatusOf _ _)

end Memory

/-! ## Careful clients leave it unmanaged -/

def NoRecord (key : ObjectKey) : Prop := key.type ≠ Record.type

def SparesRecords (seen : List Object) (p : Procedure Outcome) : Prop :=
  Obeys (Careful NoRecord) anyResult p seen

/-- The default passes, releases, updates of the status of a record that was read, and syncing of
what is no record. -/
def Task.Ordinary (seen : List Object) : Task → Prop
  | .ensure resource _ => NoRecord resource.key
  | .updateStatus _ _ record => Held seen record
  | .decommission _ => True
  | .pass subsystems _ => subsystems = Catalogue.controlPlane

theorem within_controlPlane : ∀ s ∈ Catalogue.controlPlane, s.Within NoRecord := by
  intro s hs p hp c resource hbuild
  obtain ⟨m, rfl⟩ := Catalogue.fromManifest_controlPlane s hs p hp c resource hbuild
  exact m.content.kind_ne_record

theorem sparesRecords : Discipline Task.Ordinary SparesRecords where
  start seen t ht := by
    cases t with
    | ensure resource state => exact (careful_ensure ht state).bind fun _ _ _ _ => trivial
    | updateStatus phase message record => exact (careful_updateStatus ht).bind fun _ _ _ _ => trivial
    | decommission key => exact (careful_decommission key).bind fun _ _ _ _ => trivial
    | pass subsystems key =>
      cases ht
      exact (careful_reconcilePass within_controlPlane key).bind fun _ _ _ _ => trivial
  answer seen c next answer h := h.2 answer
  more seen more p hsub h := h.mono (fun hsub h => h.mono hsub) (fun _ _ => trivial) hsub

namespace System

variable {s : System} {key : ObjectKey} {o : Object} {i : Nat}

/-- An unmanaged record outlasts a call of a careful client. -/
theorem Sound.unmanaged_call (hs : s.Sound SparesRecords) (hkey : key.type = Record.type)
    (hget : s.memory.objects.get? key = some o) (hphase : o.phase? = some .unmanaged) {c : Call}
    (hc : Careful NoRecord (s.clients i).seen c) :
    ∃ o', (s.memory.answer c).2.objects.get? key = some o' ∧ o'.phase? = some .unmanaged ∧
      (o.IsRecord → o'.IsRecord) := by
  obtain ⟨o', hget', hrewritten⟩ :=
    hs.run.recorded.rewritten (hs.seen i) (fun hspared => hspared hkey) hget hc
  refine ⟨o', hget', ?_⟩
  cases hrewritten with
  | same => exact ⟨hphase, id⟩
  | whole hr =>
    refine ⟨(Object.phase?_congr rfl).trans (Memory.phase?_replaced hr hphase), fun ho => ?_⟩
    exact Memory.isRecord_stamp _ (Memory.isRecord_replaced _ _ _ ho)
  | status hr =>
    refine ⟨(Object.phase?_congr rfl).trans (Memory.phase?_withStatusOf hr hphase), fun ho => ?_⟩
    exact Memory.isRecord_stamp _ (Memory.isRecord_withStatusOf _ ho)

end System

/-! ## Unmanaged for good -/

/-- The operation leaves an object with this key there, with the same status. -/
def Memory.Operation.KeepsStatus (key : ObjectKey) (op : Operation) (m : Memory) : Prop :=
  ∀ stored, m.objects.get? key = some stored →
    ∃ edited, (op.apply m).objects.get? key = some edited ∧ edited.status? = stored.status?

/-- The operation leaves a record with this key one that can be read. -/
def Memory.Operation.KeepsRecord (key : ObjectKey) (op : Operation) (m : Memory) : Prop :=
  ∀ stored edited, m.objects.get? key = some stored → stored.IsRecord →
    (op.apply m).objects.get? key = some edited → edited.IsRecord

theorem touch_keepsStatus (key : ObjectKey) (m : Memory) :
    (Memory.Operation.touch key).KeepsStatus key m := by
  intro stored hget
  refine ⟨m.stamp stored, ?_, rfl⟩
  simp only [Memory.Operation.apply, Memory.touch, Memory.find?, hget]
  exact SortedMap.get?_insert_self _ _

theorem touch_keepsRecord (key : ObjectKey) (m : Memory) :
    (Memory.Operation.touch key).KeepsRecord key m := by
  intro stored edited hget hrecord hedited
  simp only [Memory.Operation.apply, Memory.touch, Memory.find?, hget] at hedited
  have hstamp : m.stamp stored = edited :=
    Option.some.inj ((SortedMap.get?_insert_self _ _).symm.trans hedited)
  rw [← hstamp]
  exact Memory.isRecord_stamp m hrecord

/-- A record that reads unmanaged at some time reads so ever after, under any interleaving of
tasks with edits that keep its status. If the edits keep it readable, it can be read all along. -/
theorem unmanaged_for_good {key : ObjectKey} (hkey : key.type = Record.type)
    {edits : Memory.Operation → Memory → Prop} (hedits : ∀ op m, edits op m → op.KeepsStatus key m)
    {s s' : System} (hs : s.Reachable (fun _ _ => True) Task.Ordinary)
    (hsteps : System.Steps edits Task.Ordinary s s') {o : Object} {r : Record}
    (hget : s.memory.objects.get? key = some o) (hr : Record.ofObject o = .ok r)
    (hphase : r.phase = some .unmanaged) :
    ∃ o', s'.memory.objects.get? key = some o' ∧ o'.phase? = some .unmanaged ∧
      (∀ r', Record.ofObject o' = .ok r' → r'.phase = some .unmanaged) ∧
        ((∀ op m, edits op m → op.KeepsRecord key m) → ∃ r', Record.ofObject o' = .ok r') := by
  have hall : ∃ o', s'.memory.objects.get? key = some o' ∧ o'.phase? = some .unmanaged ∧
      ((∀ op m, edits op m → op.KeepsRecord key m) → o'.IsRecord) := by
    -- along the steps; what the clients hold is sound throughout
    induction hsteps with
    | refl => exact ⟨o, hget, (Record.phase_of_ofObject hr).symm.trans hphase, fun _ => ⟨r, hr⟩⟩
    | @tail s₁ s₂ hsteps hstep ih =>
      obtain ⟨o₁, hget₁, hphase₁, hrecord₁⟩ := ih
      have hsound : s₁.Sound SparesRecords := (hs.sound sparesRecords).steps sparesRecords hsteps
      cases hstep with
      | other i op hop =>
        obtain ⟨edited, hedited, hstatus⟩ := hedits op _ hop o₁ hget₁
        refine ⟨edited, hedited, (Object.phase?_congr hstatus).trans hphase₁, fun hkeeps => ?_⟩
        exact hkeeps op _ hop o₁ edited hget₁ (hrecord₁ hkeeps) hedited
      | start i t ht => exact ⟨o₁, hget₁, hphase₁, hrecord₁⟩
      | call i c next htask =>
        obtain ⟨o₂, hget₂, hphase₂, hrecord₂⟩ :=
          hsound.unmanaged_call hkey hget₁ hphase₁ (hsound.tasks i _ htask).1
        exact ⟨o₂, hget₂, hphase₂, fun hkeeps => hrecord₂ (hrecord₁ hkeeps)⟩
  obtain ⟨o', hget', hphase', hrecord'⟩ := hall
  refine ⟨o', hget', hphase', fun r' hr' => ?_, hrecord'⟩
  exact (Record.phase_of_ofObject hr').trans hphase'

/-- One client has put a record in place, and another one has written over it that it is
unmanaged. -/
def System.overwritten : System :=
  let s := (initial .epoch).perform 0 (.insert (Record.plain none).object) none
  s.perform 1 (.insert (Record.plain (some ⟨some .unmanaged, ""⟩)).object) none

/-- The first client has begun to mark the record that it has put in place, and the other one has
touched the record since. -/
def System.outdated : System :=
  let s := overwritten.setClient 0 ⟨(overwritten.clients 0).seen,
    some (Task.updateStatus .available "" ((Record.plain none).inserted (.empty .epoch))).procedure⟩
  s.perform 1 (.touch (Record.plain none).key) (s.clients 1).task

/-- The first client is out of date, so its write is a conflict. What it then reads is unmanaged, so
it gives up. The record is unmanaged after that, and it can be read. -/
theorem unmanaged_after_stale_update :
    let key := (Record.plain none).key
    let s := System.outdated
    let s' := (s.advance 0).advance 0
    (∃ c next, (s.clients 0).task = some (Dialogue.ask c next) ∧ c.verb = .replaceStatus ∧
      (s.memory.answer c).1 = .error (.conflict key)) ∧
    (s'.clients 0).task = some (.done (.marked (.error (.forbidden .unmanaged .available)))) ∧
    ∃ o' r', s'.memory.objects.get? key = some o' ∧ Record.ofObject o' = .ok r' ∧
      r'.phase = some .unmanaged := by
  intro key s s'
  let read := (Record.plain none).inserted (.empty .epoch)
  let unmanaged := (Record.plain (some ⟨some .unmanaged, ""⟩)).inserted (.ofPlain none)
  have hread : Record.ofObject read.object = .ok read := Record.ofObject_object _
  have hget : System.overwritten.memory.objects.get? key = some unmanaged.object :=
    (Memory.ofPlain none).get?_insert_object rfl
  have hs : System.overwritten.Reachable (fun _ _ => True) Task.Ordinary :=
    ⟨.epoch, .tail (.tail .refl (.other 0 _ trivial)) (.other 1 _ trivial)⟩
  have hbegun : System.Steps (fun op _ => op = .touch key) Task.Ordinary System.overwritten s := by
    refine .tail (.tail .refl (.start 0 (.updateStatus .available "" read) ?_)) (.other 1 _ rfl)
    exact Held.read hread
  have hsteps : System.Steps (fun op _ => op = .touch key) Task.Ordinary System.overwritten s' :=
    (hbegun.advance 0).advance 0
  have hstatus : ∀ (op : Memory.Operation) m, op = .touch key → op.KeepsStatus key m := by
    rintro op m rfl
    exact touch_keepsStatus key m
  have hrecord : ∀ (op : Memory.Operation) m, op = .touch key → op.KeepsRecord key m := by
    rintro op m rfl
    exact touch_keepsRecord key m
  have hkey : key.type = Record.type := rfl
  obtain ⟨o', hget', -, hphase, hkept⟩ := unmanaged_for_good hkey hstatus hs hsteps hget
    (Record.ofObject_object _) rfl
  obtain ⟨r', hr'⟩ := hkept hrecord
  exact ⟨⟨_, _, rfl, rfl, rfl⟩, rfl, o', r', hget', hr', hphase r' hr'⟩

end MeshOperator
