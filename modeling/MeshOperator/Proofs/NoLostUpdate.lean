import MeshOperator.Proofs.Interleaving
import MeshOperator.Proofs.RecordWrites

/-!
No update is lost.

A write that carries a resource version goes through only if nothing has happened to its key since
the write that brought this version. So a task never overwrites what it has not read: it overwrites
the very object that its own was made from, or the write is refused. After a conflict it reports
the conflict, or reads the object anew and goes on with what it then gets.
-/

namespace MeshOperator

set_option autoImplicit false

/-! ## Calls that overwrite -/

namespace Memory

variable {m : Memory} {c : Call} {x : Object}

theorem overwriting_cases (hx : c.overwriting? = some x) :
    Refused m (m.answer c) ∨ (m.answer c).1.isOk = true ∧ ∃ key stored, x.key = .ok key ∧
      m.objects.get? key = some stored ∧ isCurrent x stored = true := by
  refine (m.answer_cases c).imp id fun hserved => ?_
  generalize m.answer c = result at hserved
  cases hserved with
  | replace hkey hget hcur =>
    cases hx
    exact ⟨rfl, _, _, hkey, hget, hcur⟩
  | replaceStatus hkey hget hcur =>
    cases hx
    exact ⟨rfl, _, _, hkey, hget, hcur⟩
  | _ => cases hx

theorem current_of_isOk (hx : c.overwriting? = some x) (hok : (m.answer c).1.isOk = true) :
    ∃ key stored, x.key = .ok key ∧ m.objects.get? key = some stored ∧
      isCurrent x stored = true := by
  rcases overwriting_cases hx with ⟨e, f, h⟩ | ⟨-, h⟩
  · rw [h] at hok
    cases hok
  · exact h

theorem refused_of_stale (hx : c.overwriting? = some x) {key : ObjectKey} (hkey : x.key = .ok key)
    (hstale : ∀ stored, m.objects.get? key = some stored → isCurrent x stored = false) :
    ∃ e, (m.answer c).1 = .error e ∧ (m.answer c).2.objects = m.objects := by
  rcases overwriting_cases hx with ⟨e, f, h⟩ | ⟨-, key', stored, hkey', hget, hcur⟩
  · exact ⟨e, by rw [h], by rw [h]⟩
  · cases hkey.symm.trans hkey'
    rw [hstale stored hget] at hcur
    cases hcur

/-- If nothing else stands in its way, a write that is out of date is a conflict. -/
theorem conflict_of_stale (hx : c.overwriting? = some x) {key : ObjectKey} (hkey : x.key = .ok key)
    {stored : Object} (hget : m.objects.get? key = some stored)
    (hstale : isCurrent x stored = false) (hfree : (m.obstacle? c.verb key).1 = none)
    (hstatus : c.verb = .replaceStatus → m.hasStatusSubresource key = true) :
    (m.answer c).1 = .error (.conflict key) := by
  have hover : ∀ verb result,
      (overwrite verb key x result m).1 = .error (.conflict key) := by
    intro verb result
    simp only [overwrite, find?, hget, hstale, Bool.false_eq_true, if_false]
  cases c with
  | replace object =>
    cases hx
    have hfree : (m.obstacle? .replace key).1 = none := hfree
    simp only [answer, replace, withKey, hkey, unlessObstacle_free _ hfree]
    exact hover _ _
  | replaceStatus object =>
    cases hx
    have hfree : (m.obstacle? .replaceStatus key).1 = none := hfree
    simp only [answer, replaceStatus, withKey, hkey, unlessObstacle_free _ hfree,
      hstatus rfl, if_true]
    exact hover _ _
  | _ => cases hx

end Memory

/-! ## After a conflict -/

def StoreError.conflict? : StoreError → Option ObjectKey
  | .conflict key => some key
  | _ => none

def SyncError.conflict? (e : SyncError) : Option ObjectKey := e.cause.conflict?

def StatusError.conflict? : StatusError → Option ObjectKey
  | .repeatedConflict cause | .store cause => cause.conflict?
  | .forbidden _ _ => none

def ReconcileError.conflict? : ReconcileError → Option ObjectKey
  | .store _ cause => cause.conflict?
  | .component _ (.sync cause) => cause.conflict?
  | .status _ cause => cause.conflict?
  | _ => none

/-- The key of the conflict that a task reports. -/
def Outcome.conflict? : Outcome → Option ObjectKey
  | .synced (.error e) => e.conflict?
  | .marked (.error e) => e.conflict?
  | .released (.error e) | .passed (.error e) => e.conflict?
  | _ => none

/-- What a procedure does that was refused a write: it reports so, or reads an object anew, and
then obeys the guard having seen nothing else. -/
def AfterConflict {α : Type} (guard : List Object → Call → Prop)
    (result : List Object → α → Prop) (reports : α → Prop) : Procedure α → Prop
  | .done a => reports a
  | Dialogue.ask (.get key) next =>
    ∀ answer, Obeys guard result (next answer) (Call.objects (.get key) answer)
  | Dialogue.ask _ _ => False

/-- Every conflict of a write is reported or followed by reading anew. -/
def HeedsConflicts {α : Type} (guard : List Object → Call → Prop)
    (result : List Object → α → Prop) (reports : ObjectKey → α → Prop) : Procedure α → Prop
  | .done _ => True
  | Dialogue.ask c next =>
    (∀ key x, c.overwriting? = some x →
      AfterConflict guard result (reports key) (next (.error (.conflict key)))) ∧
      ∀ answer, HeedsConflicts guard result reports (next answer)

section Conflicts

variable {α β ε δ : Type} {guard : List Object → Call → Prop} {middle : List Object → α → Prop}
  {result : List Object → β → Prop}

theorem AfterConflict.bind {p : Procedure α} {f : α → Procedure β} {reports : α → Prop}
    {reports' : β → Prop} (hp : AfterConflict guard middle reports p)
    (hdone : ∀ a, reports a → AfterConflict guard result reports' (f a))
    (hafter : ∀ seen a, middle seen a → Obeys guard result (f a) seen) :
    AfterConflict guard result reports' (p >>= f) := by
  cases p with
  | done a => exact hdone a hp
  | ask c next =>
    cases c with
    | get key => exact fun answer => (hp answer).bind fun more a _ ha => hafter more a ha
    | _ => exact hp

theorem HeedsConflicts.bind {p : Procedure α} {f : α → Procedure β} {reports : ObjectKey → α → Prop}
    {reports' : ObjectKey → β → Prop} (hp : HeedsConflicts guard middle reports p)
    (hdone : ∀ key a, reports key a → AfterConflict guard result (reports' key) (f a))
    (hafter : ∀ seen a, middle seen a → Obeys guard result (f a) seen)
    (hf : ∀ a, HeedsConflicts guard result reports' (f a)) :
    HeedsConflicts guard result reports' (p >>= f) := by
  induction p with
  | done a => exact hf a
  | ask c next ih =>
    refine ⟨fun key x hx => (hp.1 key x hx).bind (hdone key) hafter, fun answer => ?_⟩
    exact ih answer (hp.2 answer)

def ReportsIn (conflict? : ε → Option ObjectKey) (key : ObjectKey) (r : Except ε α) : Prop :=
  ∃ e, r = .error e ∧ conflict? e = some key

theorem HeedsConflicts.attempt_bind {p : Attempt ε α} {f : α → Attempt ε β}
    {conflict? : ε → Option ObjectKey} {result : List Object → Except ε β → Prop}
    (hp : HeedsConflicts guard (fun _ _ => False) (ReportsIn conflict?) p.run)
    (hf : ∀ a, HeedsConflicts guard result (ReportsIn conflict?) (f a).run) :
    HeedsConflicts guard result (ReportsIn conflict?) (p >>= f).run := by
  refine HeedsConflicts.bind hp ?_ (fun _ _ h => h.elim) ?_
  · rintro key r ⟨e, rfl, he⟩
    exact ⟨e, rfl, he⟩
  · intro r
    cases r with
    | ok a => exact hf a
    | error e => trivial

theorem Obeys.anyResult {p : Procedure α} {seen : List Object}
    (h : Obeys guard middle p seen) : Obeys guard anyResult p seen := by
  induction p generalizing seen with
  | done a => trivial
  | ask c next ih => exact ⟨h.1, fun answer => ih answer (h.2 answer)⟩

end Conflicts

section Tasks

variable {synced : ObjectKey → Prop}

abbrev Heeds {α : Type} (synced : ObjectKey → Prop) (reports : ObjectKey → α → Prop)
    (p : Procedure α) : Prop := HeedsConflicts (Careful synced) anyResult reports p

theorem heeds_ensurePresent (resource : Managed) :
    Heeds synced (ReportsIn SyncError.conflict?) (ensurePresent resource).run := by
  refine HeedsConflicts.attempt_bind ⟨by simp [Call.overwriting?], fun answer => trivial⟩
    fun live? => ?_
  cases live? with
  | none =>
    refine HeedsConflicts.attempt_bind ⟨by simp [Call.overwriting?], fun answer => trivial⟩
      fun _ => trivial
  | some live =>
    by_cases hs : resource.object.isSettled live = true
    · simp only [hs, if_true]
      trivial
    · simp only [hs]
      refine HeedsConflicts.attempt_bind ⟨?_, fun answer => trivial⟩ fun _ => trivial
      exact fun key x _ => ⟨⟨"update", resource.key, .conflict key⟩, rfl, rfl⟩

theorem heeds_ensureAbsent (key : ObjectKey) :
    Heeds synced (ReportsIn SyncError.conflict?) (ensureAbsent key).run := by
  refine HeedsConflicts.attempt_bind ⟨by simp [Call.overwriting?], fun answer => trivial⟩
    fun live? => ?_
  cases live? with
  | none => trivial
  | some live => exact ⟨by simp [Call.overwriting?], fun answer => trivial⟩

theorem heeds_writeStatus (r : Record) :
    HeedsConflicts (Careful synced) (fun _ _ => False)
      (fun key result => result = .error (.conflict key)) r.writeStatus := by
  unfold Record.writeStatus
  rw [Record.toObject_eq]
  refine ⟨fun key x _ => rfl, fun answer => ?_⟩
  cases answer with
  | ok written => trivial
  | error e =>
    cases e with
    | notFound key => exact ⟨fun key x _ => rfl, fun answer => by cases answer <;> trivial⟩
    | _ => trivial

/-- The report of a conflict by a procedure that also ends with a record. -/
def StatusReports (key : ObjectKey) (result : Except StatusError Unit × Record) : Prop :=
  ReportsIn StatusError.conflict? key result.1

theorem heeds_retryStatus (phase : Phase) (message : String) (fresh : Record) :
    Heeds synced StatusReports (retryStatus phase message fresh) := by
  unfold retryStatus
  cases fresh.stage phase message with
  | error e => trivial
  | ok staged =>
    refine (heeds_writeStatus staged).bind ?_ (fun _ _ h => h.elim) fun result => ?_
    · rintro key _ rfl
      exact ⟨.repeatedConflict (.conflict key), rfl, rfl⟩
    · cases result with
      | ok written => trivial
      | error e => cases e <;> trivial

/-- After a conflict the record is read anew, and what is written then is made from that. -/
theorem heeds_updateStatus (phase : Phase) (message : String) (r : Record) :
    Heeds synced StatusReports (updateStatus phase message r) := by
  unfold updateStatus
  cases r.stage phase message with
  | error e => trivial
  | ok staged =>
    refine (heeds_writeStatus staged).bind ?_ (fun _ _ h => h.elim) fun result => ?_
    -- the retry holds nothing but what was read after the conflict
    · rintro key _ rfl answer
      cases answer with
      | error e => trivial
      | ok object =>
        dsimp only [Dialogue.bind]
        cases hr : Record.ofObject object with
        | error e => trivial
        | ok fresh =>
          have hheld : Held ([] ++ [object]) fresh := Held.read hr
          exact (careful_retryStatus hheld).anyResult
    · cases result with
      | ok written => trivial
      | error e =>
        cases e with
        | conflict key =>
          refine ⟨by simp [Call.overwriting?], fun answer => ?_⟩
          cases answer with
          | error e => trivial
          | ok object =>
            dsimp only [Dialogue.bind]
            cases Record.ofObject object with
            | error e => trivial
            | ok fresh => exact heeds_retryStatus phase message fresh
        | _ => trivial

theorem heeds_dropFinalizer (r : Record) :
    HeedsConflicts (Careful synced) (fun _ _ => False) (ReportsIn ReconcileError.conflict?)
      (dropFinalizer r).run := by
  unfold dropFinalizer
  by_cases hf : r.hasFinalizer = true
  · rw [if_pos hf, Record.toObject_eq]
    refine HeedsConflicts.attempt_bind ⟨fun key x _ => ?_, fun answer => trivial⟩ fun written => ?_
    · exact ⟨.store r.key (.conflict key), rfl, rfl⟩
    · cases Record.ofObject written <;> trivial
  · rw [if_neg hf]
    trivial

theorem heeds_release (r : Record) :
    Heeds synced (ReportsIn ReconcileError.conflict?) (release r).run := by
  refine HeedsConflicts.attempt_bind (heeds_dropFinalizer r) fun r => ?_
  rw [Attempt.run_lift_bind]
  refine (heeds_updateStatus .unmanaged "" r).bind ?_ (fun _ _ _ => trivial) fun _ => trivial
  rintro key ⟨_, written⟩ ⟨e, rfl, he⟩
  cases e with
  | store e =>
    cases e with
    | notFound _ => cases he
    | _ => exact ⟨_, rfl, he⟩
  | _ => exact ⟨_, rfl, he⟩

theorem heeds_decommission (key : ObjectKey) :
    Heeds synced (ReportsIn ReconcileError.conflict?) (decommission key).run := by
  have hfetch : HeedsConflicts (Careful synced) (fun _ _ => False)
      (ReportsIn ReconcileError.conflict?) (fetchRecord key).run := by
    refine HeedsConflicts.attempt_bind ⟨by simp [Call.overwriting?], fun answer => trivial⟩
      fun live? => ?_
    cases live? with
    | none => trivial
    | some live =>
      dsimp only
      cases Record.ofObject live <;> trivial
  refine HeedsConflicts.attempt_bind hfetch fun r? => ?_
  cases r? with
  | none => trivial
  | some r =>
    refine HeedsConflicts.bind (heeds_release r) ?_ (fun _ a _ => ?_) fun a => ?_
    · rintro key _ ⟨e, rfl, he⟩
      exact ⟨e, rfl, he⟩
    · cases a <;> trivial
    · cases a <;> trivial

/-- A task that is about single objects, and about a record only if that was read. -/
def Task.Direct (seen : List Object) : Task → Prop
  | .ensure _ _ | .decommission _ => True
  | .updateStatus _ _ record => Held seen record
  | .pass _ _ => False

structure Direct (seen : List Object) (p : Procedure Outcome) : Prop where
  careful : Obeys (Careful fun _ => True) anyResult p seen
  heeds : Heeds (fun _ => True) (fun key outcome => outcome.conflict? = some key) p

theorem direct : Discipline Task.Direct Direct where
  start seen t ht := by
    cases t with
    | ensure resource state =>
      refine ⟨(careful_ensure trivial state).bind fun _ _ _ _ => trivial, ?_⟩
      refine HeedsConflicts.bind (?_ : Heeds _ (ReportsIn SyncError.conflict?) _) ?_
        (fun _ _ _ => trivial) fun _ => trivial
      · cases state with
        | present => exact heeds_ensurePresent resource
        | absent => exact heeds_ensureAbsent resource.key
      · rintro key _ ⟨e, rfl, he⟩
        exact he
    | updateStatus phase message record =>
      refine ⟨(careful_updateStatus ht).bind fun _ _ _ _ => trivial, ?_⟩
      refine (heeds_updateStatus phase message record).bind ?_ (fun _ _ _ => trivial)
        fun _ => trivial
      rintro key ⟨_, written⟩ ⟨e, rfl, he⟩
      exact he
    | decommission key =>
      refine ⟨(careful_decommission key).bind fun _ _ _ _ => trivial, ?_⟩
      refine (heeds_decommission key).bind ?_ (fun _ _ _ => trivial) fun _ => trivial
      rintro key _ ⟨e, rfl, he⟩
      exact he
    | pass subsystems key => exact ht.elim
  answer seen c next answer h := ⟨h.careful.2 answer, h.heeds.2 answer⟩
  more seen more p hsub h :=
    ⟨h.careful.mono (fun hsub h => h.mono hsub) (fun _ _ => trivial) hsub, h.heeds⟩

end Tasks

/-! ## No update is lost -/

open Memory in
/-- In every run of any number of clients:

* a write with a resource version only succeeds if the object stored under its key is the one that
  the write of this version stored there, and nothing happened to the key since;
* what a task writes was made from an object that its client has seen; it is written over that very
  object, and if another one is stored there by then, it is refused and changes nothing;
* a task that meets a conflict ends with it, or reads the object anew, and all it writes then is
  made from what it reads from then on. -/
theorem no_lost_update {s : System} (hs : s.Reachable (fun _ _ => True) Task.Direct) :
    (∀ c x v, c.overwriting? = some x → x.metadata.resourceVersion = some v →
      (s.memory.answer c).1.isOk = true → ∃ key stored, x.key = .ok key ∧
        s.memory.objects.get? key = some stored ∧ NamesWrite s.history key v stored) ∧
    ∀ i c next x, (s.clients i).task = some (Dialogue.ask c next) → c.overwriting? = some x →
      (∃ live ∈ (s.clients i).seen, BasedOn (fun _ => True) live x ∧ ∃ key, x.key = .ok key ∧
        ((s.memory.answer c).1.isOk = true → s.memory.objects.get? key = some live) ∧
        (s.memory.objects.get? key ≠ some live →
          ∃ e, (s.memory.answer c).1 = .error e ∧
            (s.memory.answer c).2.objects = s.memory.objects ∧
            ((s.memory.objects.get? key).isSome → (s.memory.obstacle? c.verb key).1 = none →
              (c.verb = .replaceStatus → s.memory.hasStatusSubresource key = true) →
              e = .conflict key))) ∧
      ∀ key, AfterConflict (Careful fun _ => True) anyResult
        (fun outcome => outcome.conflict? = some key) (next (.error (.conflict key))) := by
  have hsound : s.Sound Direct := hs.sound direct
  have hr : Recorded s.history s.memory := hsound.run.recorded
  refine ⟨fun c x v hx hv hok => ?_, fun i c next x htask hx => ?_⟩
  · obtain ⟨key, stored, hkey, hget, hcur⟩ := current_of_isOk hx hok
    exact ⟨key, stored, hkey, hget, hr.namesWrite hget (version_of_isCurrent hcur hv)⟩
  · have hdirect : Direct (s.clients i).seen (Dialogue.ask c next) := hsound.tasks i _ htask
    refine ⟨?_, fun key => hdirect.heeds.1 key x hx⟩
    obtain ⟨live, hlive, hbased⟩ := hdirect.careful.1.based hx
    obtain ⟨⟨v, hv⟩, other, hother⟩ := hsound.version_of_seen hlive
    obtain ⟨key, hkey⟩ := hbased.keyed hother
    have hxv : x.metadata.resourceVersion = some v := hbased.version.trans hv
    -- the versions agree only if the stored object is the one that was seen
    have hcurrent : ∀ stored, s.memory.objects.get? key = some stored →
        isCurrent x stored = true → live = stored := by
      intro stored hget hcur
      exact hsound.eq_of_version hlive hget (hv.trans (version_of_isCurrent hcur hxv).symm)
    refine ⟨live, hlive, hbased, key, hkey, fun hok => ?_, fun hne => ?_⟩
    · obtain ⟨key', stored, hkey', hget, hcur⟩ := current_of_isOk hx hok
      cases hkey.symm.trans hkey'
      rw [hget, hcurrent stored hget hcur]
    · have hstale : ∀ stored, s.memory.objects.get? key = some stored →
          isCurrent x stored = false := by
        intro stored hget
        refine Bool.eq_false_iff.2 fun hcur => hne ?_
        rw [hget, hcurrent stored hget hcur]
      obtain ⟨e, he, hobjects⟩ := refused_of_stale hx hkey hstale
      refine ⟨e, he, hobjects, fun hsome hfree hstatus => ?_⟩
      obtain ⟨stored, hget⟩ := Option.isSome_iff_exists.1 hsome
      have hconflict := conflict_of_stale hx hkey hget (hstale stored hget) hfree hstatus
      exact Except.error.inj (he.symm.trans hconflict)

namespace System

/-- A client has put a record in place and is about to mark it. -/
def marking : System :=
  let s := (initial .epoch).perform 0 (.insert (Record.plain none).object) none
  s.setClient 0 ⟨(s.clients 0).seen, some (Task.updateStatus .available ""
    ((Record.plain none).inserted (.empty .epoch))).procedure⟩

/-- Another client was faster. -/
def outpaced : System := marking.perform 1 (.touch (Record.plain none).key) none

end System

/-- What the slower client is about to write is refused as a conflict. -/
theorem outpaced_conflict :
    ∃ c next, (System.outpaced.clients 0).task = some (Dialogue.ask c next) ∧
      c.verb = .replaceStatus ∧
        (System.outpaced.memory.answer c).1 = .error (.conflict (Record.plain none).key) := by
  let read := (Record.plain none).inserted (.empty .epoch)
  let staged : Record := { read with status := some ⟨some .available, ""⟩ }
  have hread : Record.ofObject read.object = .ok read := Record.ofObject_object _
  have hs : System.outpaced.Reachable (fun _ _ => True) Task.Direct := by
    refine ⟨.epoch, .tail (.tail (.tail .refl (.other 0 (.insert (Record.plain none).object)
      trivial)) (.start 0 (.updateStatus .available "" read) ?_)) (.other 1 _ trivial)⟩
    exact Held.read hread
  have htask : ∃ next, (System.outpaced.clients 0).task =
      some (Dialogue.ask (.replaceStatus staged.object) next) := by
    obtain ⟨written, hwrite⟩ : ∃ written, staged.writeStatus =
        Dialogue.ask (.replaceStatus staged.object) written := by
      unfold Record.writeStatus
      rw [Record.toObject_eq]
      exact ⟨_, rfl⟩
    obtain ⟨f, g, hprocedure⟩ : ∃ f g, (Task.updateStatus .available "" read).procedure =
        (staged.writeStatus >>= f) >>= g := ⟨_, _, rfl⟩
    rw [hwrite] at hprocedure
    exact ⟨_, congrArg some hprocedure⟩
  obtain ⟨next, htask⟩ := htask
  obtain ⟨-, hwrites⟩ := no_lost_update hs
  obtain ⟨⟨live, hlive, -, key, hkey, -, hstale⟩, -⟩ := hwrites 0 _ next _ htask rfl
  have hlive : live = read.object := List.mem_singleton.1 hlive
  have hsame : key = (Record.plain none).key := by
    rw [Record.object_key staged rfl] at hkey
    exact (Except.ok.inj hkey).symm
  subst hlive hsame
  let before := Memory.ofPlain none
  have hget : System.outpaced.memory.objects.get? (Record.plain none).key =
      some (before.stamp read.object) := by
    show (before.touch (Record.plain none).key).2.objects.get? _ = _
    rw [Memory.touch, Memory.find?, Memory.get?_ofPlain]
    exact SortedMap.get?_insert_self _ _
  have hne : some (before.stamp read.object) ≠ some read.object := by
    intro h
    have hversion := congrArg (fun o : Object => o.metadata.resourceVersion) (Option.some.inj h)
    exact absurd hversion (by decide)
  rw [hget] at hstale
  obtain ⟨e, he, -, hconflict⟩ := hstale hne
  refine ⟨_, next, htask, rfl, ?_⟩
  rw [he, hconflict rfl rfl fun _ => rfl]

end MeshOperator
