import Mathlib.Data.List.Basic
import MeshOperator.Proofs.Decommission

/-!
Letting go of all listed records.

The records are let go of one after another, in the order of the list, and each decommission only
writes to its own record. So what lies behind is let go of, what lies ahead is still as it was
listed, and where the walk is broken off only the record that it has come to can be in between:
without the finalizer of the operator, but with its old status.
-/

namespace MeshOperator

set_option autoImplicit false

open Memory

/-! ## One record -/

/-- What a decommission that fails can leave of an object: the object as it is, or a record that has
lost the finalizer of the operator and still has its status. -/
inductive Memory.Interrupted (m m' : Memory) (key : ObjectKey) : Prop where
  | untouched (hobject : m'.objects.get? key = m.objects.get? key)
  | unmarked {r r' : Record} (hstored : Record.StoredAs m key r)
      (hstored' : Record.StoredAs m' key r') (hsame : r.SameDeclaration r')
      (hfinalizer : r'.hasFinalizer = false) (hstatus : r'.status = r.status)

/-- The record that was stored under this key was let go of. -/
def Memory.LetGo (m m' : Memory) (key : ObjectKey) : Prop :=
  ∃ r r', Record.StoredAs m key r ∧ Record.StoredAs m' key r' ∧ r.Released r'

/-- The stores differ at most in what is kept under this key. -/
def Memory.SameBut (key : ObjectKey) (m m' : Memory) : Prop :=
  ∀ other, other ≠ key → m'.objects.get? other = m.objects.get? other

section One

variable {m m' : Memory} {key : ObjectKey} {o : Object} {r : Record}

theorem Memory.SameBut.trans {m'' : Memory} (h : SameBut key m m') (h' : SameBut key m' m'') :
    SameBut key m m'' := fun other hother => (h' other hother).trans (h other hother)

theorem Memory.sameBut_write (m : Memory) (verb : Verb) (key : ObjectKey) (x : Object) :
    SameBut key m (m.write verb key x).2 := fun _ hother => SortedMap.get?_insert_ne _ _ hother

theorem updateStatus_sameBut (hm : m.Reachable) (phase : Phase) (message : String)
    (hkey : r.key = key) :
    SameBut key m ((updateStatus phase message r).run Memory.answer m).2 := by
  have hstep := updateStatus_step hm phase message r
  generalize (updateStatus phase message r).run Memory.answer m = result at hstep
  cases hstep with
  | foiled e last f _ => exact fun _ _ => rfl
  | wrote f hget _ _ =>
    subst hkey
    exact sameBut_write _ _ _ _

/-- Taking the finalizer off is foiled, or it leaves the record as it is or without the finalizer,
with the status that it had. -/
theorem dropFinalizer_cases (hm : m.Reachable) (hkey : key.type = Record.type)
    (hget : m.objects.get? key = some o) (ho : Record.ofObject o = .ok r) :
    Foiled m ((dropFinalizer r).run.run Memory.answer m) ∨
      ∃ next m₁, (dropFinalizer r).run.run Memory.answer m = (.ok next, m₁) ∧ SameBut key m m₁ ∧
        (m₁ = m ∨ ∃ q, Record.StoredAs m₁ key q ∧ q.status = r.status) := by
  have hrkey : r.key = key := Record.key_of_ofObject (hm.keyed _ _ hget) hkey ho
  unfold dropFinalizer
  by_cases hfinalizer : r.hasFinalizer = true
  · rw [if_pos hfinalizer, Record.toObject_eq]
    rcases m.ask_cases (ReconcileError.store r.key) (.replace r.withoutFinalizer.object) with
      hfoiled | ⟨written, m₁, hask, hserved⟩
    · exact .inl hfoiled.bind
    · cases hserved with
      | @replace _ stored written hxkey hstored hcur =>
        obtain rfl : written = key := (Record.key_of_object hxkey).trans hrkey
        cases hget.symm.trans hstored
        obtain ⟨next, hnext⟩ :=
          isRecord_stamp m (isRecord_replaced m written r.withoutFinalizer ⟨r, ho⟩)
        have hstatus : r.withoutFinalizer.status = r.status := rfl
        refine .inr ⟨next, _, (Attempt.run_bind_ok hask).trans ?_, sameBut_write m .replace _ _, .inr
          ⟨next, ⟨_, SortedMap.get?_insert_self _ _, hnext⟩,
            Record.status_of_replaced ho hstatus hnext⟩⟩
        dsimp only
        rw [hnext]
        rfl
  · rw [if_neg hfinalizer]
    exact .inr ⟨_, m, rfl, fun _ _ => rfl, .inl rfl⟩

/-- A release goes through, or it leaves the record as it is or without the finalizer, with the
status that it had. Nothing else is written. -/
theorem release_cases (hm : m.Reachable) (hkey : key.type = Record.type)
    (hget : m.objects.get? key = some o) (ho : Record.ofObject o = .ok r) :
    ∃ result m', (release r).run.run Memory.answer m = (result, m') ∧ SameBut key m m' ∧
      (result = .ok () ∨ m'.objects.get? key = m.objects.get? key ∨
        ∃ q, Record.StoredAs m' key q ∧ q.hasFinalizer = false ∧ q.status = r.status) := by
  rcases dropFinalizer_cases hm hkey hget ho with hfoiled | ⟨next, m₁, hdrop, hframe, hstep⟩
  · have hrelease : Foiled m ((release r).run.run Memory.answer m) := hfoiled.bind
    obtain ⟨e, f, he⟩ := hrelease
    exact ⟨_, _, he, fun _ _ => rfl, .inr (.inl rfl)⟩
  · have hm₁ := hm.of_run hdrop
    obtain ⟨hnext, o₁, q, hget₁, hq, hfinalizer, -⟩ := dropFinalizer_ok hm hkey ⟨o, hget, ho⟩ hdrop
    have hstored₁ : Record.StoredAs m₁ next.key q := ⟨o₁, hnext.symm ▸ hget₁, hq⟩
    rcases updateStatus_cases hm₁ .unmanaged "" hstored₁ with
      ⟨e, last, f, hmark, -⟩ | ⟨written, m₂, hmark⟩
    · refine ⟨_, _, run_release hdrop hmark, hframe, .inr ?_⟩
      rcases hstep with rfl | ⟨q', hstored', hstatus⟩
      · exact .inl rfl
      · cases hstored'.unique ⟨o₁, hget₁, hq⟩
        exact .inr ⟨q, hstored', hfinalizer, hstatus⟩
    · have hframe' := updateStatus_sameBut hm₁ .unmanaged "" hnext
      rw [hmark] at hframe'
      exact ⟨_, _, run_release hdrop hmark, hframe.trans hframe', .inl rfl⟩

/-- All that a decommission can do, whatever is arranged. -/
inductive Decommission (m : Memory) (key : ObjectKey) :
    Except ReconcileError Bool × Memory → Prop where
  | missing (hget : m.objects.get? key = none) : Decommission m key (.ok false, m)
  | done {m' : Memory} (hgone : m.LetGo m' key) (hframe : SameBut key m m') :
      Decommission m key (.ok true, m')
  | failed (e : ReconcileError) {m' : Memory} (hleft : m.Interrupted m' key)
      (hframe : SameBut key m m') : Decommission m key (.error e, m')

theorem Decommission.of_foiled {result : Except ReconcileError Bool × Memory}
    (h : Foiled m result) : Decommission m key result := by
  obtain ⟨e, f, rfl⟩ := h
  exact .failed e (.untouched rfl) fun _ _ => rfl

theorem decommission_stored (hm : m.Reachable) (hkey : key.type = Record.type)
    (hget : m.objects.get? key = some o) (ho : Record.ofObject o = .ok r)
    (hfetch : (fetchRecord key).run.run Memory.answer m = (.ok (some r), m)) :
    Decommission m key ((decommission key).run.run Memory.answer m) := by
  obtain ⟨result, m', hrelease, hframe, hleft⟩ := release_cases hm hkey hget ho
  have hrun := run_decommission hfetch hrelease
  rw [hrun]
  cases result with
  | ok _ =>
    obtain ⟨-, r', hstored', hreleased⟩ := decommission_ok hm hkey ⟨o, hget, ho⟩ hrun
    exact .done ⟨r, r', ⟨o, hget, ho⟩, hstored', hreleased⟩ hframe
  | error e =>
    refine .failed e ?_ hframe
    rcases hleft with hok | hobject | ⟨q, hq, hfinalizer, hstatus⟩
    · cases hok
    · exact .untouched hobject
    · obtain ⟨kept, hkept, hsame⟩ := hm.keeps_declaration hkey (List.forall_mem_nil _)
        (careful_decommission key) ⟨o, hget, ho⟩
      rw [hrun] at hkept
      cases hkept.unique hq
      exact .unmarked ⟨o, hget, ho⟩ hq hsame hfinalizer hstatus

theorem decommission_step (hm : m.Reachable) (hkey : key.type = Record.type) :
    Decommission m key ((decommission key).run.run Memory.answer m) := by
  rcases m.find_cases (ReconcileError.store key) key with
    hfoiled | ⟨hnone, hfind⟩ | ⟨o, hget, hfind⟩
  · have hfetch : Foiled m ((fetchRecord key).run.run Memory.answer m) := hfoiled.bind
    exact .of_foiled hfetch.bind
  · have hfetch : (fetchRecord key).run.run Memory.answer m = (.ok none, m) :=
      Attempt.run_bind_ok hfind
    have hrun : (decommission key).run.run Memory.answer m = (.ok false, m) :=
      Attempt.run_bind_ok hfetch
    rw [hrun]
    exact .missing hnone
  · cases ho : Record.ofObject o with
    | ok r => exact decommission_stored hm hkey hget ho (run_fetchRecord hfind ho)
    | error e =>
      have hfetch : (fetchRecord key).run.run Memory.answer m = (.error (.store key e), m) := by
        refine (Attempt.run_bind_ok hfind).trans ?_
        dsimp only
        rw [ho]
        rfl
      have hrun : (decommission key).run.run Memory.answer m = (.error (.store key e), m) :=
        Attempt.run_bind_error hfetch
      rw [hrun]
      exact .failed _ (.untouched rfl) fun _ _ => rfl

end One

/-! ## The walk along the list -/

/-- A walk along these keys has come to its end: they were let go of, and everything else is as it
was. -/
structure Memory.WalkedAlong (m m' : Memory) (keys : List ObjectKey) : Prop where
  behind : ∀ key ∈ keys, m.LetGo m' key
  apart : ∀ key ∉ keys, m'.objects.get? key = m.objects.get? key

/-- How far a walk along these keys has come: those before `here` were let go of, at `here` it was
broken off, and everything else is as it was. -/
structure Memory.BrokenOff (m m' : Memory) (before : List ObjectKey) (here : ObjectKey) : Prop where
  behind : ∀ key ∈ before, m.LetGo m' key
  stopped : m.Interrupted m' here
  ahead : ∀ key, key ∉ before → key ≠ here → m'.objects.get? key = m.objects.get? key

section Walk

variable {m m₁ m' : Memory} {key : ObjectKey} {ns : Option String}
  {listed : List (ObjectKey × Object)}

theorem Memory.LetGo.of_frame (h : m₁.LetGo m' key)
    (hget : m₁.objects.get? key = m.objects.get? key) : m.LetGo m' key := by
  obtain ⟨r, r', hstored, hrest⟩ := h
  exact ⟨r, r', hstored.congr hget.symm, hrest⟩

theorem Memory.LetGo.congr (h : m.LetGo m₁ key)
    (hget : m'.objects.get? key = m₁.objects.get? key) : m.LetGo m' key := by
  obtain ⟨r, r', hstored, hstored', hreleased⟩ := h
  exact ⟨r, r', hstored, hstored'.congr hget, hreleased⟩

theorem Memory.Interrupted.of_frame (h : m₁.Interrupted m' key)
    (hget : m₁.objects.get? key = m.objects.get? key) : m.Interrupted m' key := by
  cases h with
  | untouched hobject => exact .untouched (hobject.trans hget)
  | unmarked hstored hstored' hsame hfinalizer hstatus =>
    exact .unmarked (hstored.congr hget.symm) hstored' hsame hfinalizer hstatus

/-- The first step of a walk that comes to its end. -/
theorem Memory.WalkedAlong.cons {keys : List ObjectKey} (hgone : m.LetGo m₁ key)
    (hframe : SameBut key m m₁) (h : m₁.WalkedAlong m' keys) (hfresh : key ∉ keys) :
    m.WalkedAlong m' (key :: keys) where
  behind := by
    refine List.forall_mem_cons.2 ⟨hgone.congr (h.apart key hfresh), fun other hother => ?_⟩
    exact (h.behind other hother).of_frame (hframe other fun heq => hfresh (heq ▸ hother))
  apart := by
    intro other hother
    exact (h.apart other (List.not_mem_of_not_mem_cons hother)).trans
      (hframe other (List.ne_of_not_mem_cons hother))

/-- The first step of a walk that was broken off later. -/
theorem Memory.BrokenOff.cons {before : List ObjectKey} {here : ObjectKey}
    (hgone : m.LetGo m₁ key) (hframe : SameBut key m m₁) (h : m₁.BrokenOff m' before here)
    (hbefore : key ∉ before) (hhere : key ≠ here) : m.BrokenOff m' (key :: before) here where
  behind := by
    refine List.forall_mem_cons.2 ⟨hgone.congr (h.ahead key hbefore hhere), fun other hother => ?_⟩
    exact (h.behind other hother).of_frame (hframe other fun heq => hbefore (heq ▸ hother))
  stopped := h.stopped.of_frame (hframe here hhere.symm)
  ahead := by
    intro other hother hne
    exact (h.ahead other (List.not_mem_of_not_mem_cons hother) hne).trans
      (hframe other (List.ne_of_not_mem_cons hother))

/-- Only the record that the walk has come to can be neither as it was nor let go of. -/
theorem Memory.BrokenOff.here_eq {before : List ObjectKey} {here : ObjectKey}
    (h : m.BrokenOff m' before here) (hchanged : m'.objects.get? key ≠ m.objects.get? key)
    (hkept : ¬m.LetGo m' key) : here = key := by
  by_contra hne
  exact hchanged (h.ahead key (fun hmem => hkept (h.behind key hmem)) (Ne.symm hne))

/-- The objects of these entries are stored under their keys, and the keys are those of records. -/
def Memory.HoldsRecords (m : Memory) (listed : List (ObjectKey × Object)) : Prop :=
  ∀ e ∈ listed, m.objects.get? e.1 = some e.2 ∧ e.1.type = Record.type

/-- One step of a walk leaves the rest of the list alone. -/
theorem Memory.HoldsRecords.of_frame (h : m.HoldsRecords listed) (hframe : SameBut key m m₁)
    (hkey : key ∉ listed.map (·.1)) : m₁.HoldsRecords listed := by
  intro e he
  have hne : e.1 ≠ key := fun heq => hkey (List.mem_map.2 ⟨e, he, heq⟩)
  exact ⟨(hframe e.1 hne).trans (h e he).1, (h e he).2⟩

theorem run_releaseListed {result : Except ReconcileError Bool} {o : Object} {rest : List Object}
    {n : Nat} (hkey : o.key = .ok key)
    (h : (decommission key).run.run Memory.answer m = (result, m₁)) :
    (releaseListed ns (o :: rest) n).run.run Memory.answer m =
      match result with
      | .ok found => (releaseListed ns rest (if found then n + 1 else n)).run.run Memory.answer m₁
      | .error e => (.error e, m₁) := by
  rw [releaseListed, hkey]
  cases result with
  | ok found => exact Attempt.run_bind_ok h
  | error e => exact Attempt.run_bind_error h

/-- A walk that ends has let go of all listed records and counted them, and a walk that is broken
off has come as far as one of them. Nothing else is written. -/
theorem releaseListed_step (hm : m.Reachable) (hlisted : m.HoldsRecords listed)
    (hnodup : (listed.map (·.1)).Nodup) (n : Nat) {result : Except ReconcileError Nat}
    (h : (releaseListed ns (listed.map (·.2)) n).run.run Memory.answer m = (result, m')) :
    match result with
    | .ok count => count = n + listed.length ∧ m.WalkedAlong m' (listed.map (·.1))
    | .error _ => ∃ before here after, listed.map (·.1) = before ++ here :: after ∧
        m.BrokenOff m' before here := by
  induction listed generalizing m n with
  | nil =>
    cases h
    exact ⟨rfl, List.forall_mem_nil _, fun _ _ => rfl⟩
  | cons entry rest ih =>
    obtain ⟨key, o⟩ := entry
    obtain ⟨⟨hget, hkey⟩, hrest⟩ := List.forall_mem_cons.1 hlisted
    have hrest : m.HoldsRecords rest := hrest
    obtain ⟨hfresh, hnodup'⟩ := List.nodup_cons.1 hnodup
    have hstep := decommission_step hm hkey
    generalize hrun : (decommission key).run.run Memory.answer m = outcome at hstep
    obtain ⟨outcome, m₁⟩ := outcome
    have hm₁ := hm.of_run hrun
    rw [List.map_cons, run_releaseListed (hm.keyed _ _ hget) hrun] at h
    cases hstep with
    | missing hnone => cases hnone.symm.trans hget
    | failed e hleft hframe =>
      cases h
      exact ⟨[], key, rest.map (·.1), rfl, by simp, hleft, fun other _ hne => hframe other hne⟩
    | done hgone hframe =>
      have hwalk := ih hm₁ (hrest.of_frame hframe hfresh) hnodup' (n + 1) h
      cases result with
      | ok count =>
        obtain ⟨hcount, hwalked⟩ := hwalk
        refine ⟨?_, .cons hgone hframe hwalked hfresh⟩
        rw [hcount, List.length_cons]
        omega
      | error e =>
        obtain ⟨before, here, after, hsplit, hbroken⟩ := hwalk
        rw [hsplit] at hfresh
        have hbefore : key ∉ before := fun h => hfresh (List.mem_append_left _ h)
        have hlater : key ∉ here :: after := fun h => hfresh (List.mem_append_right _ h)
        have hhere : key ≠ here := List.ne_of_not_mem_cons hlater
        exact ⟨key :: before, here, after, by rw [List.map_cons, hsplit, List.cons_append],
          .cons hgone hframe hbroken hbefore hhere⟩

/-- Where nothing is arranged a walk over records that can be read comes to its end. -/
theorem releaseListed_quiet (hm : m.Reachable) (hq : m.Quiet) (hlisted : m.HoldsRecords listed)
    (hrecords : ∀ e ∈ listed, e.2.IsRecord) (hnodup : (listed.map (·.1)).Nodup) (n : Nat) :
    ∃ count m', (releaseListed ns (listed.map (·.2)) n).run.run Memory.answer m =
      (.ok count, m') := by
  induction listed generalizing m n with
  | nil => exact ⟨n, m, rfl⟩
  | cons entry rest ih =>
    obtain ⟨key, o⟩ := entry
    obtain ⟨⟨hget, hkey⟩, hrest⟩ := List.forall_mem_cons.1 hlisted
    have hrest : m.HoldsRecords rest := hrest
    obtain ⟨⟨r, hr⟩, hrecords'⟩ := List.forall_mem_cons.1 hrecords
    obtain ⟨hfresh, hnodup'⟩ := List.nodup_cons.1 hnodup
    obtain ⟨m₁, hrun, hframe⟩ := decommission_clear (hq.clear key) hm hkey ⟨o, hget, hr⟩
    obtain ⟨count, m', hwalk⟩ := ih (hm.of_run hrun) (hq.of_run hrun)
      (hrest.of_frame hframe hfresh) hrecords' hnodup' (n + 1)
    rw [List.map_cons, run_releaseListed (hm.keyed _ _ hget) hrun]
    exact ⟨count, m', hwalk⟩

end Walk

/-! ## All listed records -/

namespace Memory

variable {m m' : Memory} {ns : Option String}

/-- The entries of the records that a list with this filter brings, in its order. -/
def recordEntries (m : Memory) (ns : Option String) : List (ObjectKey × Object) :=
  m.objects.entries.filter fun e => isListed Record.type ns e.1

/-- The keys of these records. -/
def recordKeys (m : Memory) (ns : Option String) : List ObjectKey :=
  (m.recordEntries ns).map (·.1)

theorem mem_recordEntries {e : ObjectKey × Object} :
    e ∈ m.recordEntries ns ↔
      m.objects.get? e.1 = some e.2 ∧ e.1.type = Record.type ∧ (ns = none ∨ e.1.ns = ns) := by
  have hget : e ∈ m.objects.entries ↔ m.objects.get? e.1 = some e.2 :=
    ⟨Assoc.find?_of_mem (Assoc.nodup_keys m.objects.ascending), Assoc.mem_of_find?⟩
  rw [recordEntries, List.mem_filter, hget, isListed]
  simp only [Bool.and_eq_true, Bool.or_eq_true, decide_eq_true_eq, Option.isNone_iff_eq_none]

theorem nodup_recordKeys (m : Memory) (ns : Option String) : (m.recordKeys ns).Nodup :=
  (Assoc.nodup_keys m.objects.ascending).sublist (List.filter_sublist.map _)

theorem holdsRecords_recordEntries (m : Memory) (ns : Option String) :
    m.HoldsRecords (m.recordEntries ns) := by
  intro e he
  obtain ⟨hget, htype, -⟩ := mem_recordEntries.1 he
  exact ⟨hget, htype⟩

theorem Quiet.list (hq : m.Quiet) (ns : Option String) :
    m.answer (.list Record.type ns) = (.ok ((m.recordEntries ns).map (·.2)), m) :=
  unlessObstacle_free _ (hq.free .list (recordsKey ns))

/-- A list is refused, or it brings the records that match. -/
theorem list_records (m : Memory) (ns : Option String) :
    Refused m (m.answer (.list Record.type ns)) ∨
      m.answer (.list Record.type ns) = (.ok ((m.recordEntries ns).map (·.2)), m) := by
  have hcases := m.unlessObstacle_cases .list (recordsKey ns)
    fun m => (.ok ((m.recordEntries ns).map (·.2)), m)
  exact hcases

/-- The walk goes along the listed records. -/
theorem run_releaseAll
    (h : m.answer (.list Record.type ns) = (.ok ((m.recordEntries ns).map (·.2)), m)) :
    (releaseAll ns).run.run Memory.answer m =
      (releaseListed ns ((m.recordEntries ns).map (·.2)) 0).run.run Memory.answer m :=
  Attempt.run_bind_ok (Attempt.run_ask_ok h)

end Memory

/-- In every state of a store that was empty at first, for every filter:

* where nothing is arranged and the records that match can be read, letting go of all of them
  succeeds with their number; each of them has then lost the finalizer of the operator and is
  unmanaged with no message, and everything else is as it was;
* whatever is arranged, if it fails, then nothing was written, or it was broken off at one of the
  matching records: those that a list brings before it were let go of, it may have lost the finalizer
  already, and everything else is as it was. -/
theorem releaseAll_exact {m : Memory} (hm : m.Reachable) (ns : Option String) :
    (m.Quiet → (∀ key ∈ m.recordKeys ns, ∃ r, Record.StoredAs m key r) →
      ∃ m', (releaseAll ns).run.run Memory.answer m = (.ok (m.recordKeys ns).length, m') ∧
        (∀ key ∈ m.recordKeys ns, m.LetGo m' key) ∧
          ∀ key ∉ m.recordKeys ns, m'.objects.get? key = m.objects.get? key) ∧
      ∀ e m', (releaseAll ns).run.run Memory.answer m = (.error e, m') →
        m.Unwritten m' ∨ ∃ before here after, m.recordKeys ns = before ++ here :: after ∧
          m.BrokenOff m' before here := by
  have hlisted := m.holdsRecords_recordEntries ns
  have hnodup := m.nodup_recordKeys ns
  refine ⟨fun hq hrecords => ?_, fun e m' h => ?_⟩
  · have hreadable : ∀ e ∈ m.recordEntries ns, e.2.IsRecord := by
      intro e he
      obtain ⟨r, hstored⟩ := hrecords e.1 (List.mem_map_of_mem he)
      exact ⟨r, hstored.read (hlisted e he).1⟩
    obtain ⟨count, m', hwalk⟩ := releaseListed_quiet hm hq hlisted hreadable hnodup 0
    obtain ⟨hcount, hwalked⟩ := releaseListed_step hm hlisted hnodup 0 hwalk
    have hlength : count = (m.recordKeys ns).length := by
      rw [hcount, recordKeys, List.length_map, Nat.zero_add]
    rw [hlength] at hwalk
    exact ⟨m', (run_releaseAll (hq.list ns)).trans hwalk, hwalked.behind, hwalked.apart⟩
  · rcases m.list_records ns with ⟨cause, f, hrefused⟩ | hlist
    · have hrun : (releaseAll ns).run.run Memory.answer m =
          (.error (.store (recordsKey ns) cause), { m with conflicts := f }) :=
        Attempt.run_bind_error (Attempt.run_ask_error hrefused)
      cases hrun.symm.trans h
      exact .inl ⟨rfl, rfl, rfl⟩
    · exact .inr (releaseListed_step hm hlisted hnodup 0 ((run_releaseAll hlist).symm.trans h))

/-! ## Three records -/

/-- A held record with this name, in this namespace. -/
def Record.heldIn (ns name : String) : Record :=
  { held with metadata := { held.metadata with name := some name, ns := some ns } }

/-- A held record in one namespace, and two in another. -/
def Memory.withThreeHeld : Memory :=
  ((((empty .epoch).insert (Record.heldIn "elsewhere" "first").object).2.insert
    (Record.heldIn "linkerd" "second").object).2.insert (Record.heldIn "linkerd" "third").object).2

/-- The finalizers and the phase of the record that is stored under this key. -/
def Memory.standing? (m : Memory) (key : ObjectKey) : Option (List String × Option Phase) :=
  (m.objects.get? key).bind fun o =>
    (Record.ofObject o).toOption.map fun r => (r.metadata.finalizerList, r.phase)

namespace Memory

variable {m m' : Memory} {key : ObjectKey} {finalizers : List String} {phase : Option Phase}

theorem standing?_congr (h : m'.objects.get? key = m.objects.get? key) :
    m'.standing? key = m.standing? key := by
  rw [standing?, standing?, h]

theorem standing?_eq_some : m.standing? key = some (finalizers, phase) ↔
    ∃ r, Record.StoredAs m key r ∧ r.metadata.finalizerList = finalizers ∧ r.phase = phase := by
  constructor
  · intro h
    obtain ⟨o, hget, h⟩ := Option.bind_eq_some_iff.1 h
    cases ho : Record.ofObject o with
    | ok r =>
      rw [ho] at h
      cases h
      exact ⟨r, ⟨o, hget, ho⟩, rfl, rfl⟩
    | error e =>
      rw [ho] at h
      cases h
  · rintro ⟨r, ⟨o, hget, ho⟩, rfl, rfl⟩
    rw [standing?, hget, Option.bind_some, ho]
    rfl

/-- A record that was let go of has lost the finalizer of the operator and is unmanaged. -/
theorem LetGo.standing? (h : m.LetGo m' key) (hbefore : m.standing? key = some (finalizers, phase)) :
    m'.standing? key = some (finalizers.filter (· ≠ operatorFinalizer), some .unmanaged) := by
  obtain ⟨r, r', hstored, hstored', hreleased⟩ := h
  obtain ⟨q, hq, rfl, -⟩ := standing?_eq_some.1 hbefore
  cases hq.unique hstored
  exact standing?_eq_some.2 ⟨r', hstored', hreleased.finalizers, hreleased.phase⟩

theorem reachable_withThreeHeld : withThreeHeld.Reachable :=
  ⟨_, .step (.insert _) (.step (.insert _) (.step (.insert _) (.start .epoch)))⟩

/-- All of them are held. -/
theorem standing?_withThreeHeld :
    ∀ key ∈ [(Record.heldIn "elsewhere" "first").key, (Record.heldIn "linkerd" "second").key,
        (Record.heldIn "linkerd" "third").key],
      withThreeHeld.standing? key = some (["backup", operatorFinalizer], none) := by
  have hfirst : Record.StoredAs withThreeHeld (Record.heldIn "elsewhere" "first").key _ :=
    ((Record.storedAs_insert _ rfl).insert rfl (by decide)).insert rfl (by decide)
  have hsecond : Record.StoredAs withThreeHeld (Record.heldIn "linkerd" "second").key _ :=
    (Record.storedAs_insert _ rfl).insert rfl (by decide)
  have hthird : Record.StoredAs withThreeHeld (Record.heldIn "linkerd" "third").key _ :=
    Record.storedAs_insert _ rfl
  refine List.forall_mem_cons.2 ⟨?_, List.forall_mem_cons.2 ⟨?_, List.forall_mem_singleton.2 ?_⟩⟩
  · exact standing?_eq_some.2 ⟨_, hfirst, rfl, rfl⟩
  · exact standing?_eq_some.2 ⟨_, hsecond, rfl, rfl⟩
  · exact standing?_eq_some.2 ⟨_, hthird, rfl, rfl⟩

end Memory

/-- The records of one namespace are let go of, and the one in the other namespace stays as it is.
If the status write of the second record fails, letting go of all three is broken off there: the
first one was let go of, the second one has lost the finalizer of the operator and has no status
yet, and the third one is still held. -/
theorem releaseAll_exact_three :
    let first := (Record.heldIn "elsewhere" "first").key
    let second := (Record.heldIn "linkerd" "second").key
    let third := (Record.heldIn "linkerd" "third").key
    let m := Memory.withThreeHeld
    let faulty := m.fail ⟨.replaceStatus, second.kind, some "second", "status down"⟩
    (∃ m', (releaseAll (some "linkerd")).run.run Memory.answer m = (.ok 2, m') ∧
      m'.standing? first = some (["backup", operatorFinalizer], none) ∧
        m'.standing? second = some (["backup"], some .unmanaged) ∧
          m'.standing? third = some (["backup"], some .unmanaged)) ∧
      ∃ e m', (releaseAll none).run.run Memory.answer faulty = (.error e, m') ∧
        faulty.BrokenOff m' [first] second ∧
          m'.standing? first = some (["backup"], some .unmanaged) ∧
            m'.standing? second = some (["backup"], none) ∧
              m'.standing? third = some (["backup", operatorFinalizer], none) := by
  intro first second third m faulty
  have hheld : ∀ key ∈ [first, second, third],
      m.standing? key = some (["backup", operatorFinalizer], none) := standing?_withThreeHeld
  have hreleased : ["backup", operatorFinalizer].filter (· ≠ operatorFinalizer) = ["backup"] := by
    decide
  have hfaulty : faulty.Reachable := by
    obtain ⟨effects, hrun⟩ := reachable_withThreeHeld
    exact ⟨_, hrun.step (.fail _)⟩
  refine ⟨?_, ?_⟩
  · obtain ⟨hall, -⟩ := releaseAll_exact reachable_withThreeHeld (some "linkerd")
    have hkeys : m.recordKeys (some "linkerd") = [second, third] := by decide +kernel
    rw [hkeys] at hall
    have hrecords : ∀ key ∈ [second, third], ∃ r, Record.StoredAs m key r := by
      intro key hkey
      obtain ⟨r, hstored, -⟩ := standing?_eq_some.1 (hheld key (List.mem_cons_of_mem _ hkey))
      exact ⟨r, hstored⟩
    obtain ⟨m', hrun, hgone, hframe⟩ := hall ⟨rfl, fun _ => rfl⟩ hrecords
    refine ⟨m', hrun, ?_, ?_, ?_⟩
    · rw [standing?_congr (hframe first (by decide +kernel)), hheld first (by simp)]
    · rw [(hgone second (by simp)).standing? (hheld second (by simp)), hreleased]
    · rw [(hgone third (by simp)).standing? (hheld third (by simp)), hreleased]
  · obtain ⟨-, hfailed⟩ := releaseAll_exact hfaulty none
    have hkeys : faulty.recordKeys none = [first, second, third] := by decide +kernel
    have hend : ((releaseAll none).run.run Memory.answer faulty).1.isOk = false ∧
        ((releaseAll none).run.run Memory.answer faulty).2.standing? second =
          some (["backup"], none) := by decide +kernel
    generalize hrun : (releaseAll none).run.run Memory.answer faulty = result at hend
    obtain ⟨result, m'⟩ := result
    obtain ⟨herror, hsecond⟩ := hend
    cases result with
    | ok count => cases herror
    | error e =>
      -- the second record was changed and not let go of, so the walk has come as far as that
      have hchanged : m'.objects.get? second ≠ faulty.objects.get? second := by
        intro h
        have hsame : some (["backup"], none) = some (["backup", operatorFinalizer], none) :=
          hsecond.symm.trans ((standing?_congr h).trans (hheld second (by simp)))
        exact absurd hsame (by decide)
      have hkept : ¬faulty.LetGo m' second := by
        intro hgone
        cases hsecond.symm.trans (hgone.standing? (hheld second (by simp)))
      have hbroken : faulty.BrokenOff m' [first] second := by
        rcases hfailed e m' hrun with hunwritten | ⟨before, here, after, hsplit, hbroken⟩
        · exact absurd (by rw [hunwritten.objects]) hchanged
        · rw [hbroken.here_eq hchanged hkept] at hsplit hbroken
          have hsplit : [first] ++ second :: [third] = before ++ second :: after :=
            hkeys.symm.trans hsplit
          obtain ⟨hbefore, -, -⟩ := (List.append_cons_inj_of_notMem (by decide +kernel)
            (by decide +kernel)).1 hsplit
          rw [hbefore]
          exact hbroken
      refine ⟨e, m', rfl, hbroken, ?_, hsecond, ?_⟩
      · rw [(hbroken.behind first (by simp)).standing? (hheld first (by simp)), hreleased]
      · rw [standing?_congr (hbroken.ahead third (by decide +kernel) (by decide +kernel)),
          ← hheld third (by simp)]
        rfl

end MeshOperator
