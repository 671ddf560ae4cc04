import MeshOperator.Proofs.QuietMemory

/-!
What syncing one resource does to a store in memory.

`SyncStep` lists all the ways in which a sync can end, whatever errors and conflicts are arranged:
either a call was refused and nothing was written, or the resource is as it is to be, after one
write under its key or none. What holds of every sync is read off this list. A resource that is as
it is to be is left alone by the next sync.
-/

namespace MeshOperator

set_option autoImplicit false

/-! ## The steps of a sync -/

open Memory

/-- All that a sync can do, with its result and the store that it leaves. -/
inductive SyncStep (resource : Managed) (m : Memory) :
    Existence → Except SyncError SyncOutcome × Memory → Prop where
  | foiled {state : Existence} (e : SyncError) (f : Verb → Nat) :
      SyncStep resource m state (.error e, { m with conflicts := f })
  | created (hget : m.objects.get? resource.key = none) :
      SyncStep resource m .present (.ok .created, ({ m with issued := m.issued + 1 }.write .create
        resource.key (m.created resource.key resource.object)).2)
  | updated {live : Object} (hget : m.objects.get? resource.key = some live) :
      SyncStep resource m .present (.ok .updated, (m.write .replace resource.key
        (m.replaced resource.key (resource.object.overlay live) live)).2)
  | unchanged {live : Object} (hget : m.objects.get? resource.key = some live)
      (hsettled : resource.object.isSettled live = true) :
      SyncStep resource m .present (.ok .unchanged, m)
  | deleted {live : Object} (hget : m.objects.get? resource.key = some live) :
      SyncStep resource m .absent (.ok .deleted, { m with
        objects := m.objects.erase resource.key
        journal := m.journal ++ [⟨.delete, resource.key⟩] })
  | absent (hget : m.objects.get? resource.key = none) :
      SyncStep resource m .absent (.ok .absent, m)

theorem SyncStep.of_foiled {resource : Managed} {m : Memory} {state : Existence}
    {result : Except SyncError SyncOutcome × Memory} (h : Foiled m result) :
    SyncStep resource m state result := by
  obtain ⟨e, f, rfl⟩ := h
  exact .foiled e f

section Steps

variable (resource : Managed) (m : Memory)

theorem ensurePresent_step :
    SyncStep resource m .present ((ensurePresent resource).run.run Memory.answer m) := by
  unfold ensurePresent
  rcases m.find_cases (SyncError.mk "get" resource.key) resource.key with
    hfoiled | ⟨hget, hfind⟩ | ⟨live, hget, hfind⟩
  · exact .of_foiled hfoiled.bind
  · rw [Attempt.run_bind_ok hfind]
    dsimp only
    rcases m.ask_cases (SyncError.mk "create" resource.key) (.create resource.object) with
      hfoiled | ⟨reply, m', hask, hserved⟩
    · exact .of_foiled hfoiled.bind
    · rw [Attempt.run_bind_ok hask]
      cases hserved with
      | create hkey _ =>
        cases resource.keyed.symm.trans hkey
        exact .created hget
  · rw [Attempt.run_bind_ok hfind]
    dsimp only
    by_cases hs : resource.object.isSettled live = true
    · rw [if_pos hs]
      exact .unchanged hget hs
    · rw [if_neg hs]
      rcases m.ask_cases (SyncError.mk "update" resource.key)
          (.replace (resource.object.overlay live)) with hfoiled | ⟨reply, m', hask, hserved⟩
      · exact .of_foiled hfoiled.bind
      · rw [Attempt.run_bind_ok hask]
        cases hserved with
        | replace hkey hstored _ =>
          cases ((resource.object.overlay_key live).trans resource.keyed).symm.trans hkey
          cases hget.symm.trans hstored
          exact .updated hget

theorem ensureAbsent_step :
    SyncStep resource m .absent ((ensureAbsent resource.key).run.run Memory.answer m) := by
  unfold ensureAbsent
  rcases m.find_cases (SyncError.mk "get" resource.key) resource.key with
    hfoiled | ⟨hget, hfind⟩ | ⟨live, hget, hfind⟩
  · exact .of_foiled hfoiled.bind
  · rw [Attempt.run_bind_ok hfind]
    exact .absent hget
  · rw [Attempt.run_bind_ok hfind]
    simp only [Attempt.run, ExceptT.mk, Dialogue.run]
    rcases m.answer_cases (.delete resource.key) with ⟨e, f, he⟩ | hserved
    · rw [he]
      cases e with
      | notFound missing =>
        -- the object was there a moment ago
        cases hget.symm.trans (delete_notFound he)
      | _ => exact .foiled _ f
    · generalize m.answer (.delete resource.key) = result at hserved
      cases hserved with
      | delete _ => exact .deleted hget

theorem ensure_step (state : Existence) :
    SyncStep resource m state ((ensure resource state).run.run Memory.answer m) := by
  cases state with
  | present => exact ensurePresent_step resource m
  | absent => exact ensureAbsent_step resource m

end Steps

/-! ## What holds of every sync -/

/-- What is noted of a sync that ends like this. -/
def SyncOutcome.entries (key : ObjectKey) : SyncOutcome → List JournalEntry
  | .created => [⟨.create, key⟩]
  | .updated => [⟨.replace, key⟩]
  | .deleted => [⟨.delete, key⟩]
  | .unchanged | .absent => []

/-- How a sync ends that finds its resource as it is to be. -/
def SyncOutcome.settled : Existence → SyncOutcome
  | .present => .unchanged
  | .absent => .absent

namespace SyncStep

variable {resource : Managed} {m m' : Memory} {state : Existence}
  {result : Except SyncError SyncOutcome}

theorem frame (h : SyncStep resource m state (result, m')) {key : ObjectKey}
    (hkey : key ≠ resource.key) : m'.objects.get? key = m.objects.get? key := by
  cases h with
  | foiled e f => rfl
  | created hget => exact SortedMap.get?_insert_ne _ _ hkey
  | updated hget => exact SortedMap.get?_insert_ne _ _ hkey
  | unchanged hget hsettled => rfl
  | deleted hget => exact SortedMap.get?_erase_ne _ hkey
  | absent hget => rfl

theorem journal {outcome : SyncOutcome} (h : SyncStep resource m state (.ok outcome, m')) :
    m'.journal = m.journal ++ outcome.entries resource.key := by
  cases h with
  | created hget => rfl
  | updated hget => rfl
  | unchanged hget hsettled => exact (List.append_nil _).symm
  | deleted hget => rfl
  | absent hget => exact (List.append_nil _).symm

theorem of_error {e : SyncError} (h : SyncStep resource m state (.error e, m')) :
    ∃ f, m' = { m with conflicts := f } := by
  cases h with
  | foiled e f => exact ⟨f, rfl⟩

theorem isAs {outcome : SyncOutcome} (h : SyncStep resource m state (.ok outcome, m')) :
    resource.IsAs m' state := by
  cases h with
  | created hget => exact ⟨_, SortedMap.get?_insert_self _ _, Object.isSettled_created _ _ _ _⟩
  | updated hget => exact ⟨_, SortedMap.get?_insert_self _ _, Object.isSettled_replaced _ _ _ _ _ _⟩
  | unchanged hget hsettled => exact ⟨_, hget, hsettled⟩
  | deleted hget => exact SortedMap.get?_erase_self _
  | absent hget => exact hget

end SyncStep

/-- A resource that is as it is to be is left alone. -/
theorem ensure_settled {m : Memory} (hq : m.Quiet) {resource : Managed} {state : Existence}
    (h : resource.IsAs m state) :
    (ensure resource state).run.run Memory.answer m = (.ok (.settled state), m) := by
  cases state with
  | present =>
    obtain ⟨live, hget, hsettled⟩ := h
    exact ensurePresent_settled hq resource hget hsettled
  | absent => exact Attempt.run_bind_ok (Attempt.run_find_notFound (hq.get_none h))

/-- One sync changes nothing but the object of its resource, notes one write or none, and writes
nothing if it fails. If it succeeds the resource is as it is to be, and another sync then finds
nothing to do on any store with the same object where nothing is arranged. -/
theorem ensure_synchronises (resource : Managed) (state : Existence) {m m' : Memory}
    {result : Except SyncError SyncOutcome}
    (h : (ensure resource state).run.run Memory.answer m = (result, m')) :
    (∀ key, key ≠ resource.key → m'.objects.get? key = m.objects.get? key) ∧
      (∀ outcome, result = .ok outcome →
        m'.journal = m.journal ++ outcome.entries resource.key) ∧
      (∀ e, result = .error e →
        m'.journal = m.journal ∧ m'.objects = m.objects ∧ m'.revision = m.revision) ∧
      ∀ outcome, result = .ok outcome → resource.IsAs m' state ∧
        ∀ later : Memory, later.Quiet →
          later.objects.get? resource.key = m'.objects.get? resource.key →
            (ensure resource state).run.run Memory.answer later =
              (.ok (.settled state), later) := by
  have hstep : SyncStep resource m state (result, m') := h ▸ ensure_step resource m state
  refine ⟨fun key hkey => hstep.frame hkey, ?_, ?_, ?_⟩
  · rintro outcome rfl
    exact hstep.journal
  · rintro e rfl
    obtain ⟨f, rfl⟩ := hstep.of_error
    exact ⟨rfl, rfl, rfl⟩
  · rintro outcome rfl
    refine ⟨hstep.isAs, fun later hq hsame => ?_⟩
    exact ensure_settled hq (Managed.IsAs.congr hsame hstep.isAs)

/-- A role of an earlier installation. -/
def oldRole : Managed :=
  ({ name := "linkerd-web"
     ns := none
     labels := .empty
     annotations := none
     owner := none
     content := .clusterRole [] } : Manifest).managed

/-- A store that holds the role, with a conflict ahead. -/
def Memory.withOldRole : Memory := ((empty .epoch).insert oldRole.object).2.conflictNext .delete 1

/-- The conflict stops the first sync, the second deletes the role, and the third has nothing to
do. -/
theorem ensure_oldRole_absent :
    ∃ e m₁ m₂, (ensure oldRole .absent).run.run Memory.answer .withOldRole = (.error e, m₁) ∧
      m₁.objects = Memory.withOldRole.objects ∧ m₁.journal = [] ∧
        (ensure oldRole .absent).run.run Memory.answer m₁ = (.ok .deleted, m₂) ∧
          m₂.journal = [⟨.delete, oldRole.key⟩] ∧ m₂.objects.get? oldRole.key = none ∧
            (ensure oldRole .absent).run.run Memory.answer m₂ = (.ok .absent, m₂) := by
  let m₁ := ((ensure oldRole .absent).run.run Memory.answer .withOldRole).2
  let m₂ := ((ensure oldRole .absent).run.run Memory.answer m₁).2
  have hfirst : (ensure oldRole .absent).run.run Memory.answer .withOldRole =
      (.error ⟨"delete", oldRole.key, .conflict oldRole.key⟩, m₁) := Prod.ext rfl rfl
  have hsecond : (ensure oldRole .absent).run.run Memory.answer m₁ = (.ok .deleted, m₂) :=
    Prod.ext rfl rfl
  have hquiet : m₂.Quiet := ⟨rfl, fun verb => by cases verb <;> rfl⟩
  obtain ⟨-, -, hfailed, -⟩ := ensure_synchronises oldRole .absent hfirst
  obtain ⟨hjournal, hobjects, -⟩ := hfailed _ rfl
  obtain ⟨-, hentries, -, hsettled⟩ := ensure_synchronises oldRole .absent hsecond
  obtain ⟨habsent, hagain⟩ := hsettled _ rfl
  refine ⟨_, m₁, m₂, hfirst, hobjects, hjournal, hsecond, ?_, habsent, hagain m₂ hquiet rfl⟩
  rw [hentries _ rfl, hjournal]
  rfl

end MeshOperator
