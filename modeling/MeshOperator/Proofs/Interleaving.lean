import MeshOperator.Proofs.CarefulCalls
import MeshOperator.Proofs.MemoryHistory

/-!
Clients that share a store.

Any number of clients work on one store in memory, each on at most one task at a time. A step of
the system is a single call of one of the tasks, an operation that somebody performs on the store
without a task, or the start of a task; the steps of different clients come in any order. A client
may start a task before another one has ended, which is then given up.

`Sound` is what holds of a system all along: the history is that of the store, every object that a
client has seen was written by somebody, and what is left of each task still satisfies what it was
chosen for.
-/

namespace MeshOperator

set_option autoImplicit false

/-! ## Tasks -/

inductive Outcome where
  | synced (result : Except SyncError SyncOutcome)
  | marked (result : Except StatusError Unit)
  | released (result : Except ReconcileError Bool)
  | passed (result : Except ReconcileError PassOutcome)

inductive Task where
  | ensure (resource : Managed) (state : Existence)
  | updateStatus (phase : Phase) (message : String) (record : Record)
  | decommission (key : ObjectKey)
  | pass (subsystems : List Subsystem) (key : ObjectKey)

def Task.procedure : Task → Procedure Outcome
  | .ensure resource state => (MeshOperator.ensure resource state).run >>= fun result =>
    .done (.synced result)
  | .updateStatus phase message record =>
    MeshOperator.updateStatus phase message record >>= fun result => .done (.marked result.1)
  | .decommission key => (MeshOperator.decommission key).run >>= fun result =>
    .done (.released result)
  | .pass subsystems key =>
    (reconcilePass (subsystems.map Component.ofSubsystem) key).run >>= fun result =>
      .done (.passed result)

/-! ## Systems -/

structure Client where
  /-- All objects that the store has handed out to the client. -/
  seen : List Object
  /-- What is left of its task. -/
  task : Option (Procedure Outcome)

structure System where
  memory : Memory
  /-- What was done to the store so far, the oldest first. -/
  history : List Memory.Effect
  clients : Nat → Client

def Memory.Operation.objects : Operation → Memory → List Object
  | .call c, m => c.objects (m.answer c).1
  | .insert object, m => (m.insert object).1.toOption.toList
  | _, _ => []

namespace System

def initial (clock : Timestamp) : System := ⟨.empty clock, [], fun _ => ⟨[], none⟩⟩

def setClient (s : System) (i : Nat) (client : Client) : System :=
  { s with clients := fun j => if j = i then client else s.clients j }

/-- A client performs an operation, sees what it hands out, and goes on with a task. -/
def perform (s : System) (i : Nat) (op : Memory.Operation) (task : Option (Procedure Outcome)) :
    System :=
  { s with
    memory := op.apply s.memory
    history := s.history ++ (op.effect? s.memory).toList }.setClient i
      ⟨(s.clients i).seen ++ op.objects s.memory, task⟩

/-- A step, given the operations that are performed without a task and the tasks that are started. -/
inductive Step (others : Memory.Operation → Memory → Prop) (allowed : List Object → Task → Prop) :
    System → System → Prop where
  | other {s : System} (i : Nat) (op : Memory.Operation) (h : others op s.memory) :
      Step others allowed s (s.perform i op (s.clients i).task)
  | start {s : System} (i : Nat) (t : Task) (h : allowed (s.clients i).seen t) :
      Step others allowed s (s.setClient i ⟨(s.clients i).seen, some t.procedure⟩)
  | call {s : System} (i : Nat) (c : Call) (next : c.Answer → Procedure Outcome)
      (h : (s.clients i).task = some (Dialogue.ask c next)) :
      Step others allowed s (s.perform i (.call c) (some (next (s.memory.answer c).1)))

inductive Steps (others : Memory.Operation → Memory → Prop) (allowed : List Object → Task → Prop)
    (s : System) : System → Prop where
  | refl : Steps others allowed s s
  | tail {s' s'' : System} (hsteps : Steps others allowed s s') (hstep : Step others allowed s' s'') :
      Steps others allowed s s''

def Reachable (others : Memory.Operation → Memory → Prop) (allowed : List Object → Task → Prop)
    (s : System) : Prop := ∃ clock, Steps others allowed (initial clock) s

/-- A client makes the next call of its task, if there is one. -/
def advance (s : System) (i : Nat) : System :=
  match (s.clients i).task with
  | some (Dialogue.ask c next) => s.perform i (.call c) (some (next (s.memory.answer c).1))
  | _ => s

theorem Steps.advance {others : Memory.Operation → Memory → Prop}
    {allowed : List Object → Task → Prop} {s s' : System} (h : Steps others allowed s s') (i : Nat) :
    Steps others allowed s (s'.advance i) := by
  unfold System.advance
  split
  next c next htask => exact .tail h (.call i c next htask)
  next => exact h

@[simp] theorem clients_setClient_self (s : System) (i : Nat) (client : Client) :
    (s.setClient i client).clients i = client := if_pos rfl

theorem clients_setClient_ne (s : System) {i j : Nat} (h : j ≠ i) (client : Client) :
    (s.setClient i client).clients j = s.clients j := if_neg h

@[simp] theorem clients_perform_self (s : System) (i : Nat) (op : Memory.Operation)
    (task : Option (Procedure Outcome)) :
    (s.perform i op task).clients i = ⟨(s.clients i).seen ++ op.objects s.memory, task⟩ :=
  if_pos rfl

theorem clients_perform_ne (s : System) {i j : Nat} (h : j ≠ i) (op : Memory.Operation)
    (task : Option (Procedure Outcome)) : (s.perform i op task).clients j = s.clients j := if_neg h

end System

/-! ## What is handed out -/

namespace Memory

theorem Recorded.mem_objects {h : List Effect} {m : Memory} (hr : Recorded h m) {op : Operation}
    {x : Object} (hx : x ∈ op.objects m) : ∃ key, .wrote key x ∈ h ++ (op.effect? m).toList := by
  have hstored : ∀ {key : ObjectKey}, m.objects.get? key = some x →
      ∃ key, .wrote key x ∈ h ++ (op.effect? m).toList :=
    fun hget => ⟨_, List.mem_append_left _ (hr.mem_history hget)⟩
  cases op with
  | call c =>
    -- what a write hands out is what it has written
    have hwritten : ∀ {key : ObjectKey}, callEffect? c (m.answer c).1 = some (.wrote key x) →
        ∃ key, .wrote key x ∈ h ++ ((Operation.call c).effect? m).toList := by
      intro key heffect
      refine ⟨key, List.mem_append_right _ ?_⟩
      rw [Operation.effect?, heffect]
      exact List.mem_singleton.2 rfl
    simp only [Operation.objects] at hx
    rcases m.answer_cases c with hrefused | hserved
    · obtain ⟨e, f, he⟩ := hrefused
      rw [he, Call.objects_error] at hx
      cases hx
    · generalize m.answer c = result at hserved hx hwritten
      cases hserved with
      | get hget =>
        cases List.mem_singleton.1 hx
        exact hstored hget
      | create hkey _ =>
        cases List.mem_singleton.1 hx
        exact hwritten (callEffect?_create hkey)
      | replace hkey _ _ =>
        cases List.mem_singleton.1 hx
        exact hwritten (callEffect?_replace hkey)
      | replaceStatus hkey _ _ =>
        cases List.mem_singleton.1 hx
        exact hwritten (callEffect?_replaceStatus hkey)
      | delete _ => cases hx
      | list hlisted =>
        obtain ⟨key, hget⟩ := hlisted x hx
        exact hstored hget
  | insert object =>
    cases hkey : object.key with
    | error defect =>
      simp [Operation.objects, Memory.insert, withKey, hkey, Except.toOption] at hx
    | ok key =>
      simp only [Operation.objects, Memory.insert, withKey, hkey, Except.toOption,
        Option.toList_some, List.mem_singleton] at hx
      subst hx
      refine ⟨key, List.mem_append_right _ ?_⟩
      simp [Operation.effect?, hkey, Except.toOption]
  | _ => cases hx

end Memory

/-! ## What holds all along -/

/-- What tasks are to satisfy: those that are started do, and what is left of one after an answer
does, and seeing more does no harm. -/
structure Discipline (allowed : List Object → Task → Prop)
    (fits : List Object → Procedure Outcome → Prop) : Prop where
  start : ∀ seen t, allowed seen t → fits seen t.procedure
  answer : ∀ seen c next answer, fits seen (Dialogue.ask c next) →
    fits (seen ++ c.objects answer) (next answer)
  more : ∀ seen more p, seen ⊆ more → fits seen p → fits more p

namespace System

structure Sound (fits : List Object → Procedure Outcome → Prop) (s : System) : Prop where
  run : Memory.Run s.history s.memory
  seen : ∀ i, ∀ x ∈ (s.clients i).seen, ∃ key, .wrote key x ∈ s.history
  tasks : ∀ i p, (s.clients i).task = some p → fits (s.clients i).seen p

variable {others : Memory.Operation → Memory → Prop} {allowed : List Object → Task → Prop}
  {fits : List Object → Procedure Outcome → Prop}

theorem sound_initial (clock : Timestamp) : (initial clock).Sound fits where
  run := .start clock
  seen := by simp [initial]
  tasks := by simp [initial]

theorem Sound.perform {s : System} (hs : s.Sound fits) (i : Nat) (op : Memory.Operation)
    {task : Option (Procedure Outcome)}
    (htask : ∀ p, task = some p → fits ((s.clients i).seen ++ op.objects s.memory) p) :
    (s.perform i op task).Sound fits where
  run := .step op hs.run
  seen j x hx := by
    have hold : ∀ j, x ∈ (s.clients j).seen →
        ∃ key, .wrote key x ∈ (s.perform i op task).history := by
      intro j hx
      obtain ⟨key, hkey⟩ := hs.seen j x hx
      exact ⟨key, List.mem_append_left _ hkey⟩
    by_cases hj : j = i
    · subst hj
      rw [clients_perform_self] at hx
      rcases List.mem_append.1 hx with hx | hx
      · exact hold j hx
      · exact hs.run.recorded.mem_objects hx
    · rw [clients_perform_ne s hj] at hx
      exact hold j hx
  tasks j p hp := by
    by_cases hj : j = i
    · subst hj
      rw [clients_perform_self] at hp ⊢
      exact htask p hp
    · rw [clients_perform_ne s hj] at hp ⊢
      exact hs.tasks j p hp

theorem Sound.step {s s' : System} (hs : s.Sound fits) (hd : Discipline allowed fits)
    (hstep : Step others allowed s s') : s'.Sound fits := by
  cases hstep with
  | other i op _ =>
    refine hs.perform i op fun p hp => ?_
    exact hd.more _ _ _ (List.subset_append_left _ _) (hs.tasks i p hp)
  | start i t ht =>
    refine ⟨hs.run, fun j x hx => ?_, fun j p hp => ?_⟩
    · by_cases hj : j = i
      · subst hj
        rw [clients_setClient_self] at hx
        exact hs.seen j x hx
      · rw [clients_setClient_ne s hj] at hx
        exact hs.seen j x hx
    · by_cases hj : j = i
      · subst hj
        rw [clients_setClient_self] at hp ⊢
        cases hp
        exact hd.start _ _ ht
      · rw [clients_setClient_ne s hj] at hp ⊢
        exact hs.tasks j p hp
  | call i c next htask =>
    refine hs.perform i (.call c) fun p hp => ?_
    cases hp
    exact hd.answer _ _ _ _ (hs.tasks i _ htask)

theorem Sound.steps {s s' : System} (hs : s.Sound fits) (hd : Discipline allowed fits)
    (hsteps : Steps others allowed s s') : s'.Sound fits := by
  induction hsteps with
  | refl => exact hs
  | tail _ hstep ih => exact ih.step hd hstep

theorem Reachable.sound {s : System} (hd : Discipline allowed fits)
    (hs : s.Reachable others allowed) : s.Sound fits := by
  obtain ⟨clock, hsteps⟩ := hs
  exact (sound_initial clock).steps hd hsteps

/-- An object that was seen and one that is stored are the same if their resource versions are. -/
theorem Sound.eq_of_version {s : System} (hs : s.Sound fits) {i : Nat} {live stored : Object}
    {key : ObjectKey} (hlive : live ∈ (s.clients i).seen)
    (hget : s.memory.objects.get? key = some stored)
    (hv : live.metadata.resourceVersion = stored.metadata.resourceVersion) : live = stored := by
  obtain ⟨other, hwrote⟩ := hs.seen i live hlive
  have hr := hs.run.recorded
  exact (hr.eq_of_version hwrote (hr.mem_history hget) hv).2

theorem Sound.version_of_seen {s : System} (hs : s.Sound fits) {i : Nat} {live : Object}
    (hlive : live ∈ (s.clients i).seen) :
    (∃ v, live.metadata.resourceVersion = some v) ∧ ∃ key, live.key = .ok key := by
  obtain ⟨key, hwrote⟩ := hs.seen i live hlive
  have hr := hs.run.recorded
  obtain ⟨n, -, hv⟩ := hr.numbered key live hwrote
  exact ⟨⟨_, hv⟩, key, hr.keyed key live hwrote⟩

end System

end MeshOperator
