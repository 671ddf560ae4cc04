import MeshOperator.Proofs.CarefulCalls
import MeshOperator.Proofs.Runs
import MeshOperator.Proofs.StatusWrites

/-!
What a procedure does to a store in memory.

`Memory.effects` lists the effects of the calls of a procedure in order, so that a procedure extends
the history of a store by its effects. Each effect is noted in the journal. So a procedure whose run
is known has its effects known as well: none if nothing was noted, and a single write if one was.
`Memory.writes` are the effects on one object. What is true of the object at first and of each write
is true of it in every state that the store goes through.
-/

namespace MeshOperator

set_option autoImplicit false

/-- The states of the partner of a dialogue, the first and the last among them. -/
def Dialogue.states {Q : Type} {A : Q → Type} {α σ : Type} (answer : (q : Q) → σ → A q × σ) :
    Dialogue Q A α → σ → List σ
  | .done _, s => [s]
  | .ask question next, s =>
    s :: states answer (next (answer question s).1) (answer question s).2

theorem Dialogue.mem_states_last {Q : Type} {A : Q → Type} {α σ : Type}
    (answer : (q : Q) → σ → A q × σ) (d : Dialogue Q A α) (s : σ) :
    (d.run answer s).2 ∈ d.states answer s := by
  induction d generalizing s with
  | done result => exact List.mem_singleton_self s
  | ask question next ih => exact List.mem_cons_of_mem _ (ih _ _)

namespace Memory

/-- What the calls of a procedure do to the objects of a store, in order. -/
def effects {α : Type} : Procedure α → Memory → List Effect
  | .done _, _ => []
  | Dialogue.ask c next, m =>
    (callEffect? c (m.answer c).1).toList ++ effects (next (m.answer c).1) (m.answer c).2

section Effects

variable {α β : Type} {h : List Effect} {m m' : Memory} {p : Procedure α} {a : α}
  {key : ObjectKey} {x : Object}

theorem effects_bind (p : Procedure α) (f : α → Procedure β) (m : Memory) :
    effects (p >>= f) m =
      effects p m ++ effects (f (p.run Memory.answer m).1) (p.run Memory.answer m).2 := by
  induction p generalizing m with
  | done a => rfl
  | ask c next ih =>
    refine (congrArg (_ ++ ·) (ih (m.answer c).1 (m.answer c).2)).trans ?_
    exact (List.append_assoc ..).symm

theorem callEffect?_get (a : (Call.get key).Answer) : callEffect? (.get key) a = none := by
  cases a <;> rfl

theorem callEffect?_list {type : TypeName} {ns : Option String} (a : (Call.list type ns).Answer) :
    callEffect? (.list type ns) a = none := by
  cases a <;> rfl

theorem effects_ask {ε : Type} (context : StoreError → ε) (c : Call) (m : Memory) :
    effects (Attempt.ask context c).run m = (callEffect? c (m.answer c).1).toList :=
  List.append_nil _

/-- A procedure extends the history by its effects. -/
theorem Run.procedure (hrun : Run h m) (p : Procedure α) :
    Run (h ++ effects p m) (p.run Memory.answer m).2 := by
  induction p generalizing h m with
  | done a =>
    rw [effects, List.append_nil]
    exact hrun
  | ask c next ih =>
    rw [effects, ← List.append_assoc]
    exact ih _ (hrun.step (.call c))

theorem Reachable.objects_run (hm : m.Reachable) (p : Procedure α) :
    (p.run Memory.answer m).2.objects = (effects p m).foldl Effect.on m.objects := by
  obtain ⟨h, hrun⟩ := hm
  rw [(hrun.procedure p).recorded.objects, hrun.recorded.objects, List.foldl_append]

/-! ## Effects and the journal -/

theorem journal_call (m : Memory) (c : Call) :
    ∃ entries : List JournalEntry, (m.answer c).2.journal = m.journal ++ entries ∧
      entries.map (·.key) = (callEffect? c (m.answer c).1).toList.map Effect.key := by
  rcases m.answer_cases c with hrefused | hserved
  · rw [callEffect?_refused hrefused]
    obtain ⟨e, f, he⟩ := hrefused
    rw [he]
    exact ⟨[], (List.append_nil _).symm, rfl⟩
  · generalize m.answer c = result at hserved
    cases hserved with
    | get _ => exact ⟨[], (List.append_nil _).symm, rfl⟩
    | list _ => exact ⟨[], (List.append_nil _).symm, rfl⟩
    | delete _ => exact ⟨_, rfl, rfl⟩
    | create hkey _ =>
      refine ⟨_, rfl, ?_⟩
      simp only [write, callEffect?_create hkey]
      rfl
    | replace hkey _ _ =>
      refine ⟨_, rfl, ?_⟩
      simp only [write, callEffect?_replace hkey]
      rfl
    | replaceStatus hkey _ _ =>
      refine ⟨_, rfl, ?_⟩
      simp only [write, callEffect?_replaceStatus hkey]
      rfl

theorem journal_get (m : Memory) (key : ObjectKey) :
    (m.answer (.get key)).2.journal = m.journal := by
  obtain ⟨entries, hjournal, hkeys⟩ := m.journal_call (.get key)
  rw [callEffect?_get] at hkeys
  rw [hjournal, List.map_eq_nil_iff.1 hkeys, List.append_nil]

/-- The effects of a procedure are noted, each with its key. -/
theorem journal_run (p : Procedure α) (m : Memory) :
    ∃ entries : List JournalEntry, (p.run Memory.answer m).2.journal = m.journal ++ entries ∧
      entries.map (·.key) = (effects p m).map Effect.key := by
  induction p generalizing m with
  | done a => exact ⟨[], (List.append_nil _).symm, rfl⟩
  | ask c next ih =>
    obtain ⟨first, hfirst, hkey⟩ := journal_call m c
    obtain ⟨rest, hrest, hkeys⟩ := ih (m.answer c).1 (m.answer c).2
    refine ⟨first ++ rest, ?_, ?_⟩
    · rw [← List.append_assoc, ← hfirst]
      exact hrest
    · rw [effects, List.map_append, List.map_append, hkey, hkeys]

theorem effects_eq_nil (hrun : p.run Memory.answer m = (a, m'))
    (hjournal : m'.journal = m.journal) : effects p m = [] := by
  obtain ⟨entries, hentries, hkeys⟩ := journal_run p m
  rw [hrun, hjournal, List.self_eq_append_right] at hentries
  rw [hentries] at hkeys
  exact List.map_eq_nil_iff.1 hkeys.symm

theorem effects_eq_wrote (hm : m.Reachable) (hrun : p.run Memory.answer m = (a, m')) {verb : Verb}
    (hjournal : m'.journal = m.journal ++ [⟨verb, key⟩]) (hget : m'.objects.get? key = some x) :
    effects p m = [.wrote key x] := by
  obtain ⟨entries, hentries, hkeys⟩ := journal_run p m
  rw [hrun, hjournal, List.append_cancel_left_eq] at hentries
  rw [← hentries] at hkeys
  obtain ⟨e, heffects, hkey⟩ := List.map_eq_singleton_iff.1 hkeys.symm
  have hobjects := hm.objects_run p
  rw [hrun, heffects] at hobjects
  have hobjects : m'.objects = e.on m.objects := hobjects
  rw [hobjects] at hget
  rw [heffects]
  cases e with
  | wrote other y =>
    obtain rfl : other = key := hkey
    rw [Effect.on, SortedMap.get?_insert_self] at hget
    cases hget
    rfl
  | removed other =>
    obtain rfl : other = key := hkey
    rw [Effect.on, SortedMap.get?_erase_self] at hget
    cases hget

theorem effects_replace {ε : Type} (context : StoreError → ε) (x : Object) (m : Memory) :
    effects (Attempt.ask context (.replace x)).run m = [] ∨
      ∃ key stored, m.objects.get? key = some stored ∧ isCurrent x stored = true ∧
        effects (Attempt.ask context (.replace x)).run m =
          [.wrote key (m.stamp (m.replaced key x stored))] := by
  rw [effects_ask]
  rcases m.answer_cases (.replace x) with hrefused | hserved
  · rw [callEffect?_refused hrefused]
    exact .inl rfl
  · generalize m.answer (.replace x) = result at hserved
    cases hserved with
    | @replace _ stored key hkey hget hcur =>
      refine .inr ⟨key, stored, hget, hcur, ?_⟩
      simp only [write, callEffect?_replace hkey, Option.toList_some]

end Effects

/-! ## Effects on one object -/

/-- What the calls of a procedure do to the object with this key, in order. -/
def writes {α : Type} (key : ObjectKey) (p : Procedure α) (m : Memory) : List Effect :=
  (effects p m).filter fun e => e.key = key

section Writes

variable {α β ε δ : Type} {m m' : Memory} {key : ObjectKey} {p : Attempt ε α}
  {f : α → Attempt ε β} {a : α} {e : ε}

theorem writes_bind (key : ObjectKey) (p : Procedure α) (f : α → Procedure β) (m : Memory) :
    writes key (p >>= f) m =
      writes key p m ++ writes key (f (p.run Memory.answer m).1) (p.run Memory.answer m).2 := by
  rw [writes, effects_bind, List.filter_append]
  rfl

/-- To end with something after a procedure is no write. -/
theorem writes_bind_done (p : Procedure α) (f : α → β) :
    writes key (p >>= fun a => .done (f a)) m = writes key p m :=
  (writes_bind key p _ m).trans (List.append_nil _)

theorem writes_of_effects {p : Procedure α} (h : effects p m = []) : writes key p m = [] := by
  rw [writes, h]
  rfl

theorem writes_bind_ok (h : p.run.run Memory.answer m = (.ok a, m')) :
    writes key (Attempt.run (p >>= f)) m = writes key p.run m ++ writes key (f a).run m' := by
  have hbind := writes_bind key p.run (ExceptT.bindCont f) m
  rw [h] at hbind
  exact hbind

theorem writes_bind_error (h : p.run.run Memory.answer m = (.error e, m')) :
    writes key (Attempt.run (p >>= f)) m = writes key p.run m := by
  have hbind := writes_bind key p.run (ExceptT.bindCont f) m
  rw [h] at hbind
  exact hbind.trans (List.append_nil _)

theorem writes_bind_silent (hf : ∀ a m', writes key (f a).run m' = []) :
    writes key (Attempt.run (p >>= f)) m = writes key p.run m := by
  cases h : p.run.run Memory.answer m with
  | mk result m' =>
    cases result with
    | ok a => rw [writes_bind_ok h, hf, List.append_nil]
    | error e => exact writes_bind_error h

theorem writes_adapt (g : ε → δ) :
    writes key (Attempt.run (ExceptT.adapt g p : Attempt δ α)) m = writes key p.run m :=
  writes_bind_done p.run (Except.mapError g)

theorem writes_lift (q : Procedure α) :
    writes key (Attempt.run (ExceptT.lift q : Attempt ε α)) m = writes key q m :=
  writes_bind_done q (Except.ok : α → Except ε α)

theorem Reachable.get?_run (hm : m.Reachable) {q : Procedure α} (h : writes key q m = []) :
    (q.run Memory.answer m).2.objects.get? key = m.objects.get? key := by
  rw [hm.objects_run q]
  rw [writes, List.filter_eq_nil_iff] at h
  generalize effects q m = es at h
  generalize m.objects = objects
  induction es generalizing objects with
  | nil => rfl
  | cons e rest ih =>
    obtain ⟨hne, hrest⟩ := List.forall_mem_cons.1 h
    have hne : key ≠ e.key := by simpa [eq_comm] using hne
    refine (ih hrest (e.on objects)).trans ?_
    cases e with
    | wrote other y => exact SortedMap.get?_insert_ne _ _ hne
    | removed other => exact SortedMap.get?_erase_ne _ hne

/-- If an object is there and all writes put one in its place of which this is true, it is true of
the object in every state. -/
theorem Reachable.forall_states (hm : m.Reachable) {good : Object → Prop}
    (hstored : ∃ o, m.objects.get? key = some o ∧ good o) {q : Procedure α}
    (hwrites : ∀ effect ∈ writes key q m, ∃ x, effect = .wrote key x ∧ good x) :
    ∀ s ∈ q.states Memory.answer m, ∃ o, s.objects.get? key = some o ∧ good o := by
  induction q generalizing m with
  | done a =>
    intro s hs
    cases List.mem_singleton.1 hs
    exact hstored
  | ask c next ih =>
    refine List.forall_mem_cons.2 ⟨hstored, ?_⟩
    have hsplit : writes key (Dialogue.ask c next) m =
        ((callEffect? c (m.answer c).1).toList.filter fun e => e.key = key) ++
          writes key (next (m.answer c).1) (m.answer c).2 := List.filter_append ..
    rw [hsplit, List.forall_mem_append] at hwrites
    obtain ⟨hfirst, hrest⟩ := hwrites
    refine ih _ (hm.run (Procedure.ask c)) ?_ hrest
    have hchange := m.change_call hm.keyed c
    generalize callEffect? c (m.answer c).1 = effect? at hchange hfirst
    cases hchange with
    | nothing hobjects _ =>
      rw [hobjects]
      exact hstored
    | @wrote other x _ _ hobjects _ =>
      rw [hobjects]
      by_cases hkey : other = key
      · subst hkey
        obtain ⟨y, heq, hgood⟩ := hfirst (.wrote other x) (by simp [Effect.key])
        cases heq
        exact ⟨x, SortedMap.get?_insert_self _ _, hgood⟩
      · rw [SortedMap.get?_insert_ne _ _ (Ne.symm hkey)]
        exact hstored
    | @removed other hobjects _ =>
      rw [hobjects]
      by_cases hkey : other = key
      · obtain ⟨y, heq, -⟩ := hfirst (.removed other) (by simp [Effect.key, hkey])
        cases heq
      · rw [SortedMap.get?_erase_ne _ (Ne.symm hkey)]
        exact hstored

end Writes

end Memory

/-! ## Calls that write to some keys only -/

/-- All that the call can write to satisfies this. -/
def Call.WritesTo (within : ObjectKey → Prop) : Call → Prop
  | .create object | .replace object | .replaceStatus object =>
    ∀ key, object.key = .ok key → within key
  | .delete key => within key
  | .get _ | .list _ _ => True

section WritesTo

variable {within : ObjectKey → Prop} {seen : List Object}

theorem Call.WritesTo.effect {c : Call} (h : c.WritesTo within) {answer : c.Answer}
    {e : Memory.Effect} (he : Memory.callEffect? c answer = some e) : within e.key := by
  have hobject : ∀ {object stored : Object}, (∀ key, object.key = .ok key → within key) →
      (object.key.toOption.map fun key => Memory.Effect.wrote key stored) = some e →
        within e.key := by
    intro object stored hall hmap
    obtain ⟨key, hkey, rfl⟩ := Option.map_eq_some_iff.1 hmap
    cases hx : object.key with
    | error defect =>
      rw [hx] at hkey
      cases hkey
    | ok other =>
      rw [hx] at hkey
      cases hkey
      exact hall _ hx
  cases answer with
  | error failure => cases c <;> cases he
  | ok reply =>
    cases c with
    | create object => exact hobject h he
    | replace object => exact hobject h he
    | replaceStatus object => exact hobject h he
    | delete key =>
      cases he
      exact h
    | get key => cases he
    | list type ns => cases he

theorem Obeys.effects {α : Type} {result : List Object → α → Prop} {p : Procedure α}
    (h : Obeys (fun _ c => c.WritesTo within) result p seen) (m : Memory) :
    ∀ e ∈ Memory.effects p m, within e.key := by
  induction p generalizing seen m with
  | done a => exact List.forall_mem_nil _
  | ask c next ih =>
    obtain ⟨hc, hnext⟩ := h
    refine List.forall_mem_append.2 ⟨fun e he => ?_, ih _ (hnext _) _⟩
    exact hc.effect (Option.mem_toList.1 he)

end WritesTo

end MeshOperator
