import MeshOperator.Store.Procedure

/-!
Runs of attempts.

The run of a sequence goes on with what its first part ends with, or ends where that failed. What
it asks is what its parts ask, one after another.
-/

namespace MeshOperator

set_option autoImplicit false

namespace Attempt

variable {α β ε δ σ : Type} {answer : (c : Call) → σ → c.Answer × σ} {s s' : σ}
  {p : Attempt ε α} {f : α → Attempt ε β} {a : α} {e : ε}

theorem run_bind_ok (h : p.run.run answer s = (.ok a, s')) :
    (Attempt.run (p >>= f)).run answer s = (f a).run.run answer s' := by
  have hbind := Dialogue.run_bind answer p.run (ExceptT.bindCont f) s
  rw [h] at hbind
  exact hbind

theorem run_bind_error (h : p.run.run answer s = (.error e, s')) :
    (Attempt.run (p >>= f)).run answer s = (.error e, s') := by
  have hbind := Dialogue.run_bind answer p.run (ExceptT.bindCont f) s
  rw [h] at hbind
  exact hbind

theorem run_bind_inv {b : β} {s'' : σ} (h : (Attempt.run (p >>= f)).run answer s = (.ok b, s'')) :
    ∃ a s', p.run.run answer s = (.ok a, s') ∧ (f a).run.run answer s' = (.ok b, s'') := by
  cases hp : p.run.run answer s with
  | mk r s' =>
    cases r with
    | ok a => exact ⟨a, s', rfl, (run_bind_ok hp).symm.trans h⟩
    | error e =>
      rw [run_bind_error hp] at h
      cases h

theorem questions_bind_ok (h : p.run.run answer s = (.ok a, s')) :
    (Attempt.run (p >>= f)).questions answer s =
      p.run.questions answer s ++ (f a).run.questions answer s' := by
  have hbind := Dialogue.questions_bind answer p.run (ExceptT.bindCont f) s
  rw [h] at hbind
  exact hbind

theorem questions_bind_error (h : p.run.run answer s = (.error e, s')) :
    (Attempt.run (p >>= f)).questions answer s = p.run.questions answer s := by
  have hbind := Dialogue.questions_bind answer p.run (ExceptT.bindCont f) s
  rw [h] at hbind
  exact hbind.trans (List.append_nil _)

theorem turns_bind_ok (h : p.run.run answer s = (.ok a, s')) :
    (Attempt.run (p >>= f)).turns answer s =
      p.run.turns answer s ++ (f a).run.turns answer s' := by
  have hbind := Dialogue.turns_bind answer p.run (ExceptT.bindCont f) s
  rw [h] at hbind
  exact hbind

theorem turns_bind_error (h : p.run.run answer s = (.error e, s')) :
    (Attempt.run (p >>= f)).turns answer s = p.run.turns answer s := by
  have hbind := Dialogue.turns_bind answer p.run (ExceptT.bindCont f) s
  rw [h] at hbind
  exact hbind.trans (List.append_nil _)

theorem adapt_bind (g : ε → δ) (p : Attempt ε α) (f : α → Attempt ε β) :
    (ExceptT.adapt g (p >>= f) : Attempt δ β) =
      ((ExceptT.adapt g p : Attempt δ α) >>= fun a => (ExceptT.adapt g (f a) : Attempt δ β)) := by
  refine ExceptT.ext ?_
  rw [ExceptT.run_adapt, ExceptT.run_bind, ExceptT.run_bind, ExceptT.run_adapt, map_bind,
    bind_map_left]
  refine bind_congr fun r => ?_
  cases r with
  | ok a => exact (ExceptT.run_adapt g (f a)).symm
  | error e => exact map_pure _ _

theorem run_adapt (g : ε → δ) {r : Except ε α} (h : p.run.run answer s = (r, s')) :
    (Attempt.run (ExceptT.adapt g p : Attempt δ α)).run answer s = (r.mapError g, s') := by
  have hbind := Dialogue.run_bind answer p.run (fun r => .done (r.mapError g)) s
  rw [h] at hbind
  exact hbind

theorem run_adapt_inv {g : ε → δ}
    (h : (Attempt.run (ExceptT.adapt g p : Attempt δ α)).run answer s = (.ok a, s')) :
    p.run.run answer s = (.ok a, s') := by
  cases hp : p.run.run answer s with
  | mk r s₁ =>
    rw [run_adapt g hp] at h
    cases r with
    | ok b =>
      cases h
      rfl
    | error e => cases h

theorem questions_adapt (g : ε → δ) :
    (Attempt.run (ExceptT.adapt g p : Attempt δ α)).questions answer s =
      p.run.questions answer s := by
  have hbind := Dialogue.questions_bind answer p.run (fun r => .done (r.mapError g)) s
  exact hbind.trans (List.append_nil _)

theorem run_lift (q : Procedure α) :
    (Attempt.run (ExceptT.lift q : Attempt ε α)).run answer s =
      (.ok (q.run answer s).1, (q.run answer s).2) :=
  Dialogue.run_bind answer q (fun a => .done (Except.ok a)) s

theorem questions_lift (q : Procedure α) :
    (Attempt.run (ExceptT.lift q : Attempt ε α)).questions answer s = q.questions answer s := by
  have hbind := Dialogue.questions_bind answer q (fun a => .done (Except.ok a : Except ε α)) s
  exact hbind.trans (List.append_nil _)

section Find

variable {context : StoreError → ε} {key missing : ObjectKey} {o : Object}

theorem run_find_ok (h : answer (.get key) s = (.ok o, s')) :
    (find context key).run.run answer s = (.ok (some o), s') := by
  unfold find
  simp only [run, ExceptT.mk, Dialogue.run, h]

theorem run_find_notFound (h : answer (.get key) s = (.error (.notFound missing), s')) :
    (find context key).run.run answer s = (.ok none, s') := by
  unfold find
  simp only [run, ExceptT.mk, Dialogue.run, h]

theorem run_find_error {failure : StoreError} (h : answer (.get key) s = (.error failure, s'))
    (hfailure : failure.isNotFound = false) :
    (find context key).run.run answer s = (.error (context failure), s') := by
  unfold find
  simp only [run, ExceptT.mk, Dialogue.run, h]
  cases failure with
  | notFound missing => cases hfailure
  | _ => rfl

end Find

theorem run_ask_ok {c : Call} {context : StoreError → ε} {reply : c.Reply}
    (h : answer c s = (.ok reply, s')) :
    (ask context c).run.run answer s = (.ok reply, s') := by
  unfold ask
  simp only [run, ExceptT.mk, Dialogue.run, h]
  rfl

theorem run_ask_error {c : Call} {context : StoreError → ε} {failure : StoreError}
    (h : answer c s = (.error failure, s')) :
    (ask context c).run.run answer s = (.error (context failure), s') := by
  unfold ask
  simp only [run, ExceptT.mk, Dialogue.run, h]
  rfl

end Attempt

end MeshOperator
