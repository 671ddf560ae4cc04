import MeshOperator.Proofs.MemorySteps
import MeshOperator.Proofs.Runs

/-!
Attempts on a store in memory that are foiled.

A call that is refused writes nothing: it fails, and at most an arranged conflict was used up. So
does an attempt that ends with such a call.
-/

namespace MeshOperator

set_option autoImplicit false

namespace Memory

/-- A failure without a write: at most an arranged conflict was used up. -/
def Foiled {ε α : Type} (m : Memory) (result : Except ε α × Memory) : Prop :=
  ∃ e f, result = (.error e, { m with conflicts := f })

theorem Foiled.bind {ε α β : Type} {m : Memory} {p : Attempt ε α} {f : α → Attempt ε β}
    (h : Foiled m (p.run.run Memory.answer m)) :
    Foiled m ((Attempt.run (p >>= f)).run Memory.answer m) := by
  obtain ⟨e, conflicts, he⟩ := h
  exact ⟨e, conflicts, Attempt.run_bind_error he⟩

section Attempts

variable {ε : Type} (context : StoreError → ε) (m : Memory)

theorem find_cases (key : ObjectKey) :
    Foiled m ((Attempt.find context key).run.run Memory.answer m) ∨
      (m.objects.get? key = none ∧
        (Attempt.find context key).run.run Memory.answer m = (.ok none, m)) ∨
      ∃ live, m.objects.get? key = some live ∧
        (Attempt.find context key).run.run Memory.answer m = (.ok (some live), m) := by
  rcases m.get_cases key with ⟨e, f, he⟩ | ⟨live, hget, hok⟩
  · have ha : m.answer (.get key) = _ := he
    by_cases hmissing : e.isNotFound = true
    · cases e with
      | notFound missing =>
        obtain ⟨hm, hget⟩ := get_notFound ha
        rw [hm] at ha
        exact .inr (.inl ⟨hget, Attempt.run_find_notFound ha⟩)
      | _ => cases hmissing
    · exact .inl ⟨_, f, Attempt.run_find_error ha (Bool.eq_false_iff.2 hmissing)⟩
  · exact .inr (.inr ⟨live, hget, Attempt.run_find_ok hok⟩)

/-- A single call in context is foiled, or it is served. -/
theorem ask_cases (c : Call) :
    Foiled m ((Attempt.ask context c).run.run Memory.answer m) ∨
      ∃ reply m', (Attempt.ask context c).run.run Memory.answer m = (.ok reply, m') ∧
        Served m c (.ok reply, m') := by
  rcases m.answer_cases c with ⟨e, f, he⟩ | hserved
  · exact .inl ⟨_, f, Attempt.run_ask_error he⟩
  · cases ha : m.answer c with
    | mk result m' =>
      rw [ha] at hserved
      cases result with
      | ok reply => exact .inr ⟨reply, m', Attempt.run_ask_ok ha, hserved⟩
      | error e => cases hserved

end Attempts

end Memory

end MeshOperator
