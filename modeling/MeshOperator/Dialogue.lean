/-!
Dialogues: computations that ask questions one after another, each depending on the answers so
far, and end with a result.

A dialogue does not know who answers. `Dialogue.run` runs it against any partner that answers
while changing a state, and `Dialogue.run` of a sequence runs its parts one after another. What a
dialogue asks, whatever the answers, can be read off its tree.
-/

namespace MeshOperator

set_option autoImplicit false

/-- Questions of type `Q`, each with its own type of answers. -/
inductive Dialogue (Q : Type) (A : Q → Type) (α : Type) where
  | done (result : α)
  | ask (question : Q) (next : A question → Dialogue Q A α)

namespace Dialogue

variable {Q : Type} {A : Q → Type} {α β σ : Type}

def bind : Dialogue Q A α → (α → Dialogue Q A β) → Dialogue Q A β
  | .done result, f => f result
  | .ask question next, f => .ask question fun answer => bind (next answer) f

instance : Monad (Dialogue Q A) where
  pure := .done
  bind := bind

instance : LawfulMonad (Dialogue Q A) :=
  LawfulMonad.mk' _
    (fun d => by
      induction d with
      | done result => rfl
      | ask question next ih => exact congrArg (ask question) (funext ih))
    (fun _ _ => rfl)
    (fun d f g => by
      induction d with
      | done result => rfl
      | ask question next ih => exact congrArg (ask question) (funext ih))

/-- Run a dialogue against a partner: any way to answer questions while changing a state. -/
def run (answer : (q : Q) → σ → A q × σ) : Dialogue Q A α → σ → α × σ
  | .done result, s => (result, s)
  | .ask question next, s =>
    let (a, s) := answer question s
    run answer (next a) s

def questions (answer : (q : Q) → σ → A q × σ) : Dialogue Q A α → σ → List Q
  | .done _, _ => []
  | .ask question next, s =>
    let (a, s) := answer question s
    question :: questions answer (next a) s

/-- What is said on both sides: the questions with the answers to them. -/
def turns (answer : (q : Q) → σ → A q × σ) : Dialogue Q A α → σ → List ((q : Q) × A q)
  | .done _, _ => []
  | .ask question next, s =>
    let (a, s) := answer question s
    ⟨question, a⟩ :: turns answer (next a) s

def single (q : Q) : Dialogue Q A (A q) := .ask q .done

theorem run_bind (answer : (q : Q) → σ → A q × σ) (d : Dialogue Q A α)
    (f : α → Dialogue Q A β) (s : σ) :
    (d >>= f).run answer s = (f (d.run answer s).1).run answer (d.run answer s).2 := by
  induction d generalizing s with
  | done result => rfl
  | ask question next ih => exact ih (answer question s).1 (answer question s).2

theorem questions_bind (answer : (q : Q) → σ → A q × σ) (d : Dialogue Q A α)
    (f : α → Dialogue Q A β) (s : σ) :
    (d >>= f).questions answer s =
      d.questions answer s ++ (f (d.run answer s).1).questions answer (d.run answer s).2 := by
  induction d generalizing s with
  | done result => rfl
  | ask question next ih =>
    exact congrArg (question :: ·) (ih (answer question s).1 (answer question s).2)

theorem run_pure (answer : (q : Q) → σ → A q × σ) (result : α) (s : σ) :
    (pure result : Dialogue Q A α).run answer s = (result, s) := rfl

theorem turns_pure (answer : (q : Q) → σ → A q × σ) (result : α) (s : σ) :
    (pure result : Dialogue Q A α).turns answer s = [] := rfl

theorem turns_bind (answer : (q : Q) → σ → A q × σ) (d : Dialogue Q A α)
    (f : α → Dialogue Q A β) (s : σ) :
    (d >>= f).turns answer s =
      d.turns answer s ++ (f (d.run answer s).1).turns answer (d.run answer s).2 := by
  induction d generalizing s with
  | done result => rfl
  | ask question next ih =>
    exact congrArg (List.cons _) (ih (answer question s).1 (answer question s).2)

theorem run_map (answer : (q : Q) → σ → A q × σ) (f : α → β) (d : Dialogue Q A α) (s : σ) :
    (f <$> d).run answer s = (f (d.run answer s).1, (d.run answer s).2) := by
  rw [map_eq_pure_bind, run_bind, run_pure]

theorem turns_map (answer : (q : Q) → σ → A q × σ) (f : α → β) (d : Dialogue Q A α) (s : σ) :
    (f <$> d).turns answer s = d.turns answer s := by
  rw [map_eq_pure_bind, turns_bind, turns_pure, List.append_nil]

end Dialogue

end MeshOperator
