import MeshOperator.Dialogue
import MeshOperator.Store.Error

/-!
Procedures that work on an object store through calls.

A `Call` is one request to a store and `Call.Answer` what comes back. A `Procedure` is a dialogue
with a store: it makes calls one after another and does not know which store answers. An
interleaving of several procedures can be described at the granularity of single calls.
-/

namespace MeshOperator

set_option autoImplicit false

inductive Verb where
  | get
  | create
  | replace
  | replaceStatus
  | delete
  | list
  deriving DecidableEq, Repr

namespace Verb

def all : List Verb := [.get, .create, .replace, .replaceStatus, .delete, .list]

def text : Verb → String
  | .get => "get"
  | .create => "create"
  | .replace => "replace"
  | .replaceStatus => "replace_status"
  | .delete => "delete"
  | .list => "list"

def ofText? (s : String) : Option Verb := all.find? fun v => v.text = s

end Verb

inductive Call where
  | get (key : ObjectKey)
  | create (object : Object)
  | replace (object : Object)
  /-- Write the status of an object and nothing else. -/
  | replaceStatus (object : Object)
  | delete (key : ObjectKey)
  /-- The objects of a type, those in a namespace or all. -/
  | list (type : TypeName) (ns : Option String)

namespace Call

/-- What a call brings if it succeeds. -/
abbrev Reply : Call → Type
  | .get _ | .create _ | .replace _ | .replaceStatus _ => Object
  | .delete _ => Unit
  | .list _ _ => List Object

abbrev Answer (c : Call) : Type := Except StoreError c.Reply

def verb : Call → Verb
  | .get _ => .get
  | .create _ => .create
  | .replace _ => .replace
  | .replaceStatus _ => .replaceStatus
  | .delete _ => .delete
  | .list _ _ => .list

end Call

abbrev Procedure := Dialogue Call Call.Answer

namespace Procedure

def ask (c : Call) : Procedure c.Answer := Dialogue.single c

theorem run_ask {σ : Type} (answer : (c : Call) → σ → c.Answer × σ) (c : Call) (s : σ) :
    (ask c).run answer s = answer c s := rfl

end Procedure

abbrev Attempt (ε α : Type) := ExceptT ε Procedure α

namespace Attempt

variable {α ε : Type}

def run (p : Attempt ε α) : Procedure (Except ε α) := p

/-- A single call, its error put into context. -/
def ask (context : StoreError → ε) (c : Call) : Attempt ε c.Reply :=
  ExceptT.mk (Dialogue.ask c fun answer => .done (answer.mapError context))

def ofExcept (r : Except ε α) : Attempt ε α := ExceptT.mk (.done r)

def find (context : StoreError → ε) (key : ObjectKey) : Attempt ε (Option Object) :=
  ExceptT.mk (Dialogue.ask (.get key) fun answer => .done (match answer with
    | .ok object => .ok (some object)
    | .error (.notFound _) => .ok none
    | .error e => .error (context e)))

/-- To go on with what a procedure ends with is to go on after it. -/
theorem run_lift_bind {β : Type} (p : Procedure α) (f : α → Attempt ε β) :
    ((liftM p : Attempt ε α) >>= f).run = p >>= fun a => (f a).run := by
  induction p with
  | done a => rfl
  | ask c next ih => exact congrArg (Dialogue.ask c) (funext ih)

end Attempt

end MeshOperator
