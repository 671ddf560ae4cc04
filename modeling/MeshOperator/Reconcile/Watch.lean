import MeshOperator.Reconcile.Pass
import MeshOperator.Remote.Collection
import MeshOperator.Remote.Request
import MeshOperator.Scope

/-!
Watching records.

The operator watches the records in its scope and the workloads that belong to them. Every record
that it sees gets a pass at once. A pass that fails is repeated after a delay, one that succeeds
is not repeated until something changes.

While nothing changes, passes come in rounds: the first has a pass for every record, and each
later one a pass for every record whose pass failed in the round before.
-/

namespace MeshOperator

set_option autoImplicit false

namespace Watch

/-! ## What is watched -/

/-- Records, and the kinds of workloads that belong to them. -/
def kinds : List Kind := [
  .record, .deployment, .service, .configMap, .secret, .serviceAccount, .cronJob]

/-- The path under which objects of a kind are listed and watched, if there can be one. -/
def path? (scope : Scope) (kind : Kind) : Option String :=
  Target.sent? ((Collection.ofKind kind).path scope.watchNamespace)

def paths (scope : Scope) : List String := kinds.filterMap (path? scope)

/-- The keys of the records that are seen, each once. -/
def seen (scope : Scope) (records : List Record) : List ObjectKey :=
  if (path? scope .record).isSome then (records.map (·.key)).eraseDups else []

/-! ## Rounds -/

variable {σ : Type}

/-- A pass for every key; the keys whose pass failed remain. -/
def round (pass : ObjectKey → σ → Bool × σ) : List ObjectKey → σ → List ObjectKey × σ
  | [], s => ([], s)
  | key :: rest, s =>
    let (succeeded, s) := pass key s
    let (failed, s) := round pass rest s
    (if succeeded then failed else key :: failed, s)

def rounds (pass : ObjectKey → σ → Bool × σ) : Nat → List ObjectKey → σ → σ
  | 0, _, s => s
  | n + 1, keys, s =>
    let (failed, s) := round pass keys s
    rounds pass n failed s

/-- How many rounds begin within a time. The first begins at once. -/
def roundsWithin (delay time : Nat) : Nat :=
  if time = 0 then 0 else if delay = 0 then 1 else (time - 1) / delay + 1

end Watch

end MeshOperator
