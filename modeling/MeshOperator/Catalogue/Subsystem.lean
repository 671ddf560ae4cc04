import MeshOperator.Catalogue.Manifest
import MeshOperator.Existence
import MeshOperator.Record.Configuration
import MeshOperator.Store.Error
import MeshOperator.Text.Quoted

/-!
Subsystems: named lists of productions.

A `Production` makes the object of one resource from a configuration and says whether the
resource is to exist. The order of the productions of a subsystem is the order in which they reach
the cluster.
-/

namespace MeshOperator

set_option autoImplicit false

inductive BuildError where
  | encode (cause : StoreError)
  | schedule (text : String)
  deriving DecidableEq, Repr

namespace BuildError

def text : BuildError → String
  | .encode _ => "could not encode managed object"
  | .schedule text =>
    "invalid heartbeat schedule " ++ Text.quote text ++ ": expected five cron fields"

def layers : BuildError → List String
  | .encode cause => (encode cause).text :: cause.layers
  | .schedule text => [(schedule text).text]

end BuildError

structure Production where
  resource : String
  build : Configuration → Except BuildError Managed
  state : Existence

namespace Production

/-- A resource that is to exist, made from a manifest. -/
def present (resource : String) (build : Configuration → Except BuildError Manifest) :
    Production :=
  ⟨resource, fun c => (build c).map (·.managed), .present⟩

/-- A resource that is to exist and can be made from every configuration. -/
def always (resource : String) (build : Configuration → Manifest) : Production :=
  present resource fun c => .ok (build c)

/-- Whatever comes out was made from a manifest. -/
def FromManifest (p : Production) : Prop :=
  ∀ c resource, p.build c = .ok resource → ∃ m : Manifest, resource = m.managed

theorem fromManifest_present (resource : String)
    (build : Configuration → Except BuildError Manifest) :
    (present resource build).FromManifest := by
  intro c managed h
  have h : (build c).map (·.managed) = .ok managed := h
  cases hb : build c with
  | error e =>
    rw [hb] at h
    cases h
  | ok m =>
    rw [hb] at h
    exact ⟨m, (Except.ok.inj h).symm⟩

theorem fromManifest_always (resource : String) (build : Configuration → Manifest) :
    (always resource build).FromManifest := fromManifest_present _ _

end Production

structure Subsystem where
  name : String
  /-- Absent: no resource of the subsystem is to exist. -/
  state : Existence := .present
  productions : List Production

namespace Subsystem

def withState (state : Existence) (s : Subsystem) : Subsystem := { s with state := state }

/-- Is the resource of this production to exist? Both production and subsystem have to say so. -/
def effectiveState (s : Subsystem) (p : Production) : Existence := p.state.combine s.state

def render (s : Subsystem) (c : Configuration) : Except BuildError (List (Managed × Existence)) :=
  s.productions.mapM fun p => (p.build c).map fun m => (m, s.effectiveState p)

end Subsystem

end MeshOperator
