import MeshOperator.Catalogue.All

/-!
Rendering a record: the objects that it declares, without a cluster.
-/

namespace MeshOperator

set_option autoImplicit false

inductive RenderError where
  | unsupportedVersion (version : String)
  | unresolved (cause : ResolveError)
  | unbuildable (subsystem : String) (cause : BuildError)
  deriving DecidableEq, Repr

namespace RenderError

def context : RenderError → String
  | .unsupportedVersion version => "unsupported Linkerd version " ++ Text.quote version
  | .unresolved _ => "resolving record"
  | .unbuildable subsystem _ => "rendering " ++ subsystem

def causes : RenderError → List String
  | .unsupportedVersion _ => []
  | .unresolved cause => [cause.text]
  | .unbuildable _ cause => cause.layers

end RenderError

namespace Catalogue

/-- The objects of a subsystem that are to exist. -/
def renderPresent (c : Configuration) (s : Subsystem) : Except RenderError (List Managed) :=
  match s.render c with
  | .error e => .error (.unbuildable s.name e)
  | .ok rendered => .ok ((rendered.filter fun r => r.2 = .present).map (·.1))

/-- The objects of a record that are to exist, in the order in which a pass makes them. -/
def render (includeReserved : Bool) (record : Record) : Except RenderError (List Managed) :=
  if isSupported record.spec.version then
    match Configuration.resolve record with
    | .error e => .error (.unresolved e)
    | .ok c =>
      let subsystems := controlPlane ++ if includeReserved then reserved else []
      (subsystems.mapM (renderPresent c)).map List.flatten
  else .error (.unsupportedVersion record.spec.version)

end Catalogue

end MeshOperator
