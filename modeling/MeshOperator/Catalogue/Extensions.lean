import MeshOperator.Catalogue.Parts
import MeshOperator.Catalogue.Subsystem

/-!
Kinds that users of the mesh may want to have defined. They are not part of the control plane.
-/

namespace MeshOperator

set_option autoImplicit false

namespace Catalogue

/-- The definition of a kind, labelled as part of the control plane. -/
def kindDefinition (d : KindDefinition) (c : Configuration) : Manifest where
  name := d.plural ++ "." ++ d.group
  ns := none
  labels := sharedLabels c
  annotations := some (createdBy c)
  owner := c.ownerFor none
  content := .kindDefinition d

namespace ServiceProfile

/-- The first version is still served for old clients. -/
def definition : KindDefinition where
  group := "linkerd.io"
  kind := "ServiceProfile"
  plural := "serviceprofiles"
  singular := "serviceprofile"
  shortName := "sp"
  versions := [{ name := "v1alpha1", storage := false }, { name := "v1alpha2", storage := true }]

def subsystem : Subsystem where
  name := "serviceprofile"
  productions := [.always "custom-resource-definition" (kindDefinition definition)]

end ServiceProfile

namespace TrafficSplit

def definition : KindDefinition where
  group := "split.smi-spec.io"
  kind := "TrafficSplit"
  plural := "trafficsplits"
  singular := "trafficsplit"
  shortName := "ts"
  versions := [{
    name := "v1alpha1"
    storage := true
    columns := [{
      name := "Service"
      type := "string"
      description := "The apex service of this split."
      path := ".spec.service" }] }]

def subsystem : Subsystem where
  name := "trafficsplit"
  productions := [.always "custom-resource-definition" (kindDefinition definition)]

end TrafficSplit

end Catalogue

end MeshOperator
