import MeshOperator.Object.Kind
import MeshOperator.Record.Shape

/-!
The definition of the kind of records, as the cluster wants it: names, scope, schema, the columns
of a listing, and status as a subresource.
-/

namespace MeshOperator

set_option autoImplicit false

def printerColumn (name type path : String) : Json := .obj [
  ("jsonPath", .str path),
  ("name", .str name),
  ("type", .str type)]

def recordDefinition : Json :=
  let kind := Kind.record
  let group := kind.type.group
  .obj [
    ("apiVersion", .str Kind.customResourceDefinition.type.apiVersion),
    ("kind", .str Kind.customResourceDefinition.type.kind),
    ("metadata", .obj [("name", .str (kind.plural ++ "." ++ group))]),
    ("spec", .obj [
      ("group", .str group),
      ("names", .obj [
        ("categories", .arr []),
        ("kind", .str kind.type.kind),
        ("plural", .str kind.plural),
        ("shortNames", .arr []),
        ("singular", .str "linkerd")]),
      ("scope", .str "Namespaced"),
      ("versions", .arr [.obj [
        ("additionalPrinterColumns", .arr [
          printerColumn "Status" "string" ".status.Status",
          printerColumn "Error" "string" ".status.ErrorMessage",
          printerColumn "Age" "date" ".metadata.creationTimestamp"]),
        ("name", .str kind.type.version),
        ("schema", .obj [("openAPIV3Schema", Shape.record.schema)]),
        ("served", .bool true),
        ("storage", .bool true),
        ("subresources", .obj [("status", .obj [])])]])])]

end MeshOperator
