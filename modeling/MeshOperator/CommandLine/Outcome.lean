import MeshOperator.Catalogue.Rendering
import MeshOperator.CommandLine.Help
import MeshOperator.Record.Definition
import MeshOperator.Record.Document
import MeshOperator.Scope

/-!
What the program does for its arguments.

Rendering and the definition of the kind of records need no cluster. No way to a cluster is known
here, so the commands that need one end where they would look for it.
-/

namespace MeshOperator

set_option autoImplicit false

namespace CommandLine

inductive Outcome where
  | documents (values : List Json)
  | text (text : String)
  /-- The program was at `context` when it failed; causes, the outermost first. -/
  | failed (context : String) (causes : List String)
  | misused

def failureLines (context : String) (causes : List String) : List String :=
  ("Error: " ++ context) :: causes

/-- A record without namespace is taken to be in this one. -/
def inNamespace (ns : String) (record : Record) : Record :=
  { record with metadata := { record.metadata with ns := some (record.metadata.ns.getD ns) } }

def noCluster : Outcome := .failed "building kube client" ["no cluster is configured"]

/-- Render the record in a file, whose text is given if it can be read. -/
def renderFile (file ns : String) (includeReserved : Bool) : Option String → Outcome
  | none => .failed ("reading " ++ file) ["the file cannot be read"]
  | some text =>
    match Record.ofYaml? text with
    | none => .failed ("parsing " ++ file) ["the document is no record"]
    | some record =>
      match Catalogue.render includeReserved (inNamespace ns record) with
      | .error e => .failed e.context e.causes
      | .ok objects => .documents (objects.map fun o => o.object.toJson)

/-- Carry a command out; `read` gives the text of a file. -/
def Command.perform (read : String → Option String) : Command → Outcome
  | .run options =>
    match Scope.resolve options.podNamespace options.watchNamespace with
    | .error e => .failed "resolving watch scope" [e.text]
    | .ok _ => noCluster
  | .definition => .documents [recordDefinition]
  | .render file ns includeReserved => renderFile file ns includeReserved (read file)
  | .release _ => noCluster

def outcome (environment read : String → Option String) (arguments : List String) : Outcome :=
  match Invocation.ofArguments? environment arguments with
  | none => .misused
  | some (.help topic) => .text (helpText topic)
  | some .version => .text versionText
  | some (.command c) => c.perform read

end CommandLine

end MeshOperator
