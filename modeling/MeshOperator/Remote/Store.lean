import MeshOperator.Remote.Discovery
import MeshOperator.Store.Procedure

/-!
An object store that is a server at the other end of a line.

A call on a known kind is one request. For any other kind the store finds out first where the
server keeps its objects, and remembers it once found. Where the kind turns out to be namespaced, an
object without namespace is refused without a request about it.

`Remote.answer` is the dialogue with the server that a call leads to, and `Remote.store` a store
whose server is reached by any means.
-/

namespace MeshOperator

set_option autoImplicit false

abbrev Located := List (TypeName × Collection)

namespace Remote

/-! ## Where objects are kept -/

/-- The collection of a type if it is known, without asking the server. -/
def known? (located : Located) (type : TypeName) : Option Collection :=
  match Kind.find? type with
  | some kind => some (.ofKind kind)
  | none => located.lookup type

def resolve (type : TypeName) (located : Located) :
    Exchange (Except StoreError Collection × Located) :=
  match known? located type with
  | some collection => .done (.ok collection, located)
  | none => do
    match ← Discovery.locate type with
    | .error e => return (.error e, located)
    | .ok collection => return (.ok collection, (type, collection) :: located)

/-- The collection of an object, if the object has a place there. Once this is known, the collection
is looked up again. -/
def resolveFor (key : ObjectKey) (located : Located) :
    Exchange (Except StoreError Collection × Located) := do
  match ← resolve key.type located with
  | (.error e, located) => return (.error e, located)
  | (.ok collection, located) =>
    if collection.namespaced ∧ key.ns = none then
      return (.error (.invalid (Defect.unplaced key).text), located)
    else resolve key.type located

def withCollection {α : Type} (found : Exchange (Except StoreError Collection × Located))
    (request : Collection → Exchange (Except StoreError α)) :
    Exchange (Except StoreError α × Located) := do
  match ← found with
  | (.error e, located) => return (.error e, located)
  | (.ok collection, located) => return (← request collection, located)

/-! ## Requests -/

def error (key : ObjectKey) : RequestFailure → StoreError
  | .refused report => .ofReport key report
  | .failed => .client []

def fetch {α : Type} (key : ObjectKey) (method : Method) (target : String) (body : Option Json)
    (read : Json → Option α) : Exchange (Except StoreError α) := do
  return (← Exchange.fetch method target body read).mapError (error key)

/-- A request in the collection of an object. -/
def inCollection {α : Type} (key : ObjectKey) (located : Located)
    (request : Collection → Exchange (Except StoreError α)) :
    Exchange (Except StoreError α × Located) :=
  withCollection (resolveFor key located) request

/-- A request about an object. Its path is given to `request`. -/
def onObject {α : Type} (key : ObjectKey) (located : Located)
    (request : String → Exchange (Except StoreError α)) :
    Exchange (Except StoreError α × Located) :=
  inCollection key located fun collection => request (collection.objectPath key)

/-- The key of an object has to be known for a request about it. -/
def keyed {α : Type} (object : Object) (located : Located)
    (next : ObjectKey → Exchange (Except StoreError α × Located)) :
    Exchange (Except StoreError α × Located) :=
  match object.key with
  | .error defect => .done (.error (.invalid defect.text), located)
  | .ok key => next key

/-! ## Responses -/

namespace Reply

def cause? (v : Json) : Option Unit := do
  let members ← Json.asFields? ["reason", "message", "field"] v
  let _ ← Json.fieldOr? members "reason" "" Json.asString?
  let _ ← Json.fieldOr? members "message" "" Json.asString?
  let _ ← Json.fieldOr? members "field" "" Json.asString?
  some ()

def details? (v : Json) : Option Unit := do
  let members ← Json.asFields? ["name", "group", "kind", "uid", "causes", "retryAfterSeconds"] v
  let _ ← Json.fieldOr? members "name" "" Json.asString?
  let _ ← Json.fieldOr? members "group" "" Json.asString?
  let _ ← Json.fieldOr? members "kind" "" Json.asString?
  let _ ← Json.fieldOr? members "uid" "" Json.asString?
  let _ ← Json.fieldOr? members "causes" [] (Json.asList? cause?)
  let _ ← Json.fieldOr? members "retryAfterSeconds" 0 (Json.asInt? 0 4294967295)
  some ()

/-- A summary of how a request went. -/
def summary? : Json → Option Unit
  | .obj members => do
    let _ ← Json.optionalField? members "status"
      (Json.asChoice? [("Success", true), ("Failure", false)])
    let _ ← Json.fieldOr? members "code" 0 Json.asNat16?
    let _ ← Json.fieldOr? members "message" "" Json.asString?
    let _ ← Json.fieldOr? members "reason" "" Json.asString?
    let _ ← Json.optionalField? members "details" details?
    some ()
  | _ => none

/-- A deletion is answered by a summary or by the object. -/
def deleted? (v : Json) : Option Unit :=
  if v.member? "kind" == some (.str "Status") then summary? v
  else (Object.ofJson? v).map fun _ => ()

def listMetadata? : Json → Option Unit
  | .obj members => do
    let _ ← Json.optionalField? members "continue" Json.asString?
    let _ ← Json.optionalField? members "remainingItemCount" Json.asInt64?
    let _ ← Json.optionalField? members "resourceVersion" Json.asString?
    let _ ← Json.optionalField? members "selfLink" Json.asString?
    some ()
  | _ => none

/-- Items of a list mostly come without type: they are of the type that was asked for. -/
def typed (type : TypeName) (o : Object) : Object := { o with type := some (o.type.getD type) }

def list? (type : TypeName) : Json → Option (List Object)
  | .obj members => do
    let _ ← (Assoc.find? "metadata" members).bind listMetadata?
    let items ← (Assoc.find? "items" members).bind (Json.asList? Object.ofJson?)
    some (items.map (typed type))
  | _ => none

end Reply

/-! ## Calls -/

/-- A list has no name; errors are about the collection. -/
def listKey (type : TypeName) (ns : Option String) : ObjectKey :=
  ⟨type.apiVersion, type.kind, ns, ""⟩

/-- The dialogue with the server that answers a call. -/
def answer : (c : Call) → Located → Exchange (c.Answer × Located)
  | .get key, located => onObject key located fun path =>
    fetch key .get path none Object.ofJson?
  | .create object, located => keyed object located fun key =>
    inCollection key located fun collection =>
      fetch key .post (collection.path key.ns ++ "?") (some object.toJson) Object.ofJson?
  | .replace object, located => keyed object located fun key =>
    onObject key located fun path =>
      fetch key .put (path ++ "?") (some object.toJson) Object.ofJson?
  | .replaceStatus object, located => keyed object located fun key =>
    onObject key located fun path =>
      fetch key .put (path ++ "/status?") (some object.toJson) Object.ofJson?
  | .delete key, located => onObject key located fun path =>
    fetch key .delete (path ++ "?") (some (.obj [])) Reply.deleted?
  | .list type ns, located => withCollection (resolve type located) fun collection =>
    fetch (listKey type ns) .get (collection.path ns ++ "?") none (Reply.list? type)

/-- A store whose server is reached by `send`. -/
def store {σ : Type} (send : Request → σ → Option Response × σ) (c : Call) (s : Located × σ) :
    c.Answer × (Located × σ) :=
  let ((a, located), line) := (answer c s.1).run send s.2
  (a, (located, line))

end Remote

end MeshOperator
