import MeshOperator.Dialogue
import MeshOperator.Json.Reader
import MeshOperator.Store.Report
import MeshOperator.Text.Quoted

/-!
Requests to a server and what its responses mean.

An `Exchange` is a dialogue with a server. A request is sent only if its target is valid; what
follows a `#` is not sent. `request` brings the text of a response that is no error, and
`fetch` the value that the text stands for. A response with an error code brings the report in its
text or, if there is none, a report made of the text itself.
-/

namespace MeshOperator

set_option autoImplicit false

/-! ## Targets -/

namespace Target

/-- May the character stand in the path of a target? -/
def isPathChar (c : Char) : Bool :=
  let n := c.toNat
  n = 0x21 || (0x24 ≤ n && n ≤ 0x3B) || n = 0x3D || (0x40 ≤ n && n ≤ 0x5F)
    || (0x61 ≤ n && n ≤ 0x7E) || 0x7F ≤ n || c = '"'

/-- May the character stand behind the question mark of a target? -/
def isQueryChar (c : Char) : Bool :=
  let n := c.toNat
  n = 0x21 || (0x24 ≤ n && n ≤ 0x3B) || n = 0x3D || 0x3F ≤ n

/-- All bytes of a longer target cannot be counted in 16 bits. -/
def sizeLimit : Nat := 65534

/-- The part of a target that is sent, if the target is valid. -/
def sent? (target : String) : Option String :=
  if sizeLimit < target.utf8ByteSize then none
  else
    let sent := target.toList.takeWhile (· ≠ '#')
    let path := sent.takeWhile (· ≠ '?')
    let query := (sent.dropWhile (· ≠ '?')).drop 1
    if path.all isPathChar && query.all isQueryChar then some (String.ofList sent) else none

end Target

/-! ## Requests and responses -/

inductive Method where
  | get
  | post
  | put
  | delete
  deriving DecidableEq, Repr

def Method.text : Method → String
  | .get => "GET"
  | .post => "POST"
  | .put => "PUT"
  | .delete => "DELETE"

structure Request where
  method : Method
  target : String
  body : Option Json

structure Response where
  code : Nat
  text : String
  deriving DecidableEq, Repr

namespace Response

def isError (r : Response) : Bool := 400 ≤ r.code && r.code < 600

def report (r : Response) : Report :=
  match (Json.parse r.text).bind Report.ofJson? with
  | some report => report
  | none => ⟨r.code, "Failed to parse error data", Text.quote r.text⟩

end Response

/-- Requests one after another. The answer is the response if one arrives. -/
abbrev Exchange := Dialogue Request fun _ => Option Response

inductive RequestFailure where
  | refused (report : Report)
  /-- The request could not be sent, or its response could not be understood. -/
  | failed
  deriving DecidableEq, Repr

namespace Exchange

variable {α : Type}

def textOf : Option Response → Except RequestFailure String
  | none => .error .failed
  | some r => if r.isError then .error (.refused r.report) else .ok r.text

def valueOf (read : Json → Option α) (text : String) : Except RequestFailure α :=
  match (Json.parse text).bind read with
  | some v => .ok v
  | none => .error .failed

def fetch (method : Method) (target : String) (body : Option Json) (read : Json → Option α) :
    Exchange (Except RequestFailure α) :=
  match Target.sent? target with
  | none => .done (.error .failed)
  | some sent => .ask ⟨method, sent, body⟩ fun response =>
    .done (textOf response >>= valueOf read)

end Exchange

end MeshOperator
