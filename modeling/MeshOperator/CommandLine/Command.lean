import MeshOperator.CommandLine.Arguments

/-!
Commands of the program.

`Invocation.ofArguments?` reads the arguments of the program. Some options of `run` may come from
the environment instead; an option that is given wins.
-/

namespace MeshOperator

set_option autoImplicit false

namespace CommandLine

structure RunOptions where
  podNamespace : Option String
  watchNamespace : Option String
  /-- The delay in seconds before a failed pass is repeated. -/
  requeueDelay : Nat
  metricsAddress : Option String
  deriving DecidableEq, Repr

inductive Command where
  | run (options : RunOptions)
  | definition
  | render (file ns : String) (includeReserved : Bool)
  | release (ns : Option String)
  deriving DecidableEq, Repr

inductive Topic where
  | program
  | run
  | definition
  | render
  | release
  | help
  deriving DecidableEq, Repr

def Topic.ofName? (name : String) : Option Topic :=
  [("run", .run), ("crd", .definition), ("render", .render), ("release", .release),
    ("help", Topic.help)].lookup name

inductive Invocation where
  | command (c : Command)
  | help (topic : Topic)
  | version
  deriving DecidableEq, Repr

/-! ## Signatures -/

/-- A whole number of 64 bits, perhaps with a plus sign. -/
def seconds? (text : String) : Option Nat :=
  let digits := match text.toList with
    | '+' :: rest => rest
    | all => all
  if digits ≠ [] ∧ digits.all Char.isDigit then
    let n := digits.foldl (fun n c => n * 10 + (c.toNat - 48)) 0
    if n < UInt64.size then some n else none
  else none

def runSignature : Signature where
  options := ["pod-namespace", "watch-namespace", "requeue-secs", "metrics-addr"]
  switches := []
  positionals := []
  accepts := fun name value => name ≠ "requeue-secs" || (seconds? value).isSome

def definitionSignature : Signature := ⟨[], [], [], fun _ _ => true⟩

/-- The path of a file is not empty. -/
def renderSignature : Signature where
  options := ["ns"]
  switches := ["include-reserved"]
  positionals := ["file"]
  accepts := fun name value => name ≠ "file" || value ≠ ""

def releaseSignature : Signature := ⟨["ns"], [], [], fun _ _ => true⟩

/-! ## Reading -/

/-- Variables of the environment that stand for options. -/
def environmentNames : List (String × String) := [
  ("pod-namespace", "POD_NAMESPACE"),
  ("watch-namespace", "WATCH_NAMESPACE"),
  ("requeue-secs", "MESHOP_REQUEUE_SECS"),
  ("metrics-addr", "MESHOP_METRICS_ADDR")]

/-- The value of an option, given or from the environment. -/
def valueOf (environment : String → Option String) (g : Given) (name : String) : Option String :=
  (g.value? name).or ((environmentNames.lookup name).bind environment)

def runOfGiven? (environment : String → Option String) (g : Given) : Option Command := do
  let delay ← match valueOf environment g "requeue-secs" with
    | none => some 30
    | some text => seconds? text
  some (.run ⟨valueOf environment g "pod-namespace", valueOf environment g "watch-namespace", delay,
    valueOf environment g "metrics-addr"⟩)

def renderOfGiven? (g : Given) : Option Command := do
  let file ← g.value? "file"
  some (.render file ((g.value? "ns").getD "linkerd") ("include-reserved" ∈ g.switches))

def ofReading (topic : Topic) (command : Given → Option Command) : Reading → Option Invocation
  | .help => some (.help topic)
  | .given g => (command g).map .command

namespace Invocation

def ofHelp? : List String → Option Invocation
  | [] => some (.help .program)
  | [name] => (Topic.ofName? name).map .help
  | _ => none

def ofCommand? (environment : String → Option String) (arguments : List String) :
    Topic → Option Invocation
  | .program => none
  | .run => (runSignature.read arguments .none).bind (ofReading .run (runOfGiven? environment))
  | .definition =>
    (definitionSignature.read arguments .none).bind
      (ofReading .definition fun _ => some .definition)
  | .render => (renderSignature.read arguments .none).bind (ofReading .render renderOfGiven?)
  | .release =>
    (releaseSignature.read arguments .none).bind
      (ofReading .release fun g => some (.release (g.value? "ns")))
  | .help => ofHelp? arguments

/-- What the program is asked to do; nothing if the arguments are wrong. -/
def ofArguments? (environment : String → Option String) : List String → Option Invocation
  | [] => none
  | "--help" :: _ => some (.help .program)
  | "--version" :: _ => some .version
  | name :: arguments =>
    match name.toList with
    | '-' :: 'h' :: _ => some (.help .program)
    | '-' :: 'V' :: _ => some .version
    | _ => (Topic.ofName? name).bind (ofCommand? environment arguments)

end Invocation

end CommandLine

end MeshOperator
