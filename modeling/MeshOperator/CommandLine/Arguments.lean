/-!
Arguments of a command: options with a value, switches and positional arguments.

Arguments are read from left to right, and the first thing that is wrong, or a call for help, ends
the reading. The value of an option follows behind `=` or as the next argument, which must not look
like an option. Nothing may be given twice. Behind `--` every argument is positional.
-/

namespace MeshOperator

set_option autoImplicit false

namespace CommandLine

structure Signature where
  options : List String
  switches : List String
  positionals : List String
  /-- Is the value good for the option or positional argument of this name? -/
  accepts : String → String → Bool

structure Given where
  values : List (String × String)
  switches : List String
  deriving DecidableEq, Repr

namespace Given

def none : Given := ⟨[], []⟩

def value? (name : String) (g : Given) : Option String := g.values.lookup name

end Given

/-- What reading arguments leads to; nothing if they are wrong. -/
inductive Reading where
  | given (g : Given)
  | help
  deriving DecidableEq, Repr

/-- An option behind its hyphens: name, and value if there is one. -/
def splitOption (arg : List Char) : String × Option String :=
  match arg.span (· ≠ '=') with
  | (name, []) => (String.ofList name, none)
  | (name, _ :: value) => (String.ofList name, some (String.ofList value))

/-- Arguments that start with a hyphen look like options, but not a hyphen alone. -/
def looksLikeOption (arg : String) : Bool :=
  match arg.toList with
  | '-' :: _ :: _ => true
  | _ => false

namespace Signature

def addValue? (s : Signature) (name value : String) (g : Given) : Option Given :=
  if (g.value? name).isNone ∧ s.accepts name value then
    some { g with values := g.values ++ [(name, value)] }
  else none

def addSwitch? (name : String) (g : Given) : Option Given :=
  if name ∈ g.switches then none else some { g with switches := g.switches ++ [name] }

def addPositional? (s : Signature) (value : String) (g : Given) : Option Given := do
  let name ← s.positionals.find? fun name => (g.value? name).isNone
  s.addValue? name value g

def addPositionals? (s : Signature) : List String → Given → Option Given
  | [], g => some g
  | arg :: rest, g => (s.addPositional? arg g).bind (addPositionals? s rest)

def read (s : Signature) : List String → Given → Option Reading
  | [], g => some (.given g)
  | "--" :: rest, g => (s.addPositionals? rest g).map .given
  | arg :: rest, g =>
    match arg.toList with
    | '-' :: '-' :: option =>
      match splitOption option with
      | ("help", none) => some .help
      | (name, some value) =>
        if name ∈ s.options then (s.addValue? name value g).bind (read s rest) else none
      | (name, none) =>
        if name ∈ s.options then
          match rest with
          | value :: rest =>
            if looksLikeOption value then none
            else (s.addValue? name value g).bind (read s rest)
          | [] => none
        else if name ∈ s.switches then (addSwitch? name g).bind (read s rest)
        else none
    | '-' :: 'h' :: _ => some .help
    | '-' :: _ :: _ => none
    | _ => (s.addPositional? arg g).bind (read s rest)

end Signature

end CommandLine

end MeshOperator
