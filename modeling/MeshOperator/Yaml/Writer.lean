import MeshOperator.Json.Printer
import MeshOperator.Yaml.Reader

/-!
Writing JSON values as YAML text, in blocks.

A string is written plain if it cannot be taken for anything else, as a block if it has several
lines, and in quotes otherwise.
-/

namespace MeshOperator

set_option autoImplicit false

namespace Yaml

/-! ## Strings -/

/-- Words that some readers take for truth values. -/
def isSwitchWord (s : String) : Bool :=
  s.toLower ∈ ["y", "n", "yes", "no", "on", "off"]

/-- Does the text go through a plain scalar unharmed? -/
def staysPlain (cs : List Char) : Bool :=
  startsPlain false cs && plainLine false false cs == (cs, []) && dropBlanksAtEnd cs == cs
    && !(Cursor.mk cs 0 []).atMarker

/-- Is a string what a plain scalar with its text stands for? -/
def readsAsString (s : String) : Bool :=
  match plainValue? s with
  | some (.str _) => true
  | _ => false

def singleQuoted (cs : List Char) : List Char :=
  '\'' :: cs.flatMap (fun c => if c = '\'' then ['\'', '\''] else [c]) ++ ['\'']

def inlineString (s : String) : List Char :=
  let cs := s.toList
  if ¬cs.all isPrintable ∨ '\n' ∈ cs then Json.writeString s []
  else if staysPlain cs ∧ readsAsString s ∧ ¬isSwitchWord s then cs
  else singleQuoted cs

/-- Can a string be written as a block? Blanks before a line break would be lost to the eye. -/
def fitsBlock (cs : List Char) : Bool :=
  '\n' ∈ cs && cs.all isPrintable && cs.head? != some '\n' && cs.head? != some ' '
    && (cs.splitOn '\n').all fun line => dropBlanksAtEnd line == line

/-- The header of a block says what becomes of line breaks at its end. -/
def header (cs : List Char) : List Char :=
  match cs.reverse with
  | '\n' :: '\n' :: _ => ['|', '+']
  | '\n' :: _ => ['|']
  | _ => ['|', '-']

/-- The lines of a string; the line break at its end makes no line. -/
def blockLines (cs : List Char) : List (List Char) :=
  let lines := cs.splitOn '\n'
  if lines.getLast? = some [] then lines.dropLast else lines

/-! ## Values -/

abbrev Lines := List (List Char)

def indented (depth : Nat) (line : List Char) : List Char :=
  if line.isEmpty then [] else List.replicate depth ' ' ++ line

/-- The lines of a string behind the start of its first line. -/
def stringLines (depth : Nat) (start : List Char) (s : String) : Lines :=
  let cs := s.toList
  if fitsBlock cs then (start ++ ' ' :: header cs) :: (blockLines cs).map (indented depth)
  else [start ++ ' ' :: inlineString s]

/-- Lines of an item, the first of them behind a hyphen. -/
def hung (depth : Nat) : Lines → Lines
  | [] => []
  | line :: rest => (List.replicate depth ' ' ++ '-' :: ' ' :: line.drop (depth + 2)) :: rest

mutual

/-- The lines of a value behind the start of its first line. What is nested deeper stands at
`depth`, but the items of a list at `level`. -/
def valueLines (level depth : Nat) (start : List Char) : Json → Lines
  | .str s => stringLines depth start s
  | .arr (item :: items) => start :: itemLines level (item :: items)
  | .obj (m :: members) => start :: memberLines depth (m :: members)
  | v => [start ++ ' ' :: Json.write v []]

def memberLines (depth : Nat) : Json.Members → Lines
  | [] => []
  | (name, value) :: rest =>
    valueLines depth (depth + 2) (List.replicate depth ' ' ++ inlineString name ++ [':']) value
      ++ memberLines depth rest

def itemLines (depth : Nat) : List Json → Lines
  | [] => []
  | item :: rest => oneItemLines depth item ++ itemLines depth rest

def oneItemLines (depth : Nat) : Json → Lines
  | .arr (item :: items) => hung depth (itemLines (depth + 2) (item :: items))
  | .obj (m :: members) => hung depth (memberLines (depth + 2) (m :: members))
  | .str s => stringLines (depth + 2) (List.replicate depth ' ' ++ ['-']) s
  | v => [List.replicate depth ' ' ++ '-' :: ' ' :: Json.write v []]

end

def documentLines : Json → Lines
  | .arr (item :: items) => itemLines 0 (item :: items)
  | .obj (m :: members) => memberLines 0 (m :: members)
  | .str s => [inlineString s]
  | v => [Json.write v []]

def write (v : Json) : String :=
  String.ofList ((documentLines v).flatMap fun line => line ++ ['\n'])

/-- Several documents, with a line of hyphens between them. -/
def writeAll (documents : List Json) : String := String.intercalate "---\n" (documents.map write)

end Yaml

end MeshOperator
