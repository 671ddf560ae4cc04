import MeshOperator.Yaml.Basic

/-!
Where reading stands in a text: what is left of it, the column, and the nodes that were given
names so far.

Line breaks are line feeds. A document ends with the text, or before a line that starts with three
hyphens or three points.
-/

namespace MeshOperator

set_option autoImplicit false

namespace Yaml

def isBlank (c : Char) : Bool := c = ' ' || c = '\t'

/-- A blank, a line break or the end of the text: what separates an indicator from the rest. -/
def isGap : Option Char → Bool
  | none => true
  | some c => isBlank c || c = '\n'

structure Cursor where
  rest : List Char
  column : Nat
  anchors : List (String × Yaml)

namespace Cursor

def past (n : Nat) (c : Cursor) : Cursor := { c with rest := c.rest.drop n, column := c.column + n }

/-- Go on with the given rest of the line. -/
def within (rest : List Char) (c : Cursor) : Cursor :=
  { c with rest := rest, column := c.column + (c.rest.length - rest.length) }

def pastBlanks (c : Cursor) : Cursor := c.past (c.rest.takeWhile isBlank).length

/-- Does a line with a document marker start here? -/
def atMarker (c : Cursor) : Bool :=
  c.column = 0 &&
    match c.rest with
    | '-' :: '-' :: '-' :: rest => isGap rest.head?
    | '.' :: '.' :: '.' :: rest => isGap rest.head?
    | _ => false

def atEnd (c : Cursor) : Bool := c.rest.isEmpty || c.atMarker

/-- Does a single character stand here as an indicator, apart from what follows? -/
def atIndicator (indicator : Char) (c : Cursor) : Bool :=
  match c.rest with
  | ch :: rest => ch = indicator && isGap rest.head?
  | [] => false

/-- Go over spaces, comments and line breaks, and say whether there was a line break. Tabs are no
indentation: at the start of a line they are gone over only if `tabs` says so. -/
def skipFrom (tabs : Bool) : Bool → Bool → Bool → List Char → Nat → (List Char × Nat) × Bool
  | _, _, crossed, [], column => (([], column), crossed)
  | comment, started, crossed, c :: rest, column =>
    if c = '\n' then skipFrom tabs false false true rest 0
    else if comment then skipFrom tabs true started crossed rest (column + 1)
    else if c = ' ' then skipFrom tabs false started crossed rest (column + 1)
    else if c = '\t' ∧ (tabs ∨ started) then skipFrom tabs false started crossed rest (column + 1)
    else if c = '#' then skipFrom tabs true started crossed rest (column + 1)
    else ((c :: rest, column), crossed)

/-- The next token, and whether it stands on another line. `started` says that the line has one
already. -/
def token (tabs started : Bool) (c : Cursor) : Cursor × Bool :=
  let ((rest, column), crossed) := skipFrom tabs false started false c.rest c.column
  ({ c with rest := rest, column := column }, crossed)

/-- The next token inside brackets, where lines do not matter. -/
def flowToken (c : Cursor) : Cursor := (c.token true true).1

/-- Go over line breaks and the blanks at the start of the lines behind them, counting the
breaks. -/
def breaksFrom : List Char → Nat → Nat → (List Char × Nat) × Nat
  | [], column, count => (([], column), count)
  | c :: rest, column, count =>
    if c = '\n' then breaksFrom rest 0 (count + 1)
    else if isBlank c then breaksFrom rest (column + 1) count
    else ((c :: rest, column), count)

def breaks (c : Cursor) : Cursor × Nat :=
  let ((rest, column), count) := breaksFrom c.rest c.column 0
  ({ c with rest := rest, column := column }, count)

end Cursor

/-- Text that goes over lines: a single line break counts as a space, and of several one is
dropped. -/
def folded (breaks : Nat) : List Char :=
  if breaks = 1 then [' '] else List.replicate (breaks - 1) '\n'

end Yaml

end MeshOperator
