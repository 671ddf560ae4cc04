import MeshOperator.Json.Reader
import MeshOperator.Yaml.Cursor

/-!
Reading scalars: plain, in single quotes, in double quotes, and in blocks of lines.

Plain and quoted scalars may go over lines, which are folded. A block keeps its lines or, behind
`>`, folds them; its header says how deep it is indented and what becomes of line breaks at its end.
-/

namespace MeshOperator

set_option autoImplicit false

namespace Yaml

/-! ## Plain scalars -/

def isFlowIndicator (c : Char) : Bool :=
  c = ',' || c = '[' || c = ']' || c = '\x7b' || c = '\x7d'

def isIndicator (c : Char) : Bool :=
  isFlowIndicator c
    || c ∈ ['-', '?', ':', '#', '&', '*', '!', '|', '>', '\'', '"', '%', '@', '\x60']

/-- May a plain scalar start with this text? -/
def startsPlain (flow : Bool) : List Char → Bool
  | [] => false
  | c :: rest =>
    if c = '-' then !isGap rest.head?
    else if c = '?' ∨ c = ':' then !flow && !isGap rest.head?
    else !isIndicator c && !isGap (some c)

/-- The characters of a plain scalar on one line, and the rest of the line. A comment starts behind
a blank. -/
def plainLine (flow : Bool) : Bool → List Char → List Char × List Char
  | _, [] => ([], [])
  | blank, c :: rest =>
    if c = '\n' ∨ (c = '#' ∧ blank) ∨ (c = ':' ∧ isGap rest.head?) ∨ (flow ∧ isFlowIndicator c) then
      ([], c :: rest)
    else
      let (cs, rest) := plainLine flow (isBlank c) rest
      (c :: cs, rest)

def dropBlanksAtEnd (cs : List Char) : List Char := (cs.reverse.dropWhile isBlank).reverse

/-- Further lines of a plain scalar. Outside brackets they are indented at least to the column
`least`. -/
def plainLines (flow : Bool) (least : Nat) : Nat → List Char → Cursor → List Char × Cursor
  | 0, text, c => (text, c)
  | fuel + 1, text, c =>
    if c.rest.head? = some '\n' then
      let (next, breaks) := c.breaks
      if next.atEnd ∨ (¬flow ∧ next.column < least) then (text, c)
      else
        match plainLine flow true next.rest with
        | ([], _) => (text, c)
        | (cs, rest) =>
          plainLines flow least fuel (text ++ folded breaks ++ dropBlanksAtEnd cs)
            (next.within rest)
    else (text, c)

def plain? (flow : Bool) (least : Nat) (c : Cursor) : Option (Yaml × Cursor) :=
  if startsPlain flow c.rest then
    let (cs, rest) := plainLine flow false c.rest
    let (text, c) := plainLines flow least c.rest.length (dropBlanksAtEnd cs) (c.within rest)
    some (.scalar true (String.ofList text), c)
  else none

/-! ## Quoted scalars -/

def escapes : List (Char × Char) := [
  ('0', '\x00'), ('a', '\x07'), ('b', '\x08'), ('t', '\t'), ('\t', '\t'), ('n', '\n'),
  ('v', '\x0b'), ('f', '\x0c'), ('r', '\r'), ('e', '\x1b'), (' ', ' '), ('"', '"'), ('/', '/'),
  ('\\', '\\'), ('N', Char.ofNat 0x85), ('_', Char.ofNat 0xA0), ('L', Char.ofNat 0x2028),
  ('P', Char.ofNat 0x2029)]

/-- How many digits of a code point follow. -/
def codeLength? (c : Char) : Option Nat := [('x', 2), ('u', 4), ('U', 8)].lookup c

def codePoint? (digits : List Char) : Option Char := do
  let n ← natural? 16 digits
  if h : n.isValidChar then some (Char.ofNatAux n h) else none

def escape? : List Char → Option (Char × List Char)
  | [] => none
  | c :: rest =>
    match codeLength? c with
    | some n =>
      if rest.length < n then none
      else (codePoint? (rest.take n)).map fun ch => (ch, rest.drop n)
    | none => (escapes.lookup c).map fun ch => (ch, rest)

/-- Blanks and line breaks inside quotes: blanks stay as they are, lines are folded. -/
def quotedGap (c : Cursor) : List Char × Cursor :=
  let blanks := c.rest.takeWhile isBlank
  let behind := c.past blanks.length
  if behind.rest.head? = some '\n' then
    let (next, breaks) := behind.breaks
    (folded breaks, next)
  else (blanks, behind)

/-- A line break behind a backslash joins two lines. -/
def joinedGap (c : Cursor) : List Char × Cursor :=
  let (next, breaks) := c.breaks
  (List.replicate (breaks - 1) '\n', next)

def quotedText? (double : Bool) : Nat → Cursor → Option (List Char × Cursor)
  | 0, _ => none
  | fuel + 1, c =>
    if c.atMarker then none
    else match c.rest with
      | [] => none
      | ch :: rest =>
        if ch = ' ' ∨ ch = '\t' ∨ ch = '\n' then do
          let (gap, next) := quotedGap c
          let (text, c) ← quotedText? double fuel next
          some (gap ++ text, c)
        else if double then
          if ch = '"' then some ([], c.past 1)
          else if ch = '\\' then
            if rest.head? = some '\n' then do
              let (gap, next) := joinedGap (c.past 1)
              let (text, c) ← quotedText? double fuel next
              some (gap ++ text, c)
            else do
              let (e, rest) ← escape? rest
              let (text, c) ← quotedText? double fuel (c.within rest)
              some (e :: text, c)
          else do
            let (text, c) ← quotedText? double fuel (c.past 1)
            some (ch :: text, c)
        else if ch = '\'' then
          if rest.head? = some '\'' then do
            let (text, c) ← quotedText? double fuel (c.past 2)
            some ('\'' :: text, c)
          else some ([], c.past 1)
        else do
          let (text, c) ← quotedText? double fuel (c.past 1)
          some (ch :: text, c)

def quoted? (c : Cursor) : Option (Yaml × Cursor) := do
  let double ← match c.rest.head? with
    | some '"' => some true
    | some '\'' => some false
    | _ => none
  let (text, c) ← quotedText? double (c.rest.length + 1) (c.past 1)
  some (.scalar false (String.ofList text), c)

/-! ## Blocks -/

inductive Chomping where
  | strip
  | clip
  | keep
  deriving DecidableEq, Repr

structure BlockHeader where
  chomping : Chomping
  increment : Option Nat
  deriving DecidableEq, Repr

def chomping? (c : Char) : Option Chomping := [('-', .strip), ('+', .keep)].lookup c

def increment? (c : Char) : Option Nat :=
  if '1' ≤ c ∧ c ≤ '9' then some (c.toNat - 48) else none

def blockHeader : List Char → BlockHeader × List Char
  | [] => (⟨.clip, none⟩, [])
  | c :: rest =>
    match chomping? c with
    | some chomping =>
      match rest.head?.bind increment? with
      | some n => (⟨chomping, some n⟩, rest.drop 1)
      | none => (⟨chomping, none⟩, rest)
    | none =>
      match increment? c with
      | some n =>
        match rest.head?.bind chomping? with
        | some chomping => (⟨chomping, some n⟩, rest.drop 1)
        | none => (⟨.clip, some n⟩, rest)
      | none => (⟨.clip, none⟩, c :: rest)

/-- Nothing but blanks and a comment may stand behind the header. -/
def blockStart? (rest : List Char) : Option (List Char) :=
  match rest.dropWhile isBlank with
  | [] => some []
  | '\n' :: rest => some rest
  | '#' :: rest => some ((rest.dropWhile (· ≠ '\n')).drop 1)
  | _ => none

/-- Empty lines before a line of a block: their number, the rest behind the indentation, its
column, and the greatest column of all. -/
def emptyLines (indent : Option Nat) :
    List Char → (column greatest count : Nat) → Option ((List Char × Nat) × Nat × Nat)
  | [], column, greatest, count => some (([], column), max column greatest, count)
  | c :: rest, column, greatest, count =>
    let inside := (indent.map fun n => decide (column < n)).getD true
    if c = ' ' ∧ inside then emptyLines indent rest (column + 1) greatest count
    else if c = '\t' ∧ inside then none
    else if c = '\n' then emptyLines indent rest 0 (max column greatest) (count + 1)
    else some ((c :: rest, column), max column greatest, count)

/-- How far the lines of a block have come. -/
structure BlockText where
  text : List Char
  /-- The last line ended with a line break. -/
  broken : Bool
  /-- Empty lines since the last line. -/
  empties : Nat
  /-- The last line started with a blank. -/
  blank : Bool

/-- What stands between the last line and the next. Folding spares lines that start with a blank. -/
def BlockText.joint (fold nextBlank : Bool) (b : BlockText) : List Char :=
  if fold ∧ b.broken ∧ ¬b.blank ∧ ¬nextBlank then folded (b.empties + 1)
  else (if b.broken then ['\n'] else []) ++ List.replicate b.empties '\n'

def BlockText.finish (chomping : Chomping) (b : BlockText) : List Char :=
  let last := if b.broken then ['\n'] else []
  match chomping with
  | .strip => b.text
  | .clip => b.text ++ last
  | .keep => b.text ++ last ++ List.replicate b.empties '\n'

/-- The lines of a block that are indented to the column `indent`. -/
def blockLines? (fold : Bool) (indent : Nat) :
    Nat → BlockText → List Char × Nat → Option (BlockText × (List Char × Nat))
  | 0, _, _ => none
  | fuel + 1, b, (rest, column) =>
    if column = indent ∧ ¬rest.isEmpty then
      let line := rest.takeWhile (· ≠ '\n')
      let behind := rest.drop line.length
      let blank := match line.head? with
        | some c => isBlank c
        | none => false
      let text := b.text ++ b.joint fold blank ++ line
      match emptyLines (some indent) (behind.drop 1) 0 0 0 with
      | none => none
      | some (next, _, count) =>
        blockLines? fold indent fuel ⟨text, !behind.isEmpty, count, blank⟩
          (if behind.isEmpty then ([], 0) else next)
    else some (b, (rest, column))

/-- A block behind its indicator. The column of what surrounds it is one less than `least`. -/
def block? (least : Nat) (c : Cursor) : Option (Yaml × Cursor) := do
  let fold := c.rest.head? = some '>'
  let (header, rest) := blockHeader (c.rest.drop 1)
  let rest ← blockStart? rest
  let given := header.increment.map fun n => (least - 1) + n
  let (next, greatest, empties) ← emptyLines given rest 0 0 0
  let indent := given.getD (max (max greatest least) 1)
  let (b, rest, column) ← blockLines? fold indent (rest.length + 1) ⟨[], false, empties, false⟩ next
  some (.scalar false (String.ofList (b.finish header.chomping)),
    { c with rest := rest, column := column })

end Yaml

end MeshOperator
