import MeshOperator.Yaml.Scalar

/-!
Reading YAML text.

`Yaml.parse` accepts a text with exactly one document. Mappings and sequences are written in
blocks, by indentation, or in brackets. A node may carry a name under which it can be used again
further on; a tag only says whether a plain scalar is meant as text.

A mapping starts where a line, or the rest of a line behind an indicator, starts with a key: a node
on one line with a colon behind it.
-/

namespace MeshOperator

set_option autoImplicit false

namespace Yaml

/-! ## Properties of nodes -/

/-- What stands before a node: a name for it, and whether it is said to be text. -/
structure Properties where
  anchor : Option String
  text : Bool

def isNameChar (c : Char) : Bool :=
  ('0' ≤ c && c ≤ '9') || ('a' ≤ c && c ≤ 'z') || ('A' ≤ c && c ≤ 'Z') || c = '_' || c = '-'

def name (c : Cursor) : Option (String × Cursor) :=
  match c.rest.takeWhile isNameChar with
  | [] => none
  | cs => some (String.ofList cs, c.past cs.length)

def isTagText (tag : List Char) : Bool :=
  tag = ['!'] || tag = ['!', '!', 's', 't', 'r'] || tag = "!<tag:yaml.org,2002:str>".toList

/-- All properties on a line, and the blanks behind them. -/
def properties : Nat → Properties → Cursor → Option (Properties × Cursor)
  | 0, _, _ => none
  | fuel + 1, p, c =>
    match c.rest with
    | '&' :: _ => do
      let (anchor, c) ← name (c.past 1)
      if p.anchor.isSome ∨ ¬isGap c.rest.head? then none
      else properties fuel { p with anchor := some anchor } c.pastBlanks
    | '!' :: _ =>
      let tag := c.rest.takeWhile fun ch => !isGap (some ch)
      let c := c.past tag.length
      properties fuel { p with text := p.text || isTagText tag } c.pastBlanks
    | _ => some (p, c)

def hasProperties (c : Cursor) : Bool :=
  match c.rest with
  | ch :: _ => ch = '&' || ch = '!'
  | [] => false

/-- A node with its properties; a name is kept for later. -/
def Properties.apply (p : Properties) (node : Yaml) (c : Cursor) : Yaml × Cursor :=
  let node := match node with
    | .scalar plain text => .scalar (plain && !p.text) text
    | other => other
  match p.anchor with
  | some anchor => (node, { c with anchors := (anchor, node) :: c.anchors })
  | none => (node, c)

/-- A node that was given a name before. -/
def alias? (c : Cursor) : Option (Yaml × Cursor) := do
  let (anchor, c) ← name (c.past 1)
  let node ← c.anchors.lookup anchor
  some (node, c)

/-! ## Brackets -/

def atColon (c : Cursor) : Bool := c.rest.head? = some ':'

def atComma (c : Cursor) : Bool := c.rest.head? = some ','

def atClose (c : Cursor) : Bool := c.rest.head? = some ']' || c.rest.head? = some '\x7d'

mutual

def flowNode : Nat → Cursor → Option (Yaml × Cursor)
  | 0, _ => none
  | fuel + 1, c =>
    match c.rest with
    | [] => none
    | ch :: _ =>
      if hasProperties c then do
        let (p, next) ← properties (c.rest.length + 1) ⟨none, false⟩ c
        let next := next.flowToken
        if atComma next ∨ atColon next ∨ atClose next then
          some (p.apply nothing next)
        else
          let (node, c) ← flowNode fuel next
          some (p.apply node c)
      else if ch = '*' then alias? c
      else if ch = '"' ∨ ch = '\'' then quoted? c
      else if ch = '[' then flowSequence fuel (c.past 1).flowToken
      else if ch = '\x7b' then flowMapping fuel (c.past 1).flowToken
      else plain? true 0 c

def flowValue : Nat → Char → Cursor → Option (Yaml × Cursor)
  | 0, _, _ => none
  | fuel + 1, close, c =>
    if atComma c ∨ c.rest.head? = some close then some (nothing, c) else flowNode fuel c

/-- The rest of a sequence in brackets. A single member of a mapping may stand for the mapping. -/
def flowSequence : Nat → Cursor → Option (Yaml × Cursor)
  | 0, _ => none
  | fuel + 1, c => do
    let (items, c) ← flowItems fuel c
    some (.sequence items, c)

def flowItems : Nat → Cursor → Option (List Yaml × Cursor)
  | 0, _ => none
  | fuel + 1, c =>
    if c.rest.head? = some ']' then some ([], c.past 1)
    else do
      let (node, c) ← if atColon c then some (nothing, c) else flowNode fuel c
      let c := c.flowToken
      let (item, c) ←
        if atColon c then (flowValue fuel ']' (c.past 1).flowToken).map fun r =>
          (mapping [(node, r.1)], r.2)
        else some (node, c)
      let c := c.flowToken
      if atComma c then
        let (items, c) ← flowItems fuel (c.past 1).flowToken
        some (item :: items, c)
      else if c.rest.head? = some ']' then some ([item], c.past 1)
      else none

def flowMapping : Nat → Cursor → Option (Yaml × Cursor)
  | 0, _ => none
  | fuel + 1, c => do
    let (entries, c) ← flowEntries fuel c
    some (.mapping entries, c)

def flowEntries : Nat → Cursor → Option (List (Yaml × Yaml) × Cursor)
  | 0, _ => none
  | fuel + 1, c =>
    if c.rest.head? = some '\x7d' then some ([], c.past 1)
    else do
      let c := if c.atIndicator '?' then (c.past 1).flowToken else c
      let (key, c) ← if atColon c then some (nothing, c) else flowNode fuel c
      let c := c.flowToken
      let (value, c) ←
        if atColon c then flowValue fuel '\x7d' (c.past 1).flowToken else some (nothing, c)
      let c := c.flowToken
      if atComma c then
        let (entries, c) ← flowEntries fuel (c.past 1).flowToken
        some ((key, value) :: entries, c)
      else if c.rest.head? = some '\x7d' then some ([(key, value)], c.past 1)
      else none

end

/-! ## Keys -/

/-- The cursor on a text that ends with the line. -/
def Cursor.line (c : Cursor) : Cursor := { c with rest := c.rest.takeWhile (· ≠ '\n') }

def keyNode (c : Cursor) : Option (Yaml × Cursor) :=
  match c.rest with
  | [] => none
  | ch :: _ =>
    if ch = '*' then alias? c
    else if ch = '"' ∨ ch = '\'' then quoted? c
    else if ch = '[' ∨ ch = '\x7b' then flowNode (4 * c.rest.length + 4) c
    else if c.atIndicator ':' then some (nothing, c)
    else plain? false 0 c

/-- The key that a line starts with, and what stands behind its colon. -/
def key? (c : Cursor) : Option (Yaml × Cursor) := do
  let line := c.line
  let (p, next) ← properties (line.rest.length + 1) ⟨none, false⟩ line
  let (node, next) ← keyNode next
  let next := next.pastBlanks
  if next.atIndicator ':' then
    let (node, next) := p.apply node (next.past 1)
    let behind := c.rest.drop (line.rest.length - next.rest.length)
    some (node, { next with rest := behind })
  else none

/-! ## Blocks -/

mutual

/-- A node. It is indented at least to the column `least`, but the items of a sequence may stand
one column before if `level` says so. A collection may start on this line if `inline` says so. -/
def node : Nat → (least : Nat) → (level inline : Bool) → Cursor → Option (Yaml × Cursor)
  | 0, _, _, _, _ => none
  | fuel + 1, least, level, inline, c =>
    let (t, crossed) := c.token false (!inline)
    let outside := crossed && t.column < least
    if t.atEnd then some (nothing, t)
    else if outside then
      if level && t.column + 1 = least && t.atIndicator '-' then sequenceNode fuel t.column t
      else some (nothing, t)
    else if crossed || inline then
      if t.atIndicator '-' then sequenceNode fuel t.column t
      else if t.atIndicator '?' then mappingNode fuel t.column t
      else
        match key? t with
        | some _ => mappingNode fuel t.column t
        | none => content fuel least level t
    else content fuel least level t

/-- A node that is no block of entries, unless it follows its properties on another line. -/
def content : Nat → (least : Nat) → (level : Bool) → Cursor → Option (Yaml × Cursor)
  | 0, _, _, _ => none
  | fuel + 1, least, level, c =>
    match c.rest with
    | [] => none
    | ch :: _ =>
      if hasProperties c then do
        let (p, next) ← properties (c.rest.length + 1) ⟨none, false⟩ c
        let (node, c) ← node fuel least level false next
        some (p.apply node c)
      else if ch = '*' then alias? c
      else if ch = '"' ∨ ch = '\'' then quoted? c
      else if ch = '[' ∨ ch = '\x7b' then flowNode (4 * c.rest.length + 4) c
      else if ch = '|' ∨ ch = '>' then block? least c
      else plain? false least c

def sequenceNode : Nat → (column : Nat) → Cursor → Option (Yaml × Cursor)
  | 0, _, _ => none
  | fuel + 1, column, c => do
    let (items, c) ← items fuel column c
    some (.sequence items, c)

/-- Items of a block sequence, each behind a hyphen in the same column. -/
def items : Nat → (column : Nat) → Cursor → Option (List Yaml × Cursor)
  | 0, _, _ => none
  | fuel + 1, column, c => do
    let (item, next) ← node fuel (column + 1) false true (c.past 1)
    let t := (next.token false true).1
    if ¬t.atEnd ∧ t.column = column ∧ t.atIndicator '-' then
      let (rest, c) ← items fuel column t
      some (item :: rest, c)
    else if t.atEnd ∨ t.column ≤ column then some ([item], t)
    else none

def mappingNode : Nat → (column : Nat) → Cursor → Option (Yaml × Cursor)
  | 0, _, _ => none
  | fuel + 1, column, c => do
    let (entries, c) ← entries fuel column c
    some (.mapping entries, c)

/-- Entries of a block mapping, each with its key in the same column. -/
def entries : Nat → (column : Nat) → Cursor → Option (List (Yaml × Yaml) × Cursor)
  | 0, _, _ => none
  | fuel + 1, column, c => do
    let (entry, next) ← entry fuel column c
    let t := (next.token false true).1
    if t.atEnd ∨ t.column < column then some ([entry], t)
    else if t.column = column then
      let (rest, c) ← entries fuel column t
      some (entry :: rest, c)
    else none

/-- A key and a value. A key behind a question mark may be any node. -/
def entry : Nat → (column : Nat) → Cursor → Option ((Yaml × Yaml) × Cursor)
  | 0, _, _ => none
  | fuel + 1, column, c =>
    if c.atIndicator '?' then do
      let (key, next) ← node fuel (column + 1) true true (c.past 1)
      let t := (next.token false true).1
      if ¬t.atEnd ∧ t.column = column ∧ t.atIndicator ':' then
        let (value, c) ← node fuel (column + 1) true true (t.past 1)
        some ((key, value), c)
      else some ((key, nothing), t)
    else do
      let (key, next) ← key? c
      let (value, c) ← node fuel (column + 1) true false next
      some ((key, value), c)

end

/-! ## Documents -/

def isPrintable (c : Char) : Bool :=
  let n := c.toNat
  n = 9 || n = 10 || (0x20 ≤ n && n ≤ 0x7E) || n = 0x85
    || (0xA0 ≤ n && n ≤ 0xFFFD && n ≠ 0xFEFF) || 0x10000 ≤ n

/-- The text with a line feed for every line break. -/
def unifyBreaks : List Char → List Char
  | '\r' :: '\n' :: rest => '\n' :: unifyBreaks rest
  | c :: rest => (if c = '\r' ∨ c.toNat = 0x85 then '\n' else c) :: unifyBreaks rest
  | [] => []

/-- Go over comments and directives before a document. -/
def skipDirectives : Nat → Bool → Cursor → Option (Bool × Cursor)
  | 0, _, _ => none
  | fuel + 1, found, c =>
    let t := (c.token false false).1
    if t.column = 0 ∧ t.rest.head? = some '%' then
      skipDirectives fuel true { t with rest := t.rest.dropWhile (· ≠ '\n') }
    else some (found, t)

def isStart (c : Cursor) : Bool := c.atMarker && c.rest.head? = some '-'

/-- Nothing but comments may follow a document. -/
def isFinished (c : Cursor) : Bool :=
  let t := (c.token false true).1
  if t.atMarker then
    !isStart t && ((t.past 3).token false true).1.rest.isEmpty
  else t.rest.isEmpty

def document? (c : Cursor) : Option Yaml := do
  let fuel := 8 * c.rest.length + 64
  let (directed, t) ← skipDirectives fuel false c
  let (node, c) ←
    if isStart t then node fuel 0 false false (t.past 3)
    else if directed ∨ t.atEnd then none
    else node fuel 0 false true t
  if isFinished c then some node else none

/-- The text without a mark of its byte order. -/
def withoutMark : List Char → List Char
  | c :: rest => if c.toNat = 0xFEFF then rest else c :: rest
  | [] => []

def parse (s : String) : Option Yaml :=
  let text := unifyBreaks (withoutMark s.toList)
  if text.all isPrintable then document? ⟨text, 0, []⟩ else none

end Yaml

end MeshOperator
