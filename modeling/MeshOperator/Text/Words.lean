/-!
Words of a text: the longest stretches without white space.

White space is every character with the property of that name in Unicode, the no-break spaces
among them.
-/

namespace MeshOperator

set_option autoImplicit false

namespace Text

def isWhiteSpace (c : Char) : Bool :=
  let n := c.toNat
  (9 ≤ n && n ≤ 13) || n = 0x20 || n = 0x85 || n = 0xA0 || n = 0x1680
    || (0x2000 ≤ n && n ≤ 0x200A) || n = 0x2028 || n = 0x2029 || n = 0x202F || n = 0x205F
    || n = 0x3000

/-- The number of words; `inside` says that the characters before belong to a word that has been
counted. -/
def countWords (inside : Bool) : List Char → Nat
  | [] => 0
  | c :: rest =>
    if isWhiteSpace c then countWords false rest
    else if inside then countWords true rest
    else countWords true rest + 1

def wordCount (s : String) : Nat := countWords false s.toList

end Text

end MeshOperator
