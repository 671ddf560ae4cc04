import MeshOperator.Json.Basic
import MeshOperator.Json.Decimal

/-!
Compact JSON text.

`Json.write v rest` is the text of `v` in front of `rest`, and `Json.text` the text as a string.
Quotes, backslashes and control characters are escaped, every other character stands for itself.
-/

namespace MeshOperator

set_option autoImplicit false

namespace Json

/-- A digit of a base up to sixteen, in lower case. -/
def hexDigit (n : Nat) : Char := Nat.digitChar (n % 16)

def escape (c : Char) : List Char :=
  if c = '"' then ['\\', '"']
  else if c = '\\' then ['\\', '\\']
  else if c = '\n' then ['\\', 'n']
  else if c = '\r' then ['\\', 'r']
  else if c = '\t' then ['\\', 't']
  else if c = '\x08' then ['\\', 'b']
  else if c = '\x0c' then ['\\', 'f']
  else if c.toNat < 32 then ['\\', 'u', '0', '0', hexDigit (c.toNat / 16), hexDigit c.toNat]
  else [c]

def writeString (s : String) (rest : List Char) : List Char :=
  '"' :: s.toList.flatMap escape ++ '"' :: rest

def writeInt (n : Int) (rest : List Char) : List Char :=
  match n with
  | .ofNat m => Nat.toDigits 10 m ++ rest
  | .negSucc m => '-' :: Nat.toDigits 10 (m + 1) ++ rest

mutual

def write : Json → List Char → List Char
  | .null, rest => 'n' :: 'u' :: 'l' :: 'l' :: rest
  | .bool true, rest => 't' :: 'r' :: 'u' :: 'e' :: rest
  | .bool false, rest => 'f' :: 'a' :: 'l' :: 's' :: 'e' :: rest
  | .int n, rest => writeInt n rest
  | .float x, rest => Decimal.ofFloat x ++ rest
  | .str s, rest => writeString s rest
  | .arr [], rest => '[' :: ']' :: rest
  | .arr (item :: items), rest => '[' :: write item (writeItems items (']' :: rest))
  | .obj [], rest => '\x7b' :: '\x7d' :: rest
  | .obj ((name, value) :: members), rest =>
    '\x7b' :: writeString name (':' :: write value (writeMembers members ('\x7d' :: rest)))

def writeItems : List Json → List Char → List Char
  | [], rest => rest
  | item :: items, rest => ',' :: write item (writeItems items rest)

def writeMembers : Members → List Char → List Char
  | [], rest => rest
  | (name, value) :: members, rest =>
    ',' :: writeString name (':' :: write value (writeMembers members rest))

end

def text (v : Json) : String := String.ofList (write v [])

end Json

end MeshOperator
