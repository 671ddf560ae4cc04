import MeshOperator.Text.Unprintable

/-!
Quoted text, as error messages show the text that they object to.

Quotes and backslashes follow a backslash; line feed, return, tab and the zero character have
short forms; every other unprintable character is given by its code point.
-/

namespace MeshOperator

set_option autoImplicit false

namespace Text

def hexDigits (n : Nat) : List Char := Nat.toDigits 16 n

def quoteChar (c : Char) : List Char :=
  if c = '"' then ['\\', '"']
  else if c = '\\' then ['\\', '\\']
  else if c = '\n' then ['\\', 'n']
  else if c = '\r' then ['\\', 'r']
  else if c = '\t' then ['\\', 't']
  else if c = '\x00' then ['\\', '0']
  else if isUnprintable c then '\\' :: 'u' :: '\x7b' :: hexDigits c.toNat ++ ['\x7d']
  else [c]

def quote (s : String) : String :=
  String.ofList ('"' :: s.toList.flatMap quoteChar ++ ['"'])

end Text

end MeshOperator
