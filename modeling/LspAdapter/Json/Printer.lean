import LspAdapter.Decimal.Notation
import LspAdapter.Json.Value
/-!
# Compact JSON text

No blanks, fields in the order in which the object lists them.  In a string
only the double quote, the backslash and the characters below U+0020 are
escaped.
-/

namespace LspAdapter.Json

open Decimal (Layout)

/-- Numbers are positional from a hundred-thousandth up to 10^16, otherwise they
have an exponent with its sign. -/
def numberLayout : Layout :=
  ⟨some (-5, 16), "+"⟩

def integerText : Int → List Char
  | .ofNat n => Nat.toDigits 10 n
  | .negSucc n => '-' :: Nat.toDigits 10 (n + 1)

def Number.write : Number → List Char
  | .integer n => integerText n
  | .binary x => (numberLayout.text x).toList

def escapeChar (c : Char) : List Char :=
  match c with
  | '"' => ['\\', '"']
  | '\\' => ['\\', '\\']
  | '\x08' => ['\\', 'b']
  | '\x0c' => ['\\', 'f']
  | '\n' => ['\\', 'n']
  | '\r' => ['\\', 'r']
  | '\t' => ['\\', 't']
  | c =>
    if c.toNat < 0x20 then
      ['\\', 'u', '0', '0', Nat.digitChar (c.toNat / 16), Nat.digitChar (c.toNat % 16)]
    else [c]

def writeString (s : String) : List Char :=
  '"' :: s.toList.flatMap escapeChar ++ ['"']

namespace Value

mutual

def write : Value → List Char
  | .null => ['n', 'u', 'l', 'l']
  | .bool true => ['t', 'r', 'u', 'e']
  | .bool false => ['f', 'a', 'l', 's', 'e']
  | .number n => n.write
  | .text s => writeString s
  | .array items => '[' :: writeItems items ++ [']']
  | .object fields => '{' :: writeFields fields ++ ['}']

def writeItems : List Value → List Char
  | [] => []
  | v :: vs => v.write ++ writeMoreItems vs

def writeMoreItems : List Value → List Char
  | [] => []
  | v :: vs => ',' :: v.write ++ writeMoreItems vs

def writeFields : List (String × Value) → List Char
  | [] => []
  | (name, v) :: rest => writeString name ++ ':' :: v.write ++ writeMoreFields rest

def writeMoreFields : List (String × Value) → List Char
  | [] => []
  | (name, v) :: rest => ',' :: writeString name ++ ':' :: v.write ++ writeMoreFields rest

end

def compact (v : Value) : String :=
  String.ofList v.write

end Value

end LspAdapter.Json
