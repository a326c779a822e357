import LspAdapter.Text.Combining
import LspAdapter.Text.Printable
/-!
# Texts written with backslash escapes

An `Escaping` says which characters of a text stand for themselves and which
are written with a backslash.  Whatever it says, `unescape` reads the written
form back, so two texts never share one.
-/

namespace LspAdapter.Text

/-- The choices that a written form leaves open.  Backslash, double quote, NUL,
tab, line feed and carriage return are always escaped. -/
structure Escaping where
  /-- The characters that may stand for themselves. -/
  plain : Char → Bool
  /-- The characters that join the one before them. -/
  combining : Char → Bool
  apostrophe : Bool
  /-- Whether a combining character is escaped inside a text, too, and not
  only in front. -/
  inside : Bool

namespace Escaping

def letter? (e : Escaping) (c : Char) : Option Char :=
  match c with
  | '\x00' => some '0'
  | '\t' => some 't'
  | '\n' => some 'n'
  | '\r' => some 'r'
  | '\\' => some '\\'
  | '"' => some '"'
  | '\'' => if e.apostrophe then some '\'' else none
  | _ => none

def codePoint (c : Char) : List Char :=
  ['\\', 'u', '{'] ++ Nat.toDigits 16 c.toNat ++ ['}']

def char (e : Escaping) (front : Bool) (c : Char) : List Char :=
  match e.letter? c with
  | some l => ['\\', l]
  | none =>
    if e.plain c && !(e.combining c && (front || e.inside)) then [c] else codePoint c

def write (e : Escaping) : List Char → List Char
  | [] => []
  | c :: cs => e.char true c ++ cs.flatMap (e.char false)

def text (e : Escaping) (s : String) : String :=
  String.ofList (e.write s.toList)

def quoted (e : Escaping) (s : String) : String :=
  "\"" ++ e.text s ++ "\""

/-- The usual quotation: only printable characters stand for themselves, an
apostrophe does, a combining character never does. -/
def quotation : Escaping :=
  ⟨isPrintable, isCombining, false, true⟩

inductive Progress
  | outside
  | backslash
  /-- After a backslash and `u`. -/
  | announced
  /-- Inside the braces, with the value of the digits so far. -/
  | digits (value : Nat)
  deriving DecidableEq, Repr

def meaning? (c : Char) : Option Char :=
  match c with
  | '0' => some '\x00'
  | 't' => some '\t'
  | 'n' => some '\n'
  | 'r' => some '\r'
  | '\\' => some '\\'
  | '"' => some '"'
  | '\'' => some '\''
  | _ => none

def hexValue? (c : Char) : Option Nat :=
  if '0' ≤ c ∧ c ≤ '9' then some (c.toNat - '0'.toNat)
  else if 'a' ≤ c ∧ c ≤ 'f' then some (c.toNat - 'a'.toNat + 10)
  else none

/-- Reads on from a point of progress; there is no answer where an escape is
cut off or unknown. -/
def unescapeFrom : Progress → List Char → Option (List Char)
  | .outside, [] => some []
  | _, [] => none
  | .outside, c :: cs =>
    if c = '\\' then unescapeFrom .backslash cs
    else (unescapeFrom .outside cs).map (c :: ·)
  | .backslash, c :: cs =>
    if c = 'u' then unescapeFrom .announced cs
    else (meaning? c).bind fun m => (unescapeFrom .outside cs).map (m :: ·)
  | .announced, c :: cs =>
    if c = '{' then unescapeFrom (.digits 0) cs else none
  | .digits n, c :: cs =>
    if c = '}' then (unescapeFrom .outside cs).map (Char.ofNat n :: ·)
    else (hexValue? c).bind fun d => unescapeFrom (.digits (16 * n + d)) cs

def unescape (cs : List Char) : Option (List Char) :=
  unescapeFrom .outside cs

end Escaping

end LspAdapter.Text
