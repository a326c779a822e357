import LspAdapter.Json.Fault
/-!
# Reading JSON strings

Escapes may name a character by the two halves of a surrogate pair; a half on
its own is refused.
-/

namespace LspAdapter.Json

def hexDigit? (c : Char) : Option Nat :=
  if c.isDigit then some (c.toNat - '0'.toNat)
  else if 'a' ≤ c ∧ c ≤ 'f' then some (c.toNat - 'a'.toNat + 10)
  else if 'A' ≤ c ∧ c ≤ 'F' then some (c.toNat - 'A'.toNat + 10)
  else none

def hexValue? (a b c d : Char) : Option Nat := do
  return 4096 * (← hexDigit? a) + 256 * (← hexDigit? b) + 16 * (← hexDigit? c) + (← hexDigit? d)

/-- The fault of a hexadecimal escape that is none: the text ends within the
next four bytes, or they are not four digits. -/
def hexFault (cs : List Char) : Fault :=
  if Text.Utf8.byteCount cs < 4 then ⟨.endInString, [], 0⟩ else ⟨.badEscape, cs, 4⟩

def isHighSurrogate (n : Nat) : Bool :=
  0xD800 ≤ n && n ≤ 0xDBFF

def isLowSurrogate (n : Nat) : Bool :=
  0xDC00 ≤ n && n ≤ 0xDFFF

def joinSurrogates (high low : Nat) : Char :=
  Char.ofNat ((high - 0xD800) * 0x400 + (low - 0xDC00) + 0x10000)

def escapeMeaning? (c : Char) : Option Char :=
  match c with
  | '"' => some '"'
  | '\\' => some '\\'
  | '/' => some '/'
  | 'b' => some '\x08'
  | 'f' => some '\x0c'
  | 'n' => some '\n'
  | 'r' => some '\r'
  | 't' => some '\t'
  | _ => none

/-- Reads the characters of a string up to its closing quote; `high` is the
first half of a surrogate pair whose second half must come next. -/
def readChars (high : Option Nat) : List Char → Except Fault (List Char × List Char)
  | [] => faultAt .endInString []
  | '\\' :: 'u' :: cs =>
    match cs with
    | a :: b :: c :: d :: rest =>
      match hexValue? a b c d with
      | none => .error (hexFault cs)
      | some n =>
        match high with
        | some h =>
          if isLowSurrogate n then do
            let (text, rest) ← readChars none rest
            return (joinSurrogates h n :: text, rest)
          else faultAt .loneSurrogate rest
        | none =>
          if isLowSurrogate n then faultAt .loneSurrogate rest
          else if isHighSurrogate n then readChars (some n) rest
          else do
            let (text, rest) ← readChars none rest
            return (Char.ofNat n :: text, rest)
    | _ => .error (hexFault cs)
  | '\\' :: c :: cs =>
    if high.isSome then faultNext .endOfHexEscape (c :: cs)
    else match escapeMeaning? c with
      | none => faultNext .badEscape (c :: cs)
      | some m => do
        let (text, rest) ← readChars none cs
        return (m :: text, rest)
  | ['\\'] => faultAt .endInString []
  | c :: cs =>
    if high.isSome then faultNext .endOfHexEscape (c :: cs)
    else if c = '"' then .ok ([], cs)
    else if c.toNat < 0x20 then faultNext .controlCharacter (c :: cs)
    else do
      let (text, rest) ← readChars none cs
      return (c :: text, rest)

def readString (cs : List Char) : Except Fault (String × List Char) := do
  let (text, rest) ← readChars none cs
  return (String.ofList text, rest)

end LspAdapter.Json
