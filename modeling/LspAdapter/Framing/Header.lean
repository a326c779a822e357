import LspAdapter.Framing.Fault
/-!
# Headers of a frame

A frame begins with header lines, each ended by a carriage return and a line
feed, and an empty line ends them.  One header matters: it gives the length of
the payload, and the last one that does counts.
-/

namespace LspAdapter.Framing

def lineFeed : UInt8 := 10

def readDigits (n : Nat) : List Char → Except CountFault Nat
  | [] => .ok n
  | c :: cs =>
    if c.isDigit then
      let n := 10 * n + (c.toNat - '0'.toNat)
      if n < 0x10000000000000000 then readDigits n cs else .error .tooGreat
    else .error .badDigit

def readCount (cs : List Char) : Except CountFault Nat :=
  match cs with
  | [] => .error .empty
  | ['+'] => .error .badDigit
  | '+' :: cs => readDigits 0 cs
  | cs => readDigits 0 cs

/-- Splits a line at its first colon that a space follows. -/
def splitHeader : List Char → Option (List Char × List Char)
  | [] => none
  | ':' :: ' ' :: value => some ([], value)
  | c :: cs => (splitHeader cs).map fun (name, value) => (c :: name, value)

def lengthName : List Char :=
  "content-length".toList

inductive Header
  /-- The line is empty, which ends the headers. -/
  | blank
  | length (n : Nat)
  | other
  deriving DecidableEq, Repr

def Header.ofLine (line : List Char) : Except Fault Header :=
  if line.isEmpty then .ok .blank
  else
    match splitHeader line with
    | none => .error (.badHeader (String.ofList line))
    | some (name, value) =>
      if name.map Char.toLower = lengthName then
        match readCount value with
        | .ok n => .ok (.length n)
        | .error f => .error (.badLength f)
      else .ok .other

def Header.ofBytes (bytes : List UInt8) : Except Fault Header :=
  match Text.Utf8.decode? bytes with
  | none => .error .headerNotUtf8
  | some line =>
    match line.toList.reverse with
    | '\n' :: '\r' :: before => Header.ofLine before.reverse
    | _ => .error (.badHeader line)

inductive Headers
  /-- The length of the payload, and the bytes behind the headers. -/
  | complete (length : Nat) (rest : List UInt8)
  | fault (f : Fault)
  /-- The bytes end before the headers do. If no more of them come, that is
  either a fault or, at the start of a line, the end of the input. -/
  | unfinished (f : Option Fault)
  deriving DecidableEq, Repr

/-- What the end of the input means within a line; its bytes are in reverse. -/
def endInLine (line : List UInt8) : Option Fault :=
  if line.isEmpty then none
  else
    match Header.ofBytes line.reverse with
    | .error f => some f
    | .ok _ => none

/-- Reads headers, with the bytes of the current line in reverse and the length
that was given so far. -/
def readHeaders (line : List UInt8) (length : Option Nat) : List UInt8 → Headers
  | [] => .unfinished (endInLine line)
  | b :: bs =>
    if b = lineFeed then
      match Header.ofBytes (b :: line).reverse with
      | .error f => .fault f
      | .ok (.length n) => readHeaders [] (some n) bs
      | .ok .other => readHeaders [] length bs
      | .ok .blank =>
        match length with
        | none => .fault .noLength
        | some n => .complete n bs
    else readHeaders (b :: line) length bs

end LspAdapter.Framing
