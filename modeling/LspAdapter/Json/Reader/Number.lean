import LspAdapter.Json.Fault
import LspAdapter.Json.Value
/-!
# Reading JSON numbers

An integer that 64 bits hold stays an integer.  Any other number is binary64:
its leading digits, as many as 64 bits hold, times a power of ten.
-/

namespace LspAdapter.Json

open Decimal (Binary64)

def digitValue (c : Char) : Nat :=
  c.toNat - '0'.toNat

/-- Appends digits to a significand as long as it keeps to 64 bits; the count
is that of the digits left over. -/
def appendDigits (significand : Nat) : List Char → Nat × Nat
  | [] => (significand, 0)
  | c :: cs =>
    if 10 * significand + digitValue c < 0x10000000000000000 then
      appendDigits (10 * significand + digitValue c) cs
    else (significand, cs.length + 1)

def powerOfTen (e : Nat) : Float :=
  Float.ofScientific 1 false e

/-- Multiplies or divides by the power of ten, once where it can be held and
else by steps of 10^308 as long as something is left to divide. No answer means
that the number is too great. -/
def scaleByTen (x : Float) (e : Int) : Option Float :=
  if 0 ≤ e then
    if e ≤ 308 then
      let y := x * powerOfTen e.toNat
      if y.isInf then none else some y
    else if x == 0 then some x else none
  else if -308 ≤ e then some (x / powerOfTen (-e).toNat)
  else if x == 0 then some x
  else scaleByTen (x / powerOfTen 308) (e + 308)
termination_by e.natAbs

/-- The parts of a number that has a fraction or an exponent, or more digits
than 64 bits hold. -/
structure Parts where
  negative : Bool
  significand : Nat
  exponent : Int

def Parts.read (p : Parts) (rest : List Char) : Except Fault (Number × List Char) :=
  match scaleByTen (UInt64.ofNat p.significand).toFloat p.exponent with
  | some x => .ok (.binary (.ofFloat (if p.negative then -x else x)), rest)
  | none => faultAt .numberOutOfRange rest

def exponentBound : Int :=
  0x7FFFFFFF

/-- Reads the digits of an exponent whose value so far is given. Past the bound
a number other than zero is too great, or vanishes. -/
def readExponentDigits (p : Parts) (minus : Bool) (value : Int) :
    List Char → Except Fault (Number × List Char)
  | [] => finish []
  | c :: cs =>
    if c.isDigit then
      let value' := 10 * value + digitValue c
      if value' ≤ exponentBound then readExponentDigits p minus value' cs
      else if p.significand ≠ 0 && !minus then faultAt .numberOutOfRange cs
      else Parts.read ⟨p.negative, 0, 0⟩ (cs.dropWhile Char.isDigit)
    else finish (c :: cs)
where
  /-- The number with the exponent read so far, kept within 32 bits. -/
  finish (rest : List Char) : Except Fault (Number × List Char) :=
    let e := if minus then max (p.exponent - value) (-exponentBound - 1)
      else min (p.exponent + value) exponentBound
    Parts.read { p with exponent := e } rest

def readExponent (p : Parts) (cs : List Char) : Except Fault (Number × List Char) :=
  let (minus, cs) := match cs with
    | '+' :: cs => (false, cs)
    | '-' :: cs => (true, cs)
    | cs => (false, cs)
  match cs with
  | [] => faultAt .endInValue []
  | c :: cs =>
    if c.isDigit then readExponentDigits p minus (digitValue c) cs
    else faultNext .badNumber (c :: cs)

def readPower (p : Parts) (cs : List Char) : Except Fault (Number × List Char) :=
  match cs with
  | 'e' :: cs | 'E' :: cs => readExponent p cs
  | cs => p.read cs

def readFraction (p : Parts) (cs : List Char) : Except Fault (Number × List Char) :=
  let digits := cs.takeWhile Char.isDigit
  let rest := cs.dropWhile Char.isDigit
  if digits.isEmpty then
    match rest with
    | [] => faultAt .endInValue []
    | rest => faultNext .badNumber rest
  else
    let (significand, left) := appendDigits p.significand digits
    readPower ⟨p.negative, significand, p.exponent - (digits.length - left : Nat)⟩ rest

/-- Reads what follows the integer digits of a number. An integer without
fraction and exponent stays one within 64 bits, except the negative zero. -/
def readAfterInteger (negative : Bool) (digits rest : List Char) :
    Except Fault (Number × List Char) :=
  let (significand, left) := appendDigits 0 digits
  let p : Parts := ⟨negative, significand, left⟩
  match rest with
  | '.' :: cs => readFraction p cs
  | 'e' :: cs | 'E' :: cs => readExponent p cs
  | cs =>
    if left = 0 ∧ !negative then .ok (.integer significand, cs)
    else if left = 0 ∧ significand ≠ 0 ∧ significand ≤ 0x8000000000000000 then
      .ok (.integer (-significand), cs)
    else p.read cs

def readUnsigned (negative : Bool) (cs : List Char) : Except Fault (Number × List Char) :=
  match cs with
  | [] => faultAt .endInValue []
  | '0' :: c :: cs =>
    if c.isDigit then faultNext .badNumber (c :: cs)
    else readAfterInteger negative ['0'] (c :: cs)
  | c :: cs =>
    if c.isDigit then
      readAfterInteger negative ((c :: cs).takeWhile Char.isDigit)
        ((c :: cs).dropWhile Char.isDigit)
    else faultNext .badNumber (c :: cs)

def readNumber (cs : List Char) : Except Fault (Number × List Char) :=
  match cs with
  | '-' :: cs => readUnsigned true cs
  | cs => readUnsigned false cs

end LspAdapter.Json
