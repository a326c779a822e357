import LspAdapter.Text.Blank
/-!
# The integer at the start of a text

Blanks and one sign may stand before the digits, and anything after them: `2.5`
begins with 2.  The run of digits is cut off at a place counted in bytes and
read within 64 bits; a run that denotes more stands for the greatest integer of
that size.
-/

namespace LspAdapter.LeadingInteger

open Text (isBlank)

inductive Fault
  /-- A text is cut inside a character or behind its end. -/
  | misplacedCut
  /-- A result has no 64 bits. -/
  | overflow
  deriving DecidableEq, Repr

def takeSign : List Char → Bool × List Char
  | '-' :: cs => (true, cs)
  | '+' :: cs => (false, cs)
  | cs => (false, cs)

/-! ## The run of digits -/

/-- The place of the first character that is no digit, or of the end, counted
in bytes. -/
def digitsEnd : List Char → Nat
  | [] => 0
  | c :: cs => if c.isDigit then c.utf8Size + digitsEnd cs else 0

def front : List Char → Nat → Except Fault (List Char)
  | _, 0 => .ok []
  | [], _ + 1 => .error .misplacedCut
  | c :: cs, n + 1 =>
    if c.utf8Size ≤ n + 1 then (front cs (n + 1 - c.utf8Size)).map (c :: ·)
    else .error .misplacedCut

/-! ## Signed integers of 64 bits -/

def int64? (z : Int) : Option Int64 :=
  if Int64.minValue.toInt ≤ z ∧ z ≤ Int64.maxValue.toInt then some (.ofInt z) else none

def digitValue (c : Char) : Nat :=
  c.toNat - '0'.toNat

/-- Puts a digit behind a number; none if a step leaves the 64 bits. -/
def push? (n : Int64) (c : Char) : Option Int64 := do
  let shifted ← int64? (10 * n.toInt)
  int64? (shifted.toInt + digitValue c)

def number? (digits : List Char) : Option Int64 :=
  digits.foldlM push? 0

def negate (n : Int64) : Except Fault Int64 :=
  match int64? (-n.toInt) with
  | some m => .ok m
  | none => .error .overflow

/-! ## Reading -/

/-- Reads the integer at the start of a text; there is none if no digit follows
the optional sign. -/
def scan (s : String) : Except Fault (Option Int64) := do
  let (negative, cs) := takeSign (s.toList.dropWhile isBlank)
  let digits ← front cs (digitsEnd cs)
  if digits.isEmpty then return none
  -- Too many digits are out of every range that is asked for.
  let n := (number? digits).getD Int64.maxValue
  if negative then return some (← negate n)
  return some n

/-- The integer at the start of a text, if there is one. No text breaks its
reading off. -/
def read? (s : String) : Option Int :=
  match scan s with
  | .ok n => n.map Int64.toInt
  | .error _ => none

end LspAdapter.LeadingInteger
