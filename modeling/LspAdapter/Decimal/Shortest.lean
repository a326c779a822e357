import LspAdapter.Decimal.Binary64
/-!
# The shortest decimal that reads back

Every real between the two midpoints around a binary64 number rounds to it, the
midpoints included when its significand is even.  For one digit, two digits and
so on, the two neighbours of the number on that decimal grid are tried in exact
arithmetic; the first grid with a neighbour in the interval gives the digits,
and of two neighbours the nearer.
-/

namespace LspAdapter.Decimal

/-- The decimal numeral `digits · 10 ^ exponent`. -/
structure Numeral where
  digits : Nat
  exponent : Int
  deriving DecidableEq, Repr

structure Ratio where
  num : Nat
  den : Nat

namespace Ratio

def scaled (n b : Nat) (e : Int) : Ratio :=
  if 0 ≤ e then ⟨n * Nat.pow b e.toNat, 1⟩ else ⟨n, Nat.pow b (-e).toNat⟩

def le (x y : Ratio) : Bool :=
  x.num * y.den ≤ y.num * x.den

def lt (x y : Ratio) : Bool :=
  x.num * y.den < y.num * x.den

def quotient (x y : Ratio) : Nat :=
  x.num * y.den / (x.den * y.num)

end Ratio

namespace Binary64

def ratio (x : Binary64) : Ratio :=
  .scaled x.significand 2 x.exponent

def midpointBelow (x : Binary64) : Ratio :=
  if x.isPowerStart then .scaled (4 * x.significand - 1) 2 (x.exponent - 2)
  else .scaled (2 * x.significand - 1) 2 (x.exponent - 1)

def midpointAbove (x : Binary64) : Ratio :=
  .scaled (2 * x.significand + 1) 2 (x.exponent - 1)

/-- Whether a decimal rounds to the number. -/
def readsBack (x : Binary64) (d : Numeral) : Bool :=
  let r := Ratio.scaled d.digits 10 d.exponent
  if x.significand % 2 = 0 then x.midpointBelow.le r && r.le x.midpointAbove
  else x.midpointBelow.lt r && r.lt x.midpointAbove

/-- The exponent of the greatest power of ten that is at most the number. -/
def magnitude (x : Binary64) : Int :=
  let ten : Nat → Int := fun i => 308 - Int.ofNat i
  match (List.range 633).find? fun i => (Ratio.scaled 1 10 (ten i)).le x.ratio with
  | some i => ten i
  | none => -324

/-- The neighbours of the number on the grid of some count of digits, the
nearer one first; a tie goes to the even one. -/
def neighbours (x : Binary64) (count : Nat) : List Numeral :=
  let e := x.magnitude + 1 - Int.ofNat count
  let unit := Ratio.scaled 1 10 e
  let below := x.ratio.quotient unit
  let twice := (Ratio.mk (2 * x.ratio.num) x.ratio.den)
  let middle := Ratio.scaled (2 * below + 1) 10 e
  if twice.lt middle || (twice.le middle && below % 2 = 0) then
    [⟨below, e⟩, ⟨below + 1, e⟩]
  else [⟨below + 1, e⟩, ⟨below, e⟩]

/-- Moves trailing zeros of the digits into the exponent; `fuel` bounds their
count. -/
def trimmed : Nat → Numeral → Numeral
  | 0, d => d
  | fuel + 1, d =>
    if d.digits % 10 = 0 ∧ d.digits ≠ 0 then trimmed fuel ⟨d.digits / 10, d.exponent + 1⟩
    else d

def shortest (x : Binary64) : Numeral :=
  if x.isZero then ⟨0, 0⟩
  else
    match ((List.range 17).flatMap fun i => x.neighbours (i + 1)).find? x.readsBack with
    | some d => trimmed 18 d
    | none => ⟨0, 0⟩

end Binary64

end LspAdapter.Decimal
