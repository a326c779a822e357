/-!
# Binary64 numbers

A finite binary64 number is a sign and `m · 2 ^ q` with natural `m`.  The type
holds the bit pattern, so that equality is decidable and tells zeros apart.
-/

namespace LspAdapter.Decimal

structure Binary64 where
  bits : UInt64
  deriving DecidableEq, Repr

namespace Binary64

def ofFloat (x : Float) : Binary64 :=
  ⟨x.toBits⟩

def isNegative (x : Binary64) : Bool :=
  0x8000000000000000 ≤ x.bits.toNat

def fractionBound : Nat :=
  0x10000000000000

def exponentField (x : Binary64) : Nat :=
  x.bits.toNat / fractionBound % 0x800

def fraction (x : Binary64) : Nat :=
  x.bits.toNat % fractionBound

/-- The integer `m` of `m · 2 ^ q`. -/
def significand (x : Binary64) : Nat :=
  if x.exponentField = 0 then x.fraction else fractionBound + x.fraction

/-- The exponent `q` of `m · 2 ^ q`. -/
def exponent (x : Binary64) : Int :=
  Int.ofNat (max x.exponentField 1) - 1075

/-- Whether the gap below the number is half as wide as the gap above. -/
def isPowerStart (x : Binary64) : Bool :=
  x.fraction = 0 && 1 < x.exponentField

def isZero (x : Binary64) : Bool :=
  x.significand = 0

end Binary64

end LspAdapter.Decimal
