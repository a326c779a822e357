import LspAdapter.Decimal.Shortest
/-!
# Writing binary64 numbers

The digits are always the shortest that read back; a `Layout` says for which
magnitudes they are written out and for which an exponent follows them.
-/

namespace LspAdapter.Decimal

/-- Where positional writing begins and ends, and how an exponent is marked. -/
structure Layout where
  /-- The magnitudes written without an exponent: from the first, up to but not
  including the second. No bound means all magnitudes. -/
  positional : Option (Int × Int)
  /-- The sign of an exponent that is not negative. -/
  plus : String

namespace Layout

/-- The digits of a decimal with the point put in, and `.0` after an integer. -/
def positionalText (d : Numeral) : String :=
  let digits := toString d.digits
  if 0 ≤ d.exponent then digits ++ "".pushn '0' d.exponent.toNat ++ ".0"
  else
    let places := (-d.exponent).toNat
    if digits.length ≤ places then
      "0." ++ "".pushn '0' (places - digits.length) ++ digits
    else
      String.ofList (digits.toList.take (digits.length - places)) ++ "." ++
        String.ofList (digits.toList.drop (digits.length - places))

def exponentText (l : Layout) (d : Numeral) (magnitude : Int) : String :=
  let point := match (toString d.digits).toList with
    | c :: c' :: cs => String.ofList (c :: '.' :: c' :: cs)
    | cs => String.ofList cs
  point ++ "e" ++ (if 0 ≤ magnitude then l.plus else "") ++ toString magnitude

def text (l : Layout) (x : Binary64) : String :=
  let sign := if x.isNegative then "-" else ""
  if x.isZero then sign ++ "0.0"
  else
    let d := x.shortest
    let magnitude := d.exponent + Int.ofNat (toString d.digits).length - 1
    let inside := match l.positional with
      | none => true
      | some (low, high) => low ≤ magnitude && magnitude < high
    sign ++ if inside then positionalText d else l.exponentText d magnitude

def full : Layout :=
  ⟨none, ""⟩

end Layout

end LspAdapter.Decimal
