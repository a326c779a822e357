import LspAdapter.Text.Interval
/-!
# Rules of mapping

What the code points of an interval become in a domain.  U+FFFD stands for
nothing that a domain may hold.
-/

namespace LspAdapter.Domain

open Text (Interval)

inductive Targets
  /-- Each one becomes the code point so many places on. -/
  | shifted (offset : Int)
  /-- The first of two becomes the second, which stays. -/
  | paired
  /-- Each one becomes the character at its place. -/
  | letters (rows : List String)
  /-- Each one becomes the text at its place; semicolons stand between the texts
  of a row. -/
  | words (rows : List String)

/-- What the code points of an interval become. -/
structure Rule where
  range : Interval
  targets : Targets

def Rule.apply (r : Rule) (n : Nat) : List Char :=
  let place := n - r.range.first
  match r.targets with
  | .shifted offset => [Char.ofNat (Int.toNat (n + offset))]
  | .paired => [Char.ofNat (if place % 2 = 0 then n + 1 else n)]
  | .letters rows => ((rows.flatMap String.toList).drop place).take 1
  | .words rows => ((rows.flatMap (·.toList.splitOn ';')).drop place).headD []

end LspAdapter.Domain
