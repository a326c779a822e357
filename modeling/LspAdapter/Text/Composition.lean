import LspAdapter.Text.CombiningClass
import LspAdapter.Text.Composite
/-!
# Composed texts

The same text can be written with composites or with their parts, and marks at
different places of a base can be written in any order.  The composed form is
one of these ways: composites are taken apart, the marks are put in order, and
all that can be composed is.

Only pairs are taken apart, so the form is unique for texts without characters
that merely stand for one other.
-/

namespace LspAdapter.Text

def compositeDepth : Nat :=
  3

/-- The parts of a character, those of its parts included, in so many steps. -/
def partsWithin : Nat → Char → List Char
  | 0, c => [c]
  | steps + 1, c =>
    match parts? c with
    | none => [c]
    | some (a, b) => partsWithin steps a ++ [b]

/-- Puts a mark behind a text, which is in reverse, and before the marks at its
end that have a greater class. -/
def putMark (c : Char) : List Char → List Char
  | [] => [c]
  | d :: ds =>
    if 0 < combiningClass c && combiningClass c < combiningClass d then d :: putMark c ds
    else c :: d :: ds

def ordered (cs : List Char) : List Char :=
  (cs.foldl (fun before c => putMark c before) []).reverse

/-- Composes a base with what follows it, where some marks that do not join the
base stand between, in reverse. A mark joins the base unless one of the same
place stands between. -/
def composeBase (base : Char) (between : List Char) : List Char → List Char
  | [] => base :: between.reverse
  | c :: cs =>
    let free := between.head?.all fun d => combiningClass d < combiningClass c
    match if free then whole? base c else none with
    | some whole => composeBase whole between cs
    | none =>
      if combiningClass c = 0 then base :: between.reverse ++ composeBase c [] cs
      else composeBase base (c :: between) cs

def composeParts : List Char → List Char
  | [] => []
  | c :: cs => if combiningClass c = 0 then composeBase c [] cs else c :: composeParts cs

def composed (cs : List Char) : List Char :=
  composeParts (ordered (cs.flatMap (partsWithin compositeDepth)))

end LspAdapter.Text
