import LspAdapter.Domain.Mapping
import LspAdapter.Domain.Punycode
import LspAdapter.Text.Composition
/-!
# Labels of domains

A label is what stands between two dots.  One with letters of any script may be
written in Latin letters behind a mark, and is what these letters write.
-/

namespace LspAdapter.Domain

/-- What marks a label that is written in Latin letters. -/
def encodedMark : List Char :=
  ['x', 'n', '-', '-']

def encodedLimit : Nat :=
  2000

def labelLimit : Nat :=
  1000

def isAscii (c : Char) : Bool :=
  c.toNat < 0x80

/-- The label that Latin letters write. It must be one that is written so, and
in the form in which it stays as it is. -/
def written? (cs : List Char) : Option (List Char) :=
  if cs.all isAscii && cs.getLast?.any (· ≠ '-') && cs.length ≤ encodedLimit then do
    let label ← Punycode.decode? cs
    if label.all stays && Text.composed label = label then some label else none
  else none

def label? (cs : List Char) : Option (List Char) :=
  if encodedMark.isPrefixOf cs then written? (cs.drop encodedMark.length) else some cs

/-- Whether a label is sound in itself: it does not begin with a mark, its
joiners may stand where they do, and it is not too long. -/
def isSound (label : List Char) : Bool :=
  !(label.head?.any Text.isMark) && joinersFit [] label &&
    (label.all isAscii || label.length ≤ labelLimit)

end LspAdapter.Domain
