import LspAdapter.Domain.Direction
import LspAdapter.Domain.Label
/-!
# International domains

A domain is a row of labels with dots between them, in the letters of any
script.  A text names a domain if all its characters may stand in one, once they
are mapped and composed, and if the labels are sound.
-/

namespace LspAdapter.Domain

def normalized (cs : List Char) : List Char :=
  Text.composed (cs.flatMap mapped)

/-- The labels of the domain that a text names, if it names one and none of some
further characters is in it. -/
def labels? (isForbidden : Char → Bool) (cs : List Char) : Option (List (List Char)) := do
  let cs := normalized cs
  if cs.any fun c => c = refusal || isForbidden c then none
  else
    let labels ← (cs.splitOn '.').mapM label?
    if labels.all isSound && areDirected labels then some labels else none

end LspAdapter.Domain
