import LspAdapter.Domain.Joining
import LspAdapter.Domain.Mapping.Alphabets
import LspAdapter.Domain.Mapping.Forms
import LspAdapter.Domain.Mapping.Ideographs
import LspAdapter.Domain.Mapping.Supplement
import LspAdapter.Text.Printable
/-!
# Characters in domains

What becomes of a character in an international domain: capital letters become
small ones, variants of characters become these, some characters are dropped,
and others may not stand in a domain at all.
-/

namespace LspAdapter.Domain

open Text (Interval)

def droppedTable : List Interval :=
  [⟨0xAD, 0xAD⟩, ⟨0x34F, 0x34F⟩, ⟨0x115F, 0x1160⟩, ⟨0x17B4, 0x17B5⟩, ⟨0x180B, 0x180F⟩,
    ⟨0x200B, 0x200B⟩, ⟨0x2060, 0x2064⟩, ⟨0x206A, 0x206F⟩, ⟨0x3164, 0x3164⟩,
    ⟨0xFE00, 0xFE0F⟩, ⟨0xFEFF, 0xFEFF⟩, ⟨0xFFA0, 0xFFA0⟩, ⟨0x1BCA0, 0x1BCA3⟩,
    ⟨0x1D173, 0x1D17A⟩, ⟨0xE0100, 0xE01EF⟩]

/-- What stands for a character that may not stand in a domain. -/
def refusal : Char := '\ufffd'

def rules : List Rule :=
  alphabetRules ++ ideographRules ++ formRules ++ supplementRules

def mapped (c : Char) : List Char :=
  let n := c.toNat
  if n < 0x80 then [c.toLower]
  else if Interval.anyHolds droppedTable n then []
  else
    match rules.find? (·.range.holds n) with
    | some r => r.apply n
    | none => if Text.isPrintable c || isJoiner c then [c] else [refusal]

def stays (c : Char) : Bool :=
  mapped c = [c] && c ≠ refusal

end LspAdapter.Domain
