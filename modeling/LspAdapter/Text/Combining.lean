import LspAdapter.Text.Mark
/-!
# Combining characters

The Grapheme_Extend property of Unicode 17 without its two letters, the
halfwidth sound marks U+FF9E and U+FF9F: characters that join the one before
them, such as U+0301, and would be drawn over a quotation mark.  They are the
marks without room of their own and a few others.
-/

namespace LspAdapter.Text

/-- The combining characters that are no marks or take room. -/
def extendingTable : List Interval :=
  [⟨0x9BE, 0x9BE⟩, ⟨0x9D7, 0x9D7⟩, ⟨0xB3E, 0xB3E⟩, ⟨0xB57, 0xB57⟩, ⟨0xBBE, 0xBBE⟩,
    ⟨0xBD7, 0xBD7⟩, ⟨0xCC0, 0xCC0⟩, ⟨0xCC2, 0xCC2⟩, ⟨0xCC7, 0xCC8⟩, ⟨0xCCA, 0xCCB⟩,
    ⟨0xCD5, 0xCD6⟩, ⟨0xD3E, 0xD3E⟩, ⟨0xD57, 0xD57⟩, ⟨0xDCF, 0xDCF⟩, ⟨0xDDF, 0xDDF⟩,
    ⟨0x1715, 0x1715⟩, ⟨0x1734, 0x1734⟩, ⟨0x1B35, 0x1B35⟩, ⟨0x1B3B, 0x1B3B⟩,
    ⟨0x1B3D, 0x1B3D⟩, ⟨0x1B43, 0x1B44⟩, ⟨0x1BAA, 0x1BAA⟩, ⟨0x1BF2, 0x1BF3⟩,
    ⟨0x200C, 0x200C⟩, ⟨0x302E, 0x302F⟩, ⟨0xA953, 0xA953⟩, ⟨0xA9C0, 0xA9C0⟩,
    ⟨0x111C0, 0x111C0⟩, ⟨0x11235, 0x11235⟩, ⟨0x1133E, 0x1133E⟩, ⟨0x1134D, 0x1134D⟩,
    ⟨0x11357, 0x11357⟩, ⟨0x113B8, 0x113B8⟩, ⟨0x113C2, 0x113C2⟩, ⟨0x113C5, 0x113C5⟩,
    ⟨0x113C7, 0x113C9⟩, ⟨0x113CF, 0x113CF⟩, ⟨0x114B0, 0x114B0⟩, ⟨0x114BD, 0x114BD⟩,
    ⟨0x115AF, 0x115AF⟩, ⟨0x116B6, 0x116B6⟩, ⟨0x11930, 0x11930⟩, ⟨0x1193D, 0x1193D⟩,
    ⟨0x11F41, 0x11F41⟩, ⟨0x16FF0, 0x16FF1⟩, ⟨0x1D165, 0x1D166⟩, ⟨0x1D16D, 0x1D172⟩,
    ⟨0xE0020, 0xE007F⟩]

def isCombining (c : Char) : Bool :=
  isNonspacing c || Interval.anyHolds extendingTable c.toNat

end LspAdapter.Text
