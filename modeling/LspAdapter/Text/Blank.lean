import LspAdapter.Text.Interval
/-!
# Blank characters

The White_Space property of Unicode: twenty-five code points, among them the
no-break space and the ideographic space, but not the zero-width space.
-/

namespace LspAdapter.Text

def blankTable : List Interval :=
  [⟨0x9, 0xD⟩, ⟨0x20, 0x20⟩, ⟨0x85, 0x85⟩, ⟨0xA0, 0xA0⟩, ⟨0x1680, 0x1680⟩,
    ⟨0x2000, 0x200A⟩, ⟨0x2028, 0x2029⟩, ⟨0x202F, 0x202F⟩, ⟨0x205F, 0x205F⟩,
    ⟨0x3000, 0x3000⟩]

def isBlank (c : Char) : Bool :=
  Interval.anyHolds blankTable c.toNat

theorem isBlank_eq_false_of_isDigit {c : Char} (h : c.isDigit = true) :
    isBlank c = false := by
  have hlow : 48 ≤ c.toNat := by
    simp only [Char.isDigit, Bool.and_eq_true, decide_eq_true_eq] at h
    exact UInt32.le_iff_toNat_le.mp h.1
  have hhigh : c.toNat ≤ 57 := by
    simp only [Char.isDigit, Bool.and_eq_true, decide_eq_true_eq] at h
    exact UInt32.le_iff_toNat_le.mp h.2
  rw [isBlank, Bool.eq_false_iff, ne_eq, Interval.anyHolds_iff]
  simp only [blankTable, List.mem_cons, List.not_mem_nil, or_false, not_exists, not_and]
  rintro i (rfl | rfl | rfl | rfl | rfl | rfl | rfl | rfl | rfl | rfl) <;> simp only <;> omega

end LspAdapter.Text
