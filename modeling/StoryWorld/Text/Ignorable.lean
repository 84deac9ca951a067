/-! Sets of characters, given by the ranges of their code points, and among them the characters that
are left out where they cannot be shown: the Unicode 17 property `Default_Ignorable_Code_Point`. -/

namespace StoryWorld.Text

/-- Whether a character lies in one of some ranges, both ends included. -/
def isWithin (ranges : List (Nat × Nat)) (c : Char) : Bool :=
  ranges.any fun (first, last) => first ≤ c.toNat && c.toNat ≤ last

/-- The ranges of ignorable code points, both ends included, in increasing order. -/
def ignorableRanges : List (Nat × Nat) := [
  (0xAD, 0xAD), (0x34F, 0x34F), (0x61C, 0x61C), (0x115F, 0x1160), (0x17B4, 0x17B5),
  (0x180B, 0x180F), (0x200B, 0x200F), (0x202A, 0x202E), (0x2060, 0x206F), (0x3164, 0x3164),
  (0xFE00, 0xFE0F), (0xFEFF, 0xFEFF), (0xFFA0, 0xFFA0), (0xFFF0, 0xFFF8), (0x1BCA0, 0x1BCA3),
  (0x1D173, 0x1D17A), (0xE0000, 0xE0FFF)]

/-- Whether a character is left out where it cannot be shown. -/
def isIgnorable (c : Char) : Bool := isWithin ignorableRanges c

end StoryWorld.Text
