import StoryWorld.Text.Ignorable

/-! How many columns of a terminal a character takes up on its own: wide ones two, columnless ones
none, nearly all others one. Which are which depends on the version of Unicode, and is a table. -/

namespace StoryWorld.Text

/-- What a version of Unicode says of the widths of characters: the ranges of those without a column
and of the wide ones. What is in both has no column. -/
structure WidthTable where
  columnless : List (Nat × Nat)
  wide : List (Nat × Nat)

/-- The columns of a character. Controls count as one; two Khmer signs stand for several letters. -/
def WidthTable.columns (t : WidthTable) (c : Char) : Nat :=
  if c.toNat ≤ 0xA0 then 1
  else if isWithin t.columnless c then 0
  else if c.toNat = 0x17D8 then 3
  else if isWithin t.wide c || c.toNat == 0x17A4 then 2
  else 1

end StoryWorld.Text
