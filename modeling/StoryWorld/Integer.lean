/-! Signed 64-bit integers: the exact value of a result or none, clamping, and decimal text. -/

namespace StoryWorld

/-- The integers of the story language. -/
abbrev Integer := Int64

namespace Integer

/-- The value of the least integer. -/
def least : Int := -9223372036854775808

/-- The value of the greatest integer. -/
def greatest : Int := 9223372036854775807

/-- The integer of the value `n`, if `n` is in range. -/
def ofInt? (n : Int) : Option Integer :=
  if least ≤ n ∧ n ≤ greatest then some (Int64.ofInt n) else none

theorem least_le_toInt (i : Integer) : least ≤ i.toInt := Int64.le_toInt i

theorem toInt_le_greatest (i : Integer) : i.toInt ≤ greatest :=
  Int.le_of_lt_add_one (Int64.toInt_lt i)

theorem ofInt?_eq_some_iff {n : Int} {i : Integer} : ofInt? n = some i ↔ i.toInt = n := by
  unfold ofInt?
  constructor
  · intro h
    split at h
    · next hn =>
      cases h
      exact Int64.toInt_ofInt_of_le hn.1 (Int.lt_add_one_of_le hn.2)
    · cases h
  · rintro rfl
    rw [if_pos ⟨least_le_toInt i, toInt_le_greatest i⟩, Int64.ofInt_toInt]

theorem ofInt?_eq_none_iff {n : Int} : ofInt? n = none ↔ n < least ∨ greatest < n := by
  unfold ofInt?
  split <;> simp <;> omega

/-- The integer nearest to `n`. -/
def clamp (n : Int) : Integer := Int64.ofIntClamp n

/-! ## Decimal text -/

/-- The value of a non-empty run of decimal digits. -/
def readDigits? (digits : List Char) : Option Nat :=
  if digits ≠ [] ∧ digits.all Char.isDigit then some (Nat.ofDigitChars 10 digits 0) else none

/-- Reads one optional sign and decimal digits; no other character may stand in the text. -/
def readChars? : List Char → Option Integer
  | '-' :: digits => (readDigits? digits).bind fun n => ofInt? (-n)
  | '+' :: digits => (readDigits? digits).bind fun n => ofInt? n
  | digits => (readDigits? digits).bind fun n => ofInt? n

/-- The integer that `text` spells, if it spells one in range. -/
def read? (text : String) : Option Integer := readChars? text.toList

/-- The decimal text, with a minus sign below zero. -/
def text (i : Integer) : String := i.toInt.repr

end Integer

end StoryWorld
