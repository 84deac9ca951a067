import StoryWorld.Integer

/-! Numbers on the command line, read from left to right up to the first fault. -/

namespace StoryWorld.CommandLine

/-- Why a text is no number. -/
inductive NumberFault
  | empty
  | invalidDigit
  | tooLarge
  | tooSmall
  deriving DecidableEq, Repr

/-- The wording of a fault. -/
def NumberFault.message : NumberFault → String
  | empty => "cannot parse integer from empty string"
  | invalidDigit => "invalid digit found in string"
  | tooLarge => "number too large to fit in target type"
  | tooSmall => "number too small to fit in target type"

/-- Reads one more digit of a number between `low` and `high`; `sign` is 1 or -1. -/
def readDigit (low high sign acc : Int) (c : Char) : Except NumberFault Int :=
  if c.isDigit then
    let next := 10 * acc + sign * (c.toNat - '0'.toNat : Nat)
    if high < next then .error .tooLarge
    else if next < low then .error .tooSmall
    else .ok next
  else
    .error .invalidDigit

/-- Reads a number between `low` and `high`. A plus sign may stand in front, and a minus sign if
`low` is below zero. -/
def readNumber (low high : Int) (text : String) : Except NumberFault Int :=
  match text.toList with
  | [] => .error .empty
  | ['+'] => .error .invalidDigit
  | ['-'] => .error .invalidDigit
  | '+' :: digits => digits.foldlM (readDigit low high 1) 0
  | '-' :: digits =>
    if low < 0 then digits.foldlM (readDigit low high (-1)) 0 else .error .invalidDigit
  | digits => digits.foldlM (readDigit low high 1) 0

/-- Reads a count that fits into 64 bits. -/
def readCount (text : String) : Except NumberFault Nat :=
  (readNumber 0 18446744073709551615 text).map Int.toNat

/-- Reads an integer. -/
def readInteger (text : String) : Except NumberFault Integer :=
  (readNumber Integer.least Integer.greatest text).map Int64.ofInt

end StoryWorld.CommandLine
