/-! The binary operators of conditions and their spellings. -/

namespace StoryWorld

/-- A binary operator. -/
inductive Operator
  | add | sub | mul | div
  | lt | gt | le | ge
  | eq | ne
  | and | or | xor | xnor
  deriving DecidableEq, Repr

namespace Operator

/-- Every operator. -/
def all : List Operator :=
  [add, sub, mul, div, lt, gt, le, ge, eq, ne, and, or, xor, xnor]

/-- How an operator is written. -/
def symbol : Operator → String
  | add => "+"
  | sub => "-"
  | mul => "*"
  | div => "/"
  | lt => "<"
  | gt => ">"
  | le => "<="
  | ge => ">="
  | eq => "=="
  | ne => "!="
  | and => "and"
  | or => "or"
  | xor => "xor"
  | xnor => "xnor"

/-- The operator that a symbol spells; capitals count as small letters. -/
def ofSymbol? (symbol : String) : Option Operator :=
  all.find? fun op => op.symbol.toList == symbol.toList.map Char.toLower

end Operator

end StoryWorld
