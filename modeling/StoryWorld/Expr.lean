import StoryWorld.Operator.Apply
import StoryWorld.Scope

/-! Expressions: their values in a scope and their text. -/

namespace StoryWorld

/-- An expression over values, names and binary operators. -/
inductive Expr
  | literal (v : Value)
  | name (ident : String)
  | binary (op : Operator) (left right : Expr)
  deriving DecidableEq, Repr

namespace Expr

/-- The value of an expression. Both operands are evaluated, the left one first, before the
operator is applied. -/
def evaluate (s : Scope) : Expr → Except EvalError Value
  | literal v => .ok v
  | name ident => s.lookup ident
  | binary op left right => do
    let l ← left.evaluate s
    let r ← right.evaluate s
    op.apply l r

/-- The text of an expression, with parentheses around every operation. -/
def shown : Expr → String
  | literal v => v.shown
  | name ident => ident
  | binary op left right => "(" ++ left.shown ++ " " ++ op.symbol ++ " " ++ right.shown ++ ")"

/-- The names in an expression, from left to right. -/
def names : Expr → List String
  | literal _ => []
  | name ident => [ident]
  | binary _ left right => left.names ++ right.names

end Expr

end StoryWorld
