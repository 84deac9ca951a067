import StoryWorld.Expr

/-! Conditions: expressions read as true or false. -/

namespace StoryWorld

/-- An expression together with the text that it was read from. -/
structure Condition where
  source : String
  expr : Expr
  deriving DecidableEq, Repr

namespace Condition

/-- The condition that always holds. -/
def always : Condition := ⟨"true", .literal (.bool true)⟩

/-- Whether a condition holds: an integer is true unless it is 0, and text is refused. -/
def holds (c : Condition) (s : Scope) : Except EvalError Bool := do
  let v ← c.expr.evaluate s
  v.asBool .and

end Condition

end StoryWorld
