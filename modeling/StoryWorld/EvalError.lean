import StoryWorld.Operator
import StoryWorld.Value

/-! Why an expression has no value. -/

namespace StoryWorld

/-- The cause of a failed evaluation. -/
inductive EvalError
  | unknownName (name : String)
  | typeMismatch (op : Operator) (found : Value)
  | divisionByZero
  | overflow (op : Operator)
  deriving DecidableEq, Repr

/-- The wording of an evaluation error. -/
def EvalError.message : EvalError → String
  | unknownName name => "could not find \"" ++ name ++ "\" in world or local attributes"
  | typeMismatch op found =>
    "operator `" ++ op.symbol ++ "` cannot be applied to " ++ found.kind ++ " value `" ++
      found.shown ++ "`"
  | divisionByZero => "division by zero"
  | overflow op => "integer overflow in `" ++ op.symbol ++ "`"

end StoryWorld
