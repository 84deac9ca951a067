import StoryWorld.EvalError

/-! What an operator gives for two values. Arithmetic is exact or refused, and only equality takes
text. -/

namespace StoryWorld

namespace Value

/-- The numeric view of a value, as an operand of `op`: a boolean counts as 0 or 1. -/
def asInt (op : Operator) : Value → Except EvalError Integer
  | int n => .ok n
  | bool b => .ok (if b then 1 else 0)
  | text s => .error (.typeMismatch op (.text s))

/-- The truth view of a value, as an operand of `op`: an integer is true unless it is 0. -/
def asBool (op : Operator) : Value → Except EvalError Bool
  | int n => .ok (n != 0)
  | bool b => .ok b
  | text s => .error (.typeMismatch op (.text s))

/-- Equality of operands: numeric, unless one of them is text, and then by what is shown. -/
def looselyEqual : Value → Value → Bool
  | text s, v => s == v.shown
  | v, text s => v.shown == s
  | int m, int n => m == n
  | int m, bool b => m == if b then 1 else 0
  | bool b, int n => (if b then 1 else 0) == n
  | bool a, bool b => a == b

end Value

namespace Operator

/-- The integer of an exact result, or an overflow. -/
def checked (op : Operator) (result : Int) : Except EvalError Value :=
  match Integer.ofInt? result with
  | some n => .ok (.int n)
  | none => .error (.overflow op)

/-- Arithmetic on both numeric views. -/
def arithmetic (op : Operator) (f : Int → Int → Int) (left right : Value) :
    Except EvalError Value := do
  let l ← left.asInt op
  let r ← right.asInt op
  op.checked (f l.toInt r.toInt)

/-- Division toward zero. The divisor is looked at first. -/
def divide (left right : Value) : Except EvalError Value := do
  let r ← right.asInt div
  if r = 0 then
    .error .divisionByZero
  else
    let l ← left.asInt div
    div.checked (l.toInt.tdiv r.toInt)

/-- A comparison of both numeric views. -/
def comparison (op : Operator) (f : Int → Int → Bool) (left right : Value) :
    Except EvalError Value := do
  let l ← left.asInt op
  let r ← right.asInt op
  return .bool (f l.toInt r.toInt)

/-- A connective on both truth views. The right one is not looked at when `decided` finds the
answer in the left one. -/
def connective (op : Operator) (decided : Bool → Option Bool) (f : Bool → Bool → Bool)
    (left right : Value) : Except EvalError Value := do
  let l ← left.asBool op
  match decided l with
  | some answer => return .bool answer
  | none =>
    let r ← right.asBool op
    return .bool (f l r)

/-- The value of `left op right`. -/
def apply (op : Operator) (left right : Value) : Except EvalError Value :=
  match op with
  | add => op.arithmetic (· + ·) left right
  | sub => op.arithmetic (· - ·) left right
  | mul => op.arithmetic (· * ·) left right
  | div => divide left right
  | lt => op.comparison (fun l r => decide (l < r)) left right
  | gt => op.comparison (fun l r => decide (r < l)) left right
  | le => op.comparison (fun l r => decide (l ≤ r)) left right
  | ge => op.comparison (fun l r => decide (r ≤ l)) left right
  | eq => .ok (.bool (left.looselyEqual right))
  | ne => .ok (.bool (!left.looselyEqual right))
  | and => op.connective (fun l => if l then none else some false) (· && ·) left right
  | or => op.connective (fun l => if l then some true else none) (· || ·) left right
  | xor => op.connective (fun _ => none) (· != ·) left right
  | xnor => op.connective (fun _ => none) (· == ·) left right

end Operator

end StoryWorld
