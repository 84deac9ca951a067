import StoryWorld.Condition
import StoryWorld.Text.Quoted
import StoryWorld.Tree.Reader

/-! Reading a condition from tokens, one token at a time. There is no precedence: what stands right
of an operator, up to the end or the closing parenthesis, is its right operand. -/

namespace StoryWorld

/-- Left operands that wait for their right ones, the latest first. -/
abbrev Pending := List (Expr × Operator)

/-- The expression that waiting operands make with the last one. -/
def Pending.close (waiting : Pending) (last : Expr) : Expr :=
  waiting.foldl (fun right (left, op) => .binary op left right) last

/-- How far the current operand or operator is read. `angle` says that a bare `<` or `>` stands
just before an operand. -/
inductive OperandState
  | operand
  | minus (span : Span) (angle : Bool)
  | complete (e : Expr)
  | angle (left : Expr) (strict loose : Operator)
  | half (left : Expr) (op : Operator)

/-- How far a condition is read: the operands waiting in the innermost parentheses and in those
around them, and the place within. -/
structure ConditionState where
  waiting : Pending
  outer : List Pending
  place : OperandState

/-- The operator that a word spells. -/
def Operator.ofWord? (word : String) : Option Operator :=
  [Operator.and, .or, .xor, .xnor].find? fun op => Text.sameFolded word op.symbol

/-- The operand that a word spells: digits a literal, if it is in range, and any other word a
boolean or a name. -/
def Expr.ofWord? (word : String) : Option Expr :=
  if word.toList.all Char.isDigit then (Integer.read? word).map fun n => .literal (.int n)
  else if Text.sameFolded word "true" then some (.literal (.bool true))
  else if Text.sameFolded word "false" then some (.literal (.bool false))
  else some (.name word)

namespace ConditionState

/-- What may stand where an operand starts. -/
def operandExpected (angle : Bool) : List Expectation :=
  if angle then [.equals, .operand] else [.operand]

/-- What may stand after a complete operand. -/
def operatorExpected (outer : List Pending) : List Expectation :=
  if outer.isEmpty then [.operator, .endOfInput] else [.operator, .closeParen]

/-- The error at a minus sign that no integer follows. -/
def loneMinus (span : Span) (angle : Bool) : Unexpected :=
  ⟨span, some (.punct '-'), operandExpected angle⟩

/-- The error at a literal that is out of range: it counts as no operand. -/
def outOfRange (l : Lexeme) (angle : Bool) : Unexpected :=
  ⟨l.span, if angle then some l.token else none, operandExpected angle⟩

/-- Reads a token where an operand starts. -/
def readOperand (waiting : Pending) (outer : List Pending) (angle : Bool) (l : Lexeme) :
    Except Unexpected ConditionState :=
  match l.token with
  | .word word =>
    if (Operator.ofWord? word).isSome then
      .error (.token l (operandExpected angle))
    else
      match Expr.ofWord? word with
      | some e => .ok ⟨waiting, outer, .complete e⟩
      | none => .error (outOfRange l angle)
  | .punct '-' => .ok ⟨waiting, outer, .minus l.span angle⟩
  | .punct '(' => .ok ⟨[], waiting :: outer, .operand⟩
  | _ => .error (.token l (operandExpected angle))

/-- Reads a token after a complete operand. -/
def readOperator (waiting : Pending) (outer : List Pending) (left : Expr) (l : Lexeme) :
    Except Unexpected ConditionState :=
  let whole op := .ok ⟨(left, op) :: waiting, outer, .operand⟩
  match l.token with
  | .punct '<' => .ok ⟨waiting, outer, .angle left .lt .le⟩
  | .punct '>' => .ok ⟨waiting, outer, .angle left .gt .ge⟩
  | .punct '=' => .ok ⟨waiting, outer, .half left .eq⟩
  | .punct '!' => .ok ⟨waiting, outer, .half left .ne⟩
  | .punct '+' => whole .add
  | .punct '-' => whole .sub
  | .punct '*' => whole .mul
  | .punct '/' => whole .div
  | .punct ')' =>
    match outer with
    | [] => .error (.token l (operatorExpected outer))
    | next :: outer => .ok ⟨next, outer, .complete (waiting.close left)⟩
  | .word word =>
    match Operator.ofWord? word with
    | some op => whole op
    | none => .error (.token l (operatorExpected outer))
  | _ => .error (.token l (operatorExpected outer))

/-- Reads one token. -/
def step (s : ConditionState) (l : Lexeme) : Except Unexpected ConditionState :=
  match s.place with
  | .operand => readOperand s.waiting s.outer false l
  | .minus span angle =>
    match l.token with
    | .word word =>
      match Integer.read? ("-" ++ word) with
      | some n => .ok { s with place := .complete (.literal (.int n)) }
      | none => .error (loneMinus span angle)
    | _ => .error (loneMinus span angle)
  | .complete left => readOperator s.waiting s.outer left l
  | .angle left strict loose =>
    if l.token = .equals then
      .ok ⟨(left, loose) :: s.waiting, s.outer, .operand⟩
    else
      readOperand ((left, strict) :: s.waiting) s.outer true l
  | .half left op =>
    if l.token = .equals then
      .ok ⟨(left, op) :: s.waiting, s.outer, .operand⟩
    else
      .error (.token l [.equals])

/-- Reads tokens up to the first that may not stand where it stands. -/
def run (s : ConditionState) : List Lexeme → Except Unexpected ConditionState
  | [] => .ok s
  | l :: ls =>
    match s.step l with
    | .ok s' => s'.run ls
    | .error e => .error e

/-- The expression read, if the input may end at byte `n`. -/
def finish (s : ConditionState) (n : Nat) : Except Unexpected Expr :=
  match s.place with
  | .operand => .error (.endOfInput n (operandExpected false))
  | .minus span angle => .error (loneMinus span angle)
  | .complete e =>
    if s.outer.isEmpty then
      .ok (s.waiting.close e)
    else
      .error (.endOfInput n (operatorExpected s.outer))
  | .angle .. => .error (.endOfInput n (operandExpected true))
  | .half .. => .error (.endOfInput n [.equals])

end ConditionState

/-- The expression of some tokens, in a text that ends at byte `n`. -/
def Expr.ofLexemes (ls : List Lexeme) (n : Nat) : Except Unexpected Expr :=
  match (ConditionState.mk [] [] .operand).run ls with
  | .error e => .error e
  | .ok s => s.finish n

/-- Why a text is not a condition. -/
structure ConditionError where
  condition : String
  fault : SyntaxError
  deriving DecidableEq, Repr

namespace ConditionError

/-- What is wrong with the text. -/
def reason (e : ConditionError) : String := e.fault.message

/-- Where it is wrong. -/
def span (e : ConditionError) : Span :=
  match e.fault with
  | .lex e => e.span
  | .parse e => e.span

/-- The wording of the error, with the condition quoted. -/
def message (e : ConditionError) : String :=
  "invalid condition " ++ Text.quote e.condition ++ ": " ++ e.reason

end ConditionError

/-- The condition that a text spells. -/
def Condition.ofText (text : String) : Except ConditionError Condition :=
  match lex text with
  | .error e => .error ⟨text, .lex e⟩
  | .ok ls =>
    match Expr.ofLexemes ls text.utf8ByteSize with
    | .error e => .error ⟨text, .parse e⟩
    | .ok e => .ok ⟨text, e⟩

end StoryWorld
