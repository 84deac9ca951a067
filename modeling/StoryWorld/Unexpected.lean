import StoryWorld.Token

/-! Readers of tokens stop at the first token that cannot stand where it stands, and say what
could. -/

namespace StoryWorld

/-- What may stand at a place. -/
inductive Expectation
  | text
  | endOfInput
  | openBrace
  | closeBrace
  | closeParen
  | equals
  | comma
  | operand
  | operator
  deriving DecidableEq, Repr

/-- How an expectation is worded. -/
def Expectation.shown : Expectation → String
  | text => "text"
  | endOfInput => "end of input"
  | openBrace => "'\x7b'"
  | closeBrace => "'\x7d'"
  | closeParen => "')'"
  | equals => "'='"
  | comma => "','"
  | operand => "operand"
  | operator => "operator"

/-- Alternatives in a row, with `or` before the last of several. -/
def listAlternatives : List String → String
  | [] => "nothing"
  | [a] => a
  | a :: rest => a ++ go rest
where
  /-- The alternatives after the first. -/
  go : List String → String
    | [] => ""
    | [z] => ", or " ++ z
    | b :: rest => ", " ++ b ++ go rest

/-- The first token that cannot stand where it stands, or the end of the input if `found` is
none. -/
structure Unexpected where
  span : Span
  found : Option Token
  expected : List Expectation
  deriving DecidableEq, Repr

namespace Unexpected

/-- A token in the wrong place. -/
def token (l : Lexeme) (expected : List Expectation) : Unexpected :=
  ⟨l.span, some l.token, expected⟩

/-- The end of the input at byte `n` in the wrong place. -/
def endOfInput (n : Nat) (expected : List Expectation) : Unexpected :=
  ⟨.point n, none, expected⟩

/-- The wording of the error. -/
def message (e : Unexpected) : String :=
  let found := match e.found with
    | some t => "'" ++ t.shown ++ "'"
    | none => "end of input"
  "found " ++ found ++ " expected " ++ listAlternatives (e.expected.map (·.shown))

end Unexpected

end StoryWorld
