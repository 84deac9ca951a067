import StoryWorld.Span
import StoryWorld.SystemError

/-! Tokens of source text, and why a text has none. -/

namespace StoryWorld

/-- A run of word characters, a text between double quotes, or any other visible character. -/
inductive Token
  | word (text : String)
  | quoted (text : String)
  | punct (c : Char)
  deriving DecidableEq, Repr

namespace Token

/-- A token as it is written. -/
def shown : Token → String
  | word text => text
  | quoted text => "\"" ++ text ++ "\""
  | punct c => String.singleton c

/-- The text that a token contributes: a quoted one without its quotes. -/
def text : Token → String
  | word text => text
  | quoted text => text
  | punct c => String.singleton c

end Token

/-- A token and where it stands. -/
structure Lexeme where
  token : Token
  span : Span
  deriving DecidableEq, Repr

/-- Why reading a source stops short of its end. -/
inductive ReadError
  | notText
  | system (e : SystemError)
  deriving DecidableEq, Repr

/-- The wording of a read error. -/
def ReadError.message : ReadError → String
  | notText => "stream did not contain valid UTF-8"
  | system e => e.message

/-- Why a text cannot be cut into tokens: a quote that opens at a byte and never closes, or a
source that cannot be read on from there. -/
inductive LexError
  | unterminatedQuote (start : Nat)
  | read (offset : Nat) (cause : ReadError)
  deriving DecidableEq, Repr

namespace LexError

/-- The wording of a lexing error. -/
def message : LexError → String
  | unterminatedQuote _ => "unterminated quoted literal"
  | read _ cause => "could not read source: " ++ cause.message

/-- Where a lexing error stands: at the opening quote, or between two bytes. -/
def span : LexError → Span
  | unterminatedQuote start => ⟨start, start + 1⟩
  | read offset _ => .point offset

end LexError

end StoryWorld
