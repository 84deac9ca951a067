import StoryWorld.Text.Blank
import StoryWorld.Text.Letter
import StoryWorld.Token

/-! Cutting a text into tokens, one character at a time. Blanks and comments, which run from a hash
to the next newline, lie between tokens. -/

namespace StoryWorld

/-- What the characters read last belong to. A word and a quote carry where they start and what
they hold so far. -/
inductive Mode
  | between
  | comment
  | word (start : Nat) (text : String)
  | quoted (start : Nat) (text : String)
  deriving DecidableEq, Repr

namespace Mode

/-- Reads a character at byte `o` that belongs to no token yet. -/
def enter (o : Nat) (c : Char) : Mode × List Lexeme :=
  if Text.isBlank c then (between, [])
  else if c = '#' then (comment, [])
  else if c = '"' then (quoted o "", [])
  else if Text.isWordChar c then (word o (String.singleton c), [])
  else (between, [⟨.punct c, ⟨o, o + c.utf8Size⟩⟩])

/-- Reads a character at byte `o`, and gives the tokens that it completes. -/
def step (o : Nat) (c : Char) : Mode → Mode × List Lexeme
  | between => enter o c
  | comment => if c = '\n' then (between, []) else (comment, [])
  | word start text =>
    if Text.isWordChar c then
      (word start (text.push c), [])
    else
      let (m, ls) := enter o c
      (m, ⟨.word text, ⟨start, o⟩⟩ :: ls)
  | quoted start text =>
    if c = '"' then
      (between, [⟨.quoted text, ⟨start, o + 1⟩⟩])
    else
      (quoted start (text.push c), [])

/-- Ends a line at byte `o`. Only an open quote reaches into the next one. -/
def endLine (o : Nat) : Mode → Mode × List Lexeme
  | between => (between, [])
  | comment => (between, [])
  | word start text => (between, [⟨.word text, ⟨start, o⟩⟩])
  | quoted start text => (quoted start text, [])

/-- What is wrong if the text ends here. -/
def failure? : Mode → Option LexError
  | quoted start _ => some (.unterminatedQuote start)
  | _ => none

/-- Reads characters from byte `o` on. -/
def scan (m : Mode) (o : Nat) : List Char → Mode × List Lexeme
  | [] => (m, [])
  | c :: cs =>
    let (m₁, ls₁) := m.step o c
    let (m₂, ls₂) := scan m₁ (o + c.utf8Size) cs
    (m₂, ls₁ ++ ls₂)

/-- Reads a whole line that starts at byte `o`. -/
def scanLine (m : Mode) (o : Nat) (line : String) : Mode × List Lexeme :=
  let (m₁, ls₁) := m.scan o line.toList
  let (m₂, ls₂) := m₁.endLine (o + line.utf8ByteSize)
  (m₂, ls₁ ++ ls₂)

/-- How many bytes some characters take. -/
def byteLength : List Char → Nat
  | [] => 0
  | c :: cs => c.utf8Size + byteLength cs

theorem scan_append (m : Mode) (o : Nat) (cs ds : List Char) :
    m.scan o (cs ++ ds) =
      let (m₁, ls₁) := m.scan o cs
      let (m₂, ls₂) := m₁.scan (o + byteLength cs) ds
      (m₂, ls₁ ++ ls₂) := by
  induction cs generalizing m o with
  | nil => simp [scan, byteLength]
  | cons c cs ih => simp [scan, byteLength, ih, Nat.add_assoc]

end Mode

/-- The tokens of a text up to its end or its first error. -/
structure Lexing where
  lexemes : List Lexeme
  error : Option LexError
  deriving DecidableEq, Repr

namespace Lexing

/-- Cuts a text into tokens. -/
def ofText (text : String) : Lexing :=
  let (m, ls) := Mode.between.scanLine 0 text
  ⟨ls, m.failure?⟩

/-- All tokens, if there is no error. -/
def result (l : Lexing) : Except LexError (List Lexeme) :=
  match l.error with
  | none => .ok l.lexemes
  | some e => .error e

end Lexing

/-- The tokens of a text. -/
def lex (text : String) : Except LexError (List Lexeme) := (Lexing.ofText text).result

end StoryWorld
