import StoryWorld.Token.Scanner
import StoryWorld.Tree
import StoryWorld.Unexpected

/-! Reading a tree from tokens, one token at a time, with a stack of open containers. The second
token of a member decides what it is: an opening brace makes a container, an equals sign an
assignment, anything else an item. -/

namespace StoryWorld

namespace Token

/-- The token that opens a container. -/
@[match_pattern] def openBrace : Token := .punct '\x7b'

/-- The token that closes a container. -/
@[match_pattern] def closeBrace : Token := .punct '\x7d'

/-- The token that ends a member. -/
@[match_pattern] def comma : Token := .punct ','

/-- The token between a key and its value. -/
@[match_pattern] def equals : Token := .punct '='

/-- The text of a token that delimits nothing. -/
def fragment? (t : Token) : Option String :=
  if t = openBrace ∨ t = closeBrace ∨ t = comma then none else some t.text

end Token

/-- A container that is not closed yet. -/
structure OpenContainer where
  name : String
  nameSpan : Span
  members : List Member

/-- The container that ends with the token at `last`. -/
def OpenContainer.close (c : OpenContainer) (last : Span) : Container :=
  ⟨c.name, c.members, c.nameSpan.through last, c.nameSpan⟩

/-- The open container with one more member. -/
def OpenContainer.add (c : OpenContainer) (m : Member) : OpenContainer :=
  { c with members := c.members ++ [m] }

/-- How far the current member of a container is read. `first` is the span of its first token. -/
inductive MemberState
  | start
  | headed (text : String) (first : Span)
  | item (text : String) (first : Span)
  | value (key text : String) (first : Span)
  | closed

/-- How far a tree is read: between objects, after the name of one, or inside containers, the
innermost first. -/
inductive TreeState
  | top (objects : List Container)
  | named (objects : List Container) (name : String) (nameSpan : Span)
  | inside (objects : List Container) (inner : OpenContainer) (outer : List OpenContainer)
      (member : MemberState)

namespace TreeState

/-- What may come next. -/
def expected : TreeState → List Expectation
  | top _ => [.text, .endOfInput]
  | named .. => [.openBrace]
  | inside _ _ _ .start => [.text, .closeBrace]
  | inside _ _ _ (.headed ..) => [.openBrace, .equals, .text, .comma]
  | inside _ _ _ (.item ..) => [.text, .comma]
  | inside _ _ _ (.value ..) => [.text, .comma]
  | inside _ _ _ .closed => [.comma]

/-- The state after the innermost container closes. -/
def close (objects : List Container) (inner : OpenContainer) (outer : List OpenContainer)
    (last : Span) : TreeState :=
  match outer with
  | [] => top (objects ++ [inner.close last])
  | next :: outer => inside objects (next.add (.ofContainer (inner.close last))) outer .closed

/-- The state after one token, if the token may come next. -/
def step? (l : Lexeme) : TreeState → Option TreeState
  | top objects => l.token.fragment?.map fun text => named objects text l.span
  | named objects name nameSpan =>
    match l.token with
    | .openBrace => some (inside objects ⟨name, nameSpan, []⟩ [] .start)
    | _ => none
  | inside objects inner outer .start =>
    match l.token with
    | .closeBrace => some (close objects inner outer l.span)
    | token => token.fragment?.map fun text => inside objects inner outer (.headed text l.span)
  | inside objects inner outer (.headed text first) =>
    match l.token with
    | .openBrace => some (inside objects ⟨text, first, []⟩ (inner :: outer) .start)
    | .equals => some (inside objects inner outer (.value text "" first))
    | .comma => some (inside objects (inner.add (.item text (first.through l.span))) outer .start)
    | token =>
      token.fragment?.map fun more => inside objects inner outer (.item (text ++ more) first)
  | inside objects inner outer (.item text first) =>
    match l.token with
    | .comma => some (inside objects (inner.add (.item text (first.through l.span))) outer .start)
    | token =>
      token.fragment?.map fun more => inside objects inner outer (.item (text ++ more) first)
  | inside objects inner outer (.value key text first) =>
    match l.token with
    | .comma =>
      some (inside objects (inner.add (.assignment key text (first.through l.span))) outer .start)
    | token =>
      token.fragment?.map fun more => inside objects inner outer (.value key (text ++ more) first)
  | inside objects inner outer .closed =>
    match l.token with
    | .comma => some (inside objects inner outer .start)
    | _ => none

/-- The state after tokens, or the first one that may not stand where it stands. -/
def run (s : TreeState) : List Lexeme → Except Unexpected TreeState
  | [] => .ok s
  | l :: ls =>
    match s.step? l with
    | some s' => s'.run ls
    | none => .error (.token l s.expected)

/-- The tree read, if the input may end at byte `n`. -/
def finish (n : Nat) : TreeState → Except Unexpected SourceTree
  | top objects => .ok ⟨objects⟩
  | s => .error (.endOfInput n s.expected)

end TreeState

/-- Why a text is not a tree. -/
inductive SyntaxError
  | lex (e : LexError)
  | parse (e : Unexpected)
  deriving DecidableEq, Repr

/-- The wording of a syntax error. -/
def SyntaxError.message : SyntaxError → String
  | lex e => e.message
  | parse e => e.message

namespace SourceTree

/-- The tree of some tokens. -/
def ofLexemes (ls : List Lexeme) : Except Unexpected SourceTree :=
  match (TreeState.top []).run ls with
  | .error e => .error e
  | .ok s => s.finish ((ls.getLast?.map (·.span.stop)).getD 0)

/-- The tree of a text that is cut into tokens. -/
def ofLexing (l : Lexing) : Except SyntaxError SourceTree :=
  match l.result with
  | .error e => .error (.lex e)
  | .ok ls =>
    match ofLexemes ls with
    | .error e => .error (.parse e)
    | .ok t => .ok t

/-- The tree of a text. -/
def ofText (text : String) : Except SyntaxError SourceTree := ofLexing (.ofText text)

end SourceTree

end StoryWorld
