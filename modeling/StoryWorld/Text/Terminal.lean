/-! Text for a terminal: colours, and what is left of a text without control sequences. -/

namespace StoryWorld.Text

/-- Text in a terminal colour. -/
def paint (code : String) (s : String) : String :=
  "\x1b[" ++ code ++ "m" ++ s ++ "\x1b[0m"

/-- What a terminal is in the middle of. -/
inductive Sequence
  /-- Plain text. -/
  | outside
  /-- What follows an escape. -/
  | escape
  /-- An escape sequence that waits for its last character. -/
  | escapeRest
  /-- A control sequence. -/
  | control
  /-- The start of a device control string, before and in its parameters and after them. -/
  | deviceStart | deviceParameters | deviceRest
  /-- A string for a device, which a string terminator ends. -/
  | string
  /-- A string for the system, which a bell ends. -/
  | command
  deriving DecidableEq, Repr

namespace Sequence

/-- Whether a character counts as blank although it is a control. -/
def isBlankControl (c : Char) : Bool := c = '\t' || c = '\n' || c = '\x0c' || c = '\r'

/-- Whether a character is a control of one byte. -/
def isControl (c : Char) : Bool := c.toNat < 0x20 || c = '\x7f'

/-- Whether the bytes of a character have a string terminator among them. -/
def holdsTerminator (c : Char) : Bool := (String.utf8EncodeChar c).contains 0x9C

/-- What a character leads to. An escape starts anew and a cancel or substitute ends everything;
other controls change nothing, except the bell that ends a string for the system. -/
def next (s : Sequence) (c : Char) : Sequence :=
  if c = '\x1b' then .escape
  else if c = '\x18' || c = '\x1a' then .outside
  else if isControl c then
    if s = .command && c = '\x07' then .outside else s
  else if '\x7f' < c then
    if s = .string && holdsTerminator c then .outside else s
  else
    match s with
    | .outside => .outside
    | .escape =>
      if c < '0' then .escapeRest
      else
        match c with
        | '[' => .control
        | ']' => .command
        | 'P' => .deviceStart
        | 'X' | '^' | '_' => .string
        | _ => .outside
    | .escapeRest => if c < '0' then .escapeRest else .outside
    | .control => if c < '@' then .control else .outside
    | .deviceStart =>
      if c < '0' then .deviceRest else if c < '@' then .deviceParameters else .string
    | .deviceParameters =>
      if c < '0' then .deviceRest else if c < '<' then .deviceParameters else .string
    | .deviceRest => if c < '0' then .deviceRest else .string
    | .string => .string
    | .command => .command

/-- Whether a character shows. Inside a sequence only blank controls do, and in a string nothing. -/
def shows (s : Sequence) (c : Char) : Bool :=
  match s with
  | .outside => isBlankControl c || !isControl c
  | .escape | .escapeRest | .control => isBlankControl c
  | _ => false

end Sequence

/-- The characters that show from inside a sequence on. What shows is taken together with all that
would show outside of sequences after it (`running`), and only then does the sequence go on, unless
a character of more than one byte has ended it. -/
def shownFrom (s : Sequence) (running : Bool) : List Char → List Char
  | [] => []
  | c :: cs =>
    if running && Sequence.outside.shows c then
      c :: shownFrom (if '\x7f' < c then .outside else s) true cs
    else
      let rest := shownFrom (s.next c) (!running && s.shows c) cs
      if !running && s.shows c then c :: rest else rest

/-- What is left of a text without control sequences and controls. -/
def plain (s : String) : String := String.ofList (shownFrom .outside false s.toList)

end StoryWorld.Text
