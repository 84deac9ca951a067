import StoryWorld.Integer
import StoryWorld.Text.Blank
import StoryWorld.Text.Letter

/-! Values of characteristics and conditions, and how written text is typed. -/

namespace StoryWorld

/-- A value: an integer, a boolean or text. -/
inductive Value
  | int (n : Integer)
  | bool (b : Bool)
  | text (s : String)
  deriving DecidableEq, Repr

namespace Value

/-- The value that written text stands for: an integer or a boolean if the trimmed text spells one,
and else the text as it stands. -/
def ofText (raw : String) : Value :=
  let trimmed := Text.trim raw
  match Integer.read? trimmed with
  | some n => .int n
  | none =>
    if Text.sameFolded trimmed "true" then .bool true
    else if Text.sameFolded trimmed "false" then .bool false
    else .text raw

/-- The text that shows a value. -/
def shown : Value → String
  | int n => n.text
  | bool true => "true"
  | bool false => "false"
  | text s => s

/-- The name of a value's type. -/
def kind : Value → String
  | int _ => "integer"
  | bool _ => "boolean"
  | text _ => "text"

/-- The text of a text value. -/
def text? : Value → Option String
  | text s => some s
  | _ => none

end Value

end StoryWorld
