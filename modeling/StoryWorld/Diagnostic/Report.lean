import StoryWorld.Diagnostic
import StoryWorld.Text.Blank
import StoryWorld.Text.Line
import StoryWorld.Text.Terminal
import StoryWorld.Text.Width.Unicode15

/-! Reports: diagnostics in colour, each with the line of its source that it points at. The numbers
of a span count as character indices here. -/

namespace StoryWorld

namespace Report

open Text (paint)

/-- The colour of frames and line numbers. -/
def frameColour : String := "38;5;246"

/-- The colour of the gutter beside marks. -/
def gutterColour : String := "38;5;240"

/-- The colour of source text outside the span. -/
def plainColour : String := "38;5;249"

/-- The colour of a severity. -/
def colour : Severity → String
  | .error => "31"
  | .warning => "33"

/-- The title of a severity. -/
def title : Severity → String
  | .error => "Error:"
  | .warning => "Warning:"

/-- The same text several times. -/
def times (n : Nat) (s : String) : String := String.join (List.replicate n s)

/-- A line of a source: its number from 1, the column in it that was looked for, and its text with
its line end. -/
structure Place where
  line : Nat
  column : Nat
  text : List Char

/-- The line with the character at `index`, if the first of these lines is number `line`. The index
after the last character lies on the last line. -/
def locate? (line index : Nat) : List (List Char) → Option Place
  | [] => if index = 0 then some ⟨line, 0, []⟩ else none
  | [text] => if index ≤ text.length then some ⟨line, index, text⟩ else none
  | text :: next :: rest =>
    if index < text.length then
      some ⟨line, index, text⟩
    else
      locate? (line + 1) (index - text.length) (next :: rest)

/-- How far apart tab stops are. -/
def tabStop : Nat := 4

/-- How a character shows in a column of its line, and how wide by Unicode 15.1: blanks show as
spaces, and a tab reaches to the next stop. -/
def shown (column : Nat) (c : Char) : Char × Nat :=
  if c = '\t' then (' ', tabStop - column % tabStop)
  else if Text.isBlank c then (' ', 1)
  else (c, Text.unicode15.columns c)

/-- A line, with the columns from `first` up to `last` in a colour of their own. -/
def paintLine (code : String) (first last : Nat) (text : List Char) : String :=
  String.join (text.zipIdx.map fun (c, column) =>
    let inside := first ≤ column && column < last
    let (c, width) := shown column c
    times (if c = ' ' then width else 1)
      (paint (if inside then code else plainColour) (String.singleton c)))

/-- How wide the columns of a line are. Those past its end count as one. -/
def widthAt (text : List Char) (column : Nat) : Nat :=
  match text[column]? with
  | some c => (shown column c).2
  | none => 1

/-- A row below a line: in each of `count` columns a mark, and a filling where the column is
wider. -/
def row (text : List Char) (count : Nat) (mark : Nat → String × String) : String :=
  String.join ((List.range count).map fun column =>
    match widthAt text column with
    | 0 => ""
    | more + 1 => (mark column).1 ++ times more (mark column).2)

/-- The marks below the columns from `first` up to `last`, with the start of an arrow at
`middle`. -/
def underline (code : String) (first last middle column : Nat) : String × String :=
  let dash := paint code "─"
  if column = middle then
    if first = last then (paint code "│", paint code " ") else (paint code "┬", dash)
  else if first ≤ column ∧ column < last then (dash, dash)
  else (" ", " ")

/-- The arrow from the column `middle` on. -/
def arrow (code : String) (middle column : Nat) : String × String :=
  let dash := paint code "─"
  if column < middle then (" ", " ")
  else if column = middle then (paint code "╰", dash)
  else (dash, dash)

/-- The lines that point at `width` characters from a place on. What reaches past the end of the
line is not shown. -/
def excerpt (d : Diagnostic) (file : String) (place : Place) (width : Nat) : List String :=
  let code := colour d.severity
  let number := place.line.repr
  let text := Text.trimEndChars place.text
  let first := place.column
  let last := place.column + width
  let middle := (first + last) / 2
  let margin := times (number.length + 2) " "
  let gutter := " " ++ paint gutterColour (times number.length " " ++ " │") ++ " "
  let pointed :=
    if place.text.length < last then [gutter]
    else
      [ " " ++ paint frameColour (number ++ " │") ++ " " ++ paintLine code first last text,
        gutter ++ row text (last + 2) (underline code first last middle),
        gutter ++ row text (last + 2) (arrow code middle) ++ " " ++ d.label.getD d.message ]
  [ margin ++ paint frameColour "╭" ++ paint frameColour "─" ++ paint frameColour "[" ++ " " ++
      file ++ ":" ++ number ++ ":" ++ (first + 1).repr ++ " " ++ paint frameColour "]",
    margin ++ paint frameColour "│" ] ++
  pointed ++
  [ paint frameColour (times (number.length + 2) "─" ++ "╯") ]

/-- The place in a source that a span points at, if the span starts within the source and its last
character, too, is not beyond the source's end. -/
def place? (source : String) (span : Span) : Option Place :=
  if span.start < span.stop ∧ source.length < span.stop - 1 then none
  else locate? 1 span.start (Text.excerptLines source.toList)

/-- The lines of a report on a source. -/
def located (d : Diagnostic) (file : String) (span : Span) (source : String) : List String :=
  (paint (colour d.severity) (title d.severity) ++ " " ++ d.message) ::
    match place? source span with
    | none => []
    | some place => excerpt d file place (span.stop - span.start)

/-- The lines of a diagnostic: a report where its source is known, and else one line. -/
def linesOf (sources : Sources) (d : Diagnostic) : List String :=
  match d.file, d.span with
  | some file, some span =>
    match sources.get? file with
    | some source => located d file span source
    | none => [d.line]
  | _, _ => [d.line]

/-- All diagnostics, in order. -/
def render (sources : Sources) (ds : List Diagnostic) : String :=
  String.join ((ds.flatMap (linesOf sources)).map (· ++ "\n"))

end Report

end StoryWorld
