import StoryWorld.Text.Shaping

/-! Text tables: rows of cells in a frame of ASCII characters, each column as wide as its widest
line. -/

namespace StoryWorld

/-- A table: a header and rows of as many cells. -/
structure Table where
  header : List String
  rows : List (List String)

namespace Table

/-- The lines of a cell. -/
def cellLines (cell : String) : List String := cell.splitOn "\n"

/-- The width of a cell's widest line. -/
def cellWidth (cell : String) : Nat :=
  ((cellLines cell).map Text.width).foldl max 0

/-- The widths of the columns. -/
def widths (t : Table) : List Nat :=
  t.rows.foldl (fun ws row => List.zipWith max ws (row.map cellWidth)) (t.header.map cellWidth)

/-- A character several times. -/
def fill (n : Nat) (c : Char) : String := String.ofList (List.replicate n c)

/-- A line of a cell with a blank on either side, filled up to a width. -/
def pad (width : Nat) (line : String) : String :=
  " " ++ line ++ fill (width - Text.width line) ' ' ++ " "

/-- A line across the table: the given end, joints between columns, and a mark along them. -/
def rule (ends joint : String) (mark : Char) (ws : List Nat) : String :=
  ends ++ joint.intercalate (ws.map fun w => fill (w + 2) mark) ++ ends

/-- The lines of a row, as many as its tallest cell has. -/
def rowLines (ws : List Nat) (row : List String) : List String :=
  let cells := row.map cellLines
  let height := (cells.map List.length).foldl max 0
  (List.range height).map fun i =>
    "|" ++ "|".intercalate (List.zipWith (fun w lines => pad w (lines.getD i "")) ws cells) ++ "|"

/-- The lines of a table. -/
def lines (t : Table) : List String :=
  let ws := t.widths
  let border := rule "+" "+" '-' ws
  let body := t.rows.map (rowLines ws)
  [border] ++ rowLines ws t.header ++ [rule "+" "=" '=' ws] ++
    List.flatten (body.intersperse [rule "|" "+" '-' ws]) ++ [border]

/-- A table as text, without a line end after it. -/
def render (t : Table) : String := "\n".intercalate t.lines

end Table

end StoryWorld
