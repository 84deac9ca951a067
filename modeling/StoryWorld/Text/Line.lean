/-! Lines of a text: what stands between newlines, and the longer list of line ends that a
printed excerpt breaks at. -/

namespace StoryWorld.Text

/-- The lines of a text; a newline at the end starts no further line. -/
def lines (s : String) : List String :=
  match (s.splitOn "\n").reverse with
  | "" :: rest => rest.reverse
  | all => all.reverse

/-- A line end in an excerpt: newline, vertical tab, form feed, carriage return, next line, line
separator or paragraph separator. -/
def isLineEnd (c : Char) : Bool :=
  let n := c.toNat
  (0x0A ≤ n && n ≤ 0x0D) || n == 0x85 || n == 0x2028 || n == 0x2029

/-- The lines of an excerpt with their line ends; a carriage return and a newline after it end one
line together. -/
def excerptLines : List Char → List (List Char)
  | [] => []
  | '\r' :: '\n' :: cs => ['\r', '\n'] :: excerptLines cs
  | c :: cs =>
    if isLineEnd c then
      [c] :: excerptLines cs
    else
      match excerptLines cs with
      | [] => [[c]]
      | line :: rest => (c :: line) :: rest

end StoryWorld.Text
