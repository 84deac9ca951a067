/-! Word characters and comparison of texts without regard to the case of ASCII letters. -/

namespace StoryWorld.Text

/-- An ASCII letter, an ASCII digit or an underscore. -/
def isWordChar (c : Char) : Bool := c.isAlphanum || c == '_'

/-- The text with `A` to `Z` written small; all else stays as it is. -/
def foldCase (s : String) : List Char := s.toList.map Char.toLower

/-- Whether two texts differ at most in the case of ASCII letters. -/
def sameFolded (s t : String) : Bool := foldCase s == foldCase t

end StoryWorld.Text
