import StoryWorld.Text.Letter

/-! The three keys that have a meaning of their own, and the one spelling each is kept under. -/

namespace StoryWorld.Key

/-- The key of the node that a character is in. -/
def node : String := "NODE"

/-- The key of the name that a character is shown by. -/
def name : String := "NAME"

/-- The key of a character's description. -/
def description : String := "DESC"

/-- The spelling that a key is kept under: a key with a meaning is kept in capitals, any other as
it is written. -/
def canonical (key : String) : String :=
  if Text.sameFolded key node then node
  else if Text.sameFolded key name then name
  else if Text.sameFolded key description then description
  else key

end StoryWorld.Key
