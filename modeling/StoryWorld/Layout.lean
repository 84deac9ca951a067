import StoryWorld.Handle

/-! Where the sources of each kind lie in the directory of a world: in one file or, failing that,
in a directory. -/

namespace StoryWorld.Kind

/-- The file that holds all sources of a kind. -/
def fileName : Kind → String
  | node => "world.txt"
  | character => "characters.txt"
  | quest => "quests.txt"

/-- The directory that holds the sources of a kind. -/
def dirName : Kind → String
  | node => "world"
  | character => "characters"
  | quest => "quests"

/-- What the things of a kind are called in messages. -/
def label : Kind → String
  | node => "world nodes"
  | character => "characters"
  | quest => "quests"

/-- The order in which the kinds are loaded. -/
def loadOrder : List Kind := [node, character, quest]

end StoryWorld.Kind
