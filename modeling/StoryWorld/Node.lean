import StoryWorld.Entries
import StoryWorld.Handle
import StoryWorld.Warning

/-! Nodes: the places of a world, with exits declared by name and links filled in later. -/

namespace StoryWorld

/-- A node. `adjacents` and `possible` are empty until the world is linked. -/
structure Node where
  name : String
  description : String := "NO DESC"
  exits : Entries String String := []
  adjacents : Entries String (Handle .node) := []
  possible : List (Handle .character) := []
  deriving DecidableEq, Repr

namespace Node

/-- Declares an exit. A repeated direction takes the new target and is warned of. -/
def addExit (n : Node) (direction target : String) : Node × Option WorldWarning :=
  ({ n with exits := n.exits.set direction target },
    if n.exits.has direction then some (.duplicateExit n.name direction) else none)

/-- The neighbour in a direction, once linked. -/
def adjacent? (n : Node) (direction : String) : Option (Handle .node) :=
  n.adjacents.get? direction

end Node

end StoryWorld
