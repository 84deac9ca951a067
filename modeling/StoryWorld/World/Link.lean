import StoryWorld.World

/-! Linking: names of nodes in exits and rules become handles. -/

namespace StoryWorld

namespace World

/-- The exits of a node that lead to a registered node. -/
def resolvedExits (w : World) (n : Node) : Entries String (Handle .node) :=
  n.exits.filterMap fun (direction, target) =>
    (w.nodes.handle? target).map fun h => (direction, h)

/-- The characters that declare a node which resolves to `h`. -/
def candidatesAt (w : World) (h : Handle .node) : List (Handle .character) :=
  (w.characters.entries.filter fun (_, c) =>
    c.candidates.any fun name => w.nodes.handle? name == some h).map (·.1)

/-- A warning for each exit that leads to no registered node. -/
def unresolvedExits (w : World) : List WorldWarning :=
  w.nodes.items.flatMap fun n =>
    n.exits.filterMap fun (direction, target) =>
      if (w.nodes.handle? target).isNone then
        some (.unresolvedExit n.name direction target)
      else
        none

/-- A warning for each declared node of a character that is not registered. -/
def unresolvedCandidates (w : World) : List WorldWarning :=
  w.characters.items.flatMap fun c =>
    c.candidates.filterMap fun name =>
      if (w.nodes.handle? name).isNone then
        some (.unresolvedCharacterNode c.name name)
      else
        none

/-- Links a world: the links of every node are made anew, and what does not resolve is warned of,
exits before characters. -/
def link (w : World) : World × List WorldWarning :=
  ({ w with
      nodes := w.nodes.mapEntries fun h n =>
        { n with adjacents := w.resolvedExits n, possible := w.candidatesAt h } },
    w.unresolvedExits ++ w.unresolvedCandidates)

end World

end StoryWorld
