/-! Handles: the places of nodes, characters and quest lines in their world. -/

namespace StoryWorld

/-- The three kinds of thing that a world is made of. -/
inductive Kind
  | node
  | character
  | quest
  deriving DecidableEq, Repr

/-- The place of a thing of kind `k` among the things of that kind, in order of first
registration. -/
structure Handle (k : Kind) where
  index : Nat
  deriving DecidableEq, Repr

end StoryWorld
