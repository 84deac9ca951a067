import StoryWorld.World

/-! Who is where: the characters whose rules place them in a node now. -/

namespace StoryWorld

/-- A character as it shows itself. -/
structure Visible where
  handle : Handle .character
  name : String
  description : String
  deriving DecidableEq, Repr

namespace World

/-- The evaluation of a character against this world. -/
def evaluate (w : World) (c : Character) : Except EvalError Evaluation :=
  c.evaluate w.attributes w.settings

/-- Whether a character is in the node of that name. -/
def isInNode (w : World) (c : Character) (node : String) : Bool :=
  c.isInNode node w.attributes w.settings

/-- The character at `h` as it shows itself in a node, if it is alive and there. -/
def visible? (w : World) (node : Node) (h : Handle .character) : Option Visible :=
  match w.characters.get? h with
  | none => none
  | some c =>
    if c.alive then
      match w.evaluate c with
      | .error _ => none
      | .ok e =>
        if e.node? = some node.name then
          some {
            handle := h
            name := ((e.values.get? Key.name).map (·.shown)).getD c.name
            description := ((e.values.get? Key.description).map (·.shown)).getD "" }
        else
          none
    else
      none

/-- The characters in a node, out of those linked to it. -/
def activeCharacters (w : World) (h : Handle .node) : List Visible :=
  match w.nodes.get? h with
  | none => []
  | some n => n.possible.filterMap (w.visible? n)

end World

end StoryWorld
