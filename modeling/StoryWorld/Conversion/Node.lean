import StoryWorld.Conversion
import StoryWorld.Node

/-! Nodes from containers: items are descriptions, of which the last one counts, and a container of
exits holds assignments of targets to directions. -/

namespace StoryWorld.Node

/-- Takes a member of the container of exits. -/
def readExit (n : Node) : Member → Node × List Notice
  | .assignment direction target span =>
    let (n', w) := n.addExit direction target
    (n', Notice.ofWarning? span w)
  | m => (n, [⟨m.span, .unexpectedInExits n.name m.kind⟩])

/-- Takes a member of a node's container. -/
def readMember (n : Node) : Member → Node × List Notice
  | .item text _ => ({ n with description := text }, [])
  | .container name members _ nameSpan =>
    if Text.sameFolded name exitsName then
      gather readExit n members
    else
      (n, [⟨nameSpan, .unknownAttribute n.name name⟩])
  | .assignment key _ span => (n, [⟨span, .unexpectedAssignment n.name key⟩])

/-- The node of a container, and what was passed over. -/
def ofContainer (c : Container) : Node × List Notice :=
  gather readMember { name := c.name } c.members

end StoryWorld.Node
