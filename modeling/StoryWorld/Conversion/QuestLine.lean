import StoryWorld.Conversion
import StoryWorld.QuestLine
import StoryWorld.Text.Split

/-! Quest lines from containers: each container within is a state under its integer name, whose
first item is the details and whose later items are transitions. -/

namespace StoryWorld

/-- The target and the description that a transition item spells: what stands before the first
colon must be an integer, and what stands after it is the description. -/
def readTransition? (text : String) : Option (Integer × String) :=
  let (target, description) := (Text.splitOnce ':' text).getD (text, "")
  (Integer.read? (Text.trim target)).map fun target => (target, description)

namespace QuestNode

/-- Takes a transition item of a state of the quest line named `quest`. -/
def readItem (quest : String) (n : QuestNode) (item : String × Span) : Checked QuestNode :=
  match readTransition? item.1 with
  | none => .refuse (.invalidTransition quest n.value item.1 item.2)
  | some (target, description) => do
    let (n', w) := n.addTransition target description
    Checked.note (Notice.ofWarning? item.2 w)
    return n'

/-- The items among members, with their spans. -/
def items (members : List Member) : List (String × Span) :=
  members.filterMap fun
    | .item text span => some (text, span)
    | _ => none

/-- Notices of the members that are no items. -/
def strayMembers (quest : String) (value : Integer) (members : List Member) : List Notice :=
  members.filterMap fun
    | .item .. => none
    | m => some ⟨m.span, .insideQuestNode quest value m.kind⟩

/-- The state of the quest line named `quest` with the given value and members. -/
def ofMembers (quest : String) (value : Integer) (members : List Member) : Checked QuestNode := do
  Checked.note (strayMembers quest value members)
  match items members with
  | [] => return { value := value, details := "" }
  | (details, _) :: transitions =>
    transitions.foldlM (readItem quest) { value := value, details := details }

end QuestNode

namespace QuestLine

/-- Takes a member of a quest line's container. -/
def readMember (q : QuestLine) : Member → Checked QuestLine
  | .container name members _ nameSpan =>
    match Integer.read? (Text.trim name) with
    | none => .refuse (.invalidQuestValue q.name name nameSpan)
    | some value => do
      let node ← QuestNode.ofMembers q.name value members
      let (q', w) := q.addNode node
      Checked.note (Notice.ofWarning? nameSpan w)
      return q'
  | m => do
    Checked.note [⟨m.span, .outsideQuestNode q.name m.kind⟩]
    return q

/-- The quest line of a container. -/
def ofContainer (o : Container) : Checked QuestLine :=
  o.members.foldlM readMember { name := o.name }

end QuestLine

end StoryWorld
