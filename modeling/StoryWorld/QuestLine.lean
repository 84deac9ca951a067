import StoryWorld.Entries
import StoryWorld.Warning

/-! Quest lines: machines whose states are integers and whose moves are declared transitions. -/

namespace StoryWorld

/-- A state of a quest line. -/
structure QuestNode where
  value : Integer
  details : String
  transitions : Entries Integer String := []
  deriving DecidableEq, Repr

namespace QuestNode

/-- Declares a transition. A repeated target takes the new description and is warned of. -/
def addTransition (n : QuestNode) (target : Integer) (description : String) :
    QuestNode × Option WorldWarning :=
  ({ n with transitions := n.transitions.set target description },
    if n.transitions.has target then some (.duplicateTransition n.value target) else none)

/-- Whether `target` is a declared transition. -/
def allows (n : QuestNode) (target : Integer) : Bool := n.transitions.has target

/-- The transitions as they are shown. -/
def transitionLabels (n : QuestNode) : List String :=
  n.transitions.map fun (target, description) => target.text ++ ": " ++ description

end QuestNode

/-- A quest line. Its first state becomes the current one. -/
structure QuestLine where
  name : String
  nodes : Entries Integer QuestNode := []
  current : Option Integer := none
  deriving DecidableEq, Repr

/-- Why a quest line does not move. -/
inductive QuestError
  | invalidTransition (quest : String) (source target : Integer)
  | unknownValue (quest : String) (value : Integer)
  | noNodes (quest : String)
  | unknownQuest (quest : String)
  deriving DecidableEq, Repr

/-- The wording of a quest error. -/
def QuestError.message : QuestError → String
  | invalidTransition quest source target =>
    "quest \"" ++ quest ++ "\": " ++ target.text ++ " is not a valid transition from " ++
      source.text
  | unknownValue quest value => "quest \"" ++ quest ++ "\": no node with value " ++ value.text
  | noNodes quest => "quest \"" ++ quest ++ "\" has no nodes"
  | unknownQuest quest => "no quest \"" ++ quest ++ "\""

namespace QuestLine

/-- Adds a state. A state with the same value is replaced and warned of. -/
def addNode (q : QuestLine) (n : QuestNode) : QuestLine × Option WorldWarning :=
  ({ q with nodes := q.nodes.set n.value n, current := q.current.or (some n.value) },
    if q.nodes.has n.value then some (.duplicateQuestNode q.name n.value) else none)

/-- The state with a value. -/
def node? (q : QuestLine) (value : Integer) : Option QuestNode := q.nodes.get? value

/-- The current state. -/
def currentNode? (q : QuestLine) : Option QuestNode := q.current.bind q.node?

/-- Moves to a state, whatever the transitions say. A refused move leaves the quest line as it
is. -/
def force (q : QuestLine) (value : Integer) : Except QuestError Unit × QuestLine :=
  if q.nodes.has value then
    (.ok (), { q with current := some value })
  else
    (.error (.unknownValue q.name value), q)

/-- Moves to a state along a declared transition of the current one, and else stays. -/
def progress (q : QuestLine) (value : Integer) : Except QuestError Unit × QuestLine :=
  match q.currentNode? with
  | none => (.error (.noNodes q.name), q)
  | some n =>
    if n.allows value then
      q.force value
    else
      (.error (.invalidTransition q.name n.value value), q)

end QuestLine

/-- What is shown of a quest line: its current value, the details and the ways on. -/
structure QuestStatus where
  name : String
  value : Option Integer
  details : String
  transitions : List String
  deriving DecidableEq, Repr

/-- The status of a quest line. Without a current state there are neither details nor ways on. -/
def QuestLine.status (q : QuestLine) : QuestStatus where
  name := q.name
  value := q.current
  details := (q.currentNode?.map (·.details)).getD ""
  transitions := (q.currentNode?.map (·.transitionLabels)).getD []

end StoryWorld
