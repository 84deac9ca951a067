import StoryWorld.Character
import StoryWorld.Clock
import StoryWorld.Node
import StoryWorld.QuestLine
import StoryWorld.Registry

/-! Worlds: nodes, characters and quest lines by name and handle, with one clock. -/

namespace StoryWorld

/-- A world. -/
structure World where
  settings : Settings
  clock : Clock
  nodes : Registry .node Node := {}
  characters : Registry .character Character := {}
  quests : Registry .quest QuestLine := {}

namespace World

/-- An empty world, its clock at the start hour. -/
def empty (settings : Settings) : World where
  settings := settings
  clock := ⟨settings.startHour⟩

/-! ## Registration -/

/-- Registers a node. A node of the same name is replaced, keeps its handle and is warned of. -/
def addNode (w : World) (n : Node) : World × Handle .node × Option WorldWarning :=
  let (nodes, h, new) := w.nodes.insert n.name n
  ({ w with nodes := nodes }, h, if new then none else some (.duplicateNode n.name))

/-- Registers a character, as `addNode` does a node. -/
def addCharacter (w : World) (c : Character) :
    World × Handle .character × Option WorldWarning :=
  let (characters, h, new) := w.characters.insert c.name c
  ({ w with characters := characters }, h,
    if new then none else some (.duplicateCharacter c.name))

/-- Registers a quest line, as `addNode` does a node. -/
def addQuestLine (w : World) (q : QuestLine) : World × Handle .quest × Option WorldWarning :=
  let (quests, h, new) := w.quests.insert q.name q
  ({ w with quests := quests }, h, if new then none else some (.duplicateQuest q.name))

/-! ## Time and attributes -/

/-- Moves the clock, and tells the hour then. -/
def addHour (w : World) (delta : Integer) : World × Integer :=
  let (clock, hour) := w.clock.advance delta
  ({ w with clock := clock }, hour)

/-- The value of a world attribute: the names of the clock come before those of quest lines, which
have a value once they have a state. -/
def attributes (w : World) : Attributes := fun name =>
  if name = "hour" then some (.int w.clock.hourOfDay)
  else if name = "day" then some (.int w.clock.day)
  else if name = "weekday" then some (.int w.clock.weekday)
  else ((w.quests.find? name).bind (·.current)).map .int

/-! ## Changes to single things -/

/-- Moves a quest line by name, where it stands. -/
def moveQuest (w : World) (quest : String)
    (move : QuestLine → Except QuestError Unit × QuestLine) : Except QuestError Unit × World :=
  match w.quests.handle? quest with
  | none => (.error (.unknownQuest quest), w)
  | some h =>
    match w.quests.get? h with
    | none => (.error (.unknownQuest quest), w)
    | some q =>
      let (answer, moved) := move q
      (answer, { w with quests := w.quests.modify h fun _ => moved })

/-- Moves a quest line along a declared transition of its current state. -/
def progressQuest (w : World) (quest : String) (value : Integer) :
    Except QuestError Unit × World :=
  w.moveQuest quest (·.progress value)

/-- Moves a quest line to a state, whatever its transitions say. -/
def forceQuest (w : World) (quest : String) (value : Integer) : Except QuestError Unit × World :=
  w.moveQuest quest (·.force value)

/-- Takes steps of quest lines in order, up to the first that is refused. -/
def takeSteps (w : World) : List (String × Integer) → Except QuestError Unit × World
  | [] => (.ok (), w)
  | (quest, value) :: steps =>
    match w.progressQuest quest value with
    | (.ok (), w') => w'.takeSteps steps
    | refused => refused

/-- Changes the quest line at a handle. -/
def modifyQuest (w : World) (h : Handle .quest) (f : QuestLine → QuestLine) : World :=
  { w with quests := w.quests.modify h f }

/-- Changes the character at a handle. -/
def modifyCharacter (w : World) (h : Handle .character) (f : Character → Character) : World :=
  { w with characters := w.characters.modify h f }

/-- Kills a character, if there is one at the handle, and says whether there is. -/
def kill (w : World) (h : Handle .character) : World × Bool :=
  (w.modifyCharacter h .kill, (w.characters.get? h).isSome)

/-! ## Quest statuses -/

/-- The status of every quest line, in order of their names. -/
def questStatuses (w : World) : List QuestStatus :=
  (w.quests.items.map (·.status)).mergeSort fun a b => decide (a.name ≤ b.name)

end World

end StoryWorld
