import StoryWorld.Proofs.World.Visibility

/-!
# Operations on a world

All that can be done to a world, in any order. Nodes, characters and quest lines are kept alike: an
operation registers one thing of a kind (`Roster.perform_registering`) or changes each of them where
it stands (`Roster.perform_other`).
-/

namespace StoryWorld

/-- The quest line after a move of the one named `quest`. -/
def QuestLine.moved (quest : String) (move : QuestLine → Except QuestError Unit × QuestLine)
    (q : QuestLine) : QuestLine :=
  if q.name = quest then (move q).2 else q

theorem QuestLine.name_moved {move : QuestLine → Except QuestError Unit × QuestLine}
    (hmove : ∀ q, (move q).2.name = q.name) (quest : String) (q : QuestLine) :
    (q.moved quest move).name = q.name := by
  unfold moved
  split
  · exact hmove q
  · rfl

namespace World

/-- An operation on a world: something is registered, nodes are linked, the world changes, or a
character is told more about. -/
inductive Operation
  | addNode (n : Node)
  | addCharacter (c : Character)
  | addQuestLine (q : QuestLine)
  | link
  | change (c : Change)
  | addCharacteristic (h : Handle .character) (key : String) (v : Value)
  | addRule (h : Handle .character) (r : Rule)

/-- The world after an operation. -/
def perform (w : World) : Operation → World
  | .addNode n => (w.addNode n).1
  | .addCharacter c => (w.addCharacter c).1
  | .addQuestLine q => (w.addQuestLine q).1
  | .link => w.link.1
  | .change c => w.change c
  | .addCharacteristic h key v => w.modifyCharacter h fun c => (c.addCharacteristic key v).1
  | .addRule h r => w.modifyCharacter h (·.addRule r)

/-- The world that operations make. -/
def run (settings : Settings) (ops : List Operation) : World := ops.foldl perform (empty settings)

theorem run_concat (settings : Settings) (ops : List Operation) (op : Operation) :
    run settings (ops ++ [op]) = (run settings ops).perform op :=
  List.foldl_append ..

variable {w : World}

theorem Indexed.perform (hw : w.Indexed) (op : Operation) : (w.perform op).Indexed := by
  cases op with
  | addNode n => exact ⟨hw.nodes.insert n, hw.characters, hw.quests⟩
  | addCharacter c => exact ⟨hw.nodes, hw.characters.insert c, hw.quests⟩
  | addQuestLine q => exact ⟨hw.nodes, hw.characters, hw.quests.insert q⟩
  | link => exact hw.link
  | change c => exact hw.changed (changed_change w c)
  | addCharacteristic h key v => exact ⟨hw.nodes, hw.characters.modify _ fun _ _ => rfl, hw.quests⟩
  | addRule h r => exact ⟨hw.nodes, hw.characters.modify _ fun _ _ => rfl, hw.quests⟩

theorem indexed_run (settings : Settings) (ops : List Operation) : (run settings ops).Indexed :=
  List.foldlRecOn ops World.perform (indexed_empty settings) fun _ hw op _ => hw.perform op

/-- A move of a quest line by name changes that quest line alone. -/
theorem Indexed.moveQuest_eq (hw : w.Indexed) (quest : String)
    (move : QuestLine → Except QuestError Unit × QuestLine) :
    (w.moveQuest quest move).2 =
      { w with quests := w.quests.mapEntries fun _ q => q.moved quest move } := by
  rcases w.moveQuest_cases quest move with ⟨hquest, hmoved⟩ | ⟨h, q, hname, hq, hmoved⟩
  · have hkept : (w.quests.mapEntries fun _ q => q.moved quest move) = w.quests := by
      refine Registry.mapEntries_eq_self fun i q hq => if_neg ?_
      rintro rfl
      rw [Registry.find?, hw.quests.handle?_nameOf hq, Option.bind_some, hq] at hquest
      cases hquest
    rw [hmoved, hkept]
  · have hmodify : (w.quests.modify h fun _ => (move q).2) =
        w.quests.mapEntries fun _ q => q.moved quest move := by
      rw [Registry.modify_const hq fun q => (move q).2, hw.quests.modify_eq_mapEntries hname]
      rfl
    rw [hmoved, hmodify]

end World

end StoryWorld
