import StoryWorld.Proofs.Rule.Candidates
import StoryWorld.Proofs.World.Registry
import StoryWorld.World

/-!
# Worlds as they are made and as they change

Things are registered in an empty world; later the clock moves, quest lines move and characters
die. Whatever happens, handles and names belong together.
-/

namespace StoryWorld

theorem QuestLine.name_force (q : QuestLine) (value : Integer) :
    (q.force value).2.name = q.name := by
  unfold force
  split <;> rfl

theorem QuestLine.name_progress (q : QuestLine) (value : Integer) :
    (q.progress value).2.name = q.name := by
  unfold progress
  split
  · rfl
  · split
    · exact q.name_force value
    · rfl

namespace World

/-- Something to register. -/
inductive Registration
  | node (n : Node)
  | character (c : Character) (built : c.Built)
  | quest (q : QuestLine)

/-- What happens to a world once it is linked. -/
inductive Change
  | hours (delta : Integer)
  | progress (quest : String) (value : Integer)
  | force (quest : String) (value : Integer)
  | kill (h : Handle .character)

/-- The world with one more registration. -/
def add (w : World) : Registration → World
  | .node n => (w.addNode n).1
  | .character c _ => (w.addCharacter c).1
  | .quest q => (w.addQuestLine q).1

/-- The world after a change. -/
def change (w : World) : Change → World
  | .hours delta => (w.addHour delta).1
  | .progress quest value => (w.progressQuest quest value).2
  | .force quest value => (w.forceQuest quest value).2
  | .kill h => (w.kill h).1

/-- The world that registrations make. -/
def registered (settings : Settings) (rs : List Registration) : World :=
  rs.foldl add (empty settings)

/-- The world after changes, in order. -/
def after (w : World) (cs : List Change) : World := cs.foldl change w

/-! ## What a change does -/

/-- The parts of a world that a change may touch. -/
inductive Changed (w : World) : World → Prop
  | clock (clock : Clock) : Changed w { w with clock := clock }
  | quest (h : Handle .quest) (q q' : QuestLine) (hq : w.quests.get? h = some q)
    (hname : q'.name = q.name) : Changed w { w with quests := w.quests.modify h fun _ => q' }
  | nothing : Changed w w
  | kill (h : Handle .character) : Changed w (w.kill h).1

theorem moveQuest_of_none {w : World} {quest : String} (hquest : w.quests.find? quest = none)
    (move : QuestLine → Except QuestError Unit × QuestLine) :
    w.moveQuest quest move = (.error (.unknownQuest quest), w) := by
  rw [Registry.find?, Option.bind_eq_none_iff] at hquest
  unfold moveQuest
  rcases hname : w.quests.handle? quest with _ | h
  · rfl
  · simp only [hquest h hname]

theorem moveQuest_of_get? {w : World} {quest : String} {h : Handle .quest} {q : QuestLine}
    (hname : w.quests.handle? quest = some h) (hq : w.quests.get? h = some q)
    (move : QuestLine → Except QuestError Unit × QuestLine) :
    w.moveQuest quest move =
      ((move q).1, { w with quests := w.quests.modify h fun _ => (move q).2 }) := by
  simp only [moveQuest, hname, hq]

/-- A name moves the quest line at its handle, and nothing if it has none. -/
theorem moveQuest_cases (w : World) (quest : String)
    (move : QuestLine → Except QuestError Unit × QuestLine) :
    (w.quests.find? quest = none ∧ w.moveQuest quest move = (.error (.unknownQuest quest), w)) ∨
    (∃ h q, w.quests.handle? quest = some h ∧ w.quests.get? h = some q ∧
      w.moveQuest quest move =
        ((move q).1, { w with quests := w.quests.modify h fun _ => (move q).2 })) := by
  rcases hquest : w.quests.find? quest with _ | q
  · exact .inl ⟨rfl, moveQuest_of_none hquest move⟩
  · obtain ⟨h, hname, hq⟩ := Option.bind_eq_some_iff.1 hquest
    exact .inr ⟨h, q, hname, hq, moveQuest_of_get? hname hq move⟩

theorem changed_moveQuest {move : QuestLine → Except QuestError Unit × QuestLine}
    (hmove : ∀ q, (move q).2.name = q.name) (w : World) (quest : String) :
    Changed w (w.moveQuest quest move).2 := by
  rcases w.moveQuest_cases quest move with ⟨-, hmoved⟩ | ⟨h, q, -, hq, hmoved⟩
  · rw [hmoved]
    exact .nothing
  · rw [hmoved]
    exact .quest h q _ hq (hmove q)

theorem changed_change (w : World) (c : Change) : Changed w (w.change c) := by
  cases c with
  | hours delta => exact .clock _
  | progress quest value =>
    exact changed_moveQuest (fun q => q.name_progress value) w quest
  | force quest value => exact changed_moveQuest (fun q => q.name_force value) w quest
  | kill h => exact .kill h

/-! ## Names and handles -/

/-- The name of each thing has the thing's handle, and no other name has one. -/
structure Indexed (w : World) : Prop where
  nodes : w.nodes.Agrees (·.name)
  characters : w.characters.Agrees (·.name)
  quests : w.quests.Agrees (·.name)

theorem indexed_empty (settings : Settings) : (empty settings).Indexed where
  nodes := Registry.agrees_empty
  characters := Registry.agrees_empty
  quests := Registry.agrees_empty

theorem Indexed.add {w : World} (hw : w.Indexed) (r : Registration) :
    (w.add r).Indexed := by
  cases r with
  | node n => exact ⟨hw.nodes.insert n, hw.characters, hw.quests⟩
  | character c _ => exact ⟨hw.nodes, hw.characters.insert c, hw.quests⟩
  | quest q => exact ⟨hw.nodes, hw.characters, hw.quests.insert q⟩

theorem Indexed.changed {w w' : World} (hw : w.Indexed) (h : Changed w w') : w'.Indexed := by
  cases h with
  | clock _ => exact ⟨hw.nodes, hw.characters, hw.quests⟩
  | quest h q q' hq hname =>
    refine ⟨hw.nodes, hw.characters, hw.quests.modify _ fun a ha => ?_⟩
    rw [hq] at ha
    cases ha
    exact hname
  | nothing => exact hw
  | kill h => exact ⟨hw.nodes, hw.characters.modify _ fun _ _ => rfl, hw.quests⟩

/-! ## Candidates -/

/-- Every character has the nodes that it can be in among its candidates. -/
def Noted (w : World) : Prop := ∀ h c, w.characters.get? h = some c → c.NotesNodes

theorem noted_empty (settings : Settings) : (empty settings).Noted := by
  intro h c hc
  cases hc

theorem Noted.add {w : World} (hi : w.Indexed) (hw : w.Noted) (r : Registration) :
    (w.add r).Noted := by
  cases r with
  | node _ => exact hw
  | character c built =>
    intro h c' hc'
    rw [World.add, addCharacter, hi.characters.get?_insert] at hc'
    split at hc'
    · cases hc'
      exact built.notesNodes
    · exact hw h c' hc'
  | quest _ => exact hw

theorem Noted.changed {w w' : World} (hw : w.Noted) (h : Changed w w') : w'.Noted := by
  cases h with
  | clock _ => exact hw
  | quest _ _ _ _ _ => exact hw
  | nothing => exact hw
  | kill h =>
    intro h' c' hc'
    rw [kill, modifyCharacter, Registry.get?_modify] at hc'
    split at hc'
    · obtain ⟨c, hc, rfl⟩ := Option.map_eq_some_iff.1 hc'
      have hnotes := hw h' c hc
      exact ⟨hnotes.static, hnotes.assigned⟩
    · exact hw h' c' hc'

end World

end StoryWorld
