import StoryWorld.Proofs.World.Operations

/-!
# The three rosters of a world

Nodes, characters and quest lines are kept alike. `Roster` says how a kind is kept: an operation
registers one thing of the kind or changes each of them where it stands. What follows from that is
proved once: names stand in the order of their first registration, and what has a name is what was
last registered under it, changed by the operations since.
-/

namespace StoryWorld.World

/-- How the things of a kind are kept in a world. -/
structure Roster (k : Kind) (α : Type) where
  registry : World → Registry k α
  nameOf : α → String
  /-- Registers a thing, and tells its handle. -/
  add : World → α → World × Handle k × Option WorldWarning
  /-- What is warned of when a name is registered again. -/
  duplicate : String → WorldWarning
  /-- What an operation registers. -/
  registered? : Operation → Option α
  /-- What an operation on a world makes of the thing at a handle. -/
  undergo : World → Operation → Handle k → α → α
  registry_empty : ∀ settings, registry (empty settings) = {}
  agrees : ∀ {w : World}, w.Indexed → (registry w).Agrees nameOf
  registry_add : ∀ w a, registry (add w a).1 = ((registry w).insert (nameOf a) a).1
  answer_add : ∀ w a, (add w a).2 = (((registry w).insert (nameOf a) a).2.1,
    if ((registry w).insert (nameOf a) a).2.2 then none else some (duplicate (nameOf a)))
  perform_registering : ∀ {op a}, registered? op = some a → ∀ w, w.perform op = (add w a).1
  perform_other : ∀ {w : World} {op}, w.Indexed → registered? op = none →
    registry (w.perform op) = (registry w).mapEntries (undergo w op)
  undergo_registering : ∀ {op a}, registered? op = some a → ∀ w h b, undergo w op h b = b
  nameOf_undergo : ∀ w op h a, nameOf (undergo w op h a) = nameOf a

/-! ## Nodes, characters, quest lines -/

theorem Indexed.change_eq {w : World} (hw : w.Indexed) (c : Change) :
    (w.change c).nodes = w.nodes ∧
    (w.change c).characters = (match c with
      | .kill h => w.characters.modify h .kill
      | _ => w.characters) ∧
    (w.change c).quests = (match c with
      | .progress quest value => w.quests.mapEntries fun _ q => q.moved quest (·.progress value)
      | .force quest value => w.quests.mapEntries fun _ q => q.moved quest (·.force value)
      | _ => w.quests) := by
  cases c with
  | hours delta => exact ⟨rfl, rfl, rfl⟩
  | progress quest value =>
    have hmove : w.change (.progress quest value) = _ := hw.moveQuest_eq quest (·.progress value)
    rw [hmove]
    exact ⟨rfl, rfl, rfl⟩
  | force quest value =>
    have hmove : w.change (.force quest value) = _ := hw.moveQuest_eq quest (·.force value)
    rw [hmove]
    exact ⟨rfl, rfl, rfl⟩
  | kill h => exact ⟨rfl, rfl, rfl⟩

/-- The nodes of a world. Only linking changes them. -/
def nodeRoster : Roster .node Node where
  registry := nodes
  nameOf := Node.name
  add := addNode
  duplicate := .duplicateNode
  registered?
    | .addNode n => some n
    | _ => none
  undergo w op h n := match op with
    | .link => { n with adjacents := w.resolvedExits n, possible := w.candidatesAt h }
    | _ => n
  registry_empty _ := rfl
  agrees hw := hw.nodes
  registry_add _ _ := rfl
  answer_add _ _ := rfl
  perform_registering := by
    rintro (_ | _) _ ⟨⟩ w
    rfl
  perform_other := by
    intro w op hw hop
    have hkept : w.nodes = w.nodes.mapEntries fun _ n => n :=
      (Registry.mapEntries_eq_self fun _ _ _ => rfl).symm
    cases op with
    | addNode n => cases hop
    | link => rfl
    | change c => exact (hw.change_eq c).1.trans hkept
    | addCharacter | addQuestLine | addCharacteristic | addRule => exact hkept
  undergo_registering := by
    rintro (_ | _) _ ⟨⟩ w h n
    rfl
  nameOf_undergo w op h n := by cases op <;> rfl

/-- The characters of a world. Each operation on a character names its handle. -/
def characterRoster : Roster .character Character where
  registry := characters
  nameOf := Character.name
  add := addCharacter
  duplicate := .duplicateCharacter
  registered?
    | .addCharacter c => some c
    | _ => none
  undergo _ op h c := match op with
    | .change (.kill h') => if h = h' then c.kill else c
    | .addCharacteristic h' key v => if h = h' then (c.addCharacteristic key v).1 else c
    | .addRule h' r => if h = h' then c.addRule r else c
    | _ => c
  registry_empty _ := rfl
  agrees hw := hw.characters
  registry_add _ _ := rfl
  answer_add _ _ := rfl
  perform_registering := by
    rintro (_ | _) _ ⟨⟩ w
    rfl
  perform_other := by
    intro w op hw hop
    have hkept : w.characters = w.characters.mapEntries fun _ c => c :=
      (Registry.mapEntries_eq_self fun _ _ _ => rfl).symm
    cases op with
    | addCharacter c => cases hop
    | change c =>
      rw [show (w.perform (.change c)).characters = _ from (hw.change_eq c).2.1]
      cases c with
      | kill h => exact Registry.modify_eq_mapEntries ..
      | hours | progress | force => exact hkept
    | addCharacteristic h key v => exact Registry.modify_eq_mapEntries ..
    | addRule h r => exact Registry.modify_eq_mapEntries ..
    | addNode | addQuestLine | link => exact hkept
  undergo_registering := by
    rintro (_ | _) _ ⟨⟩ w h n
    rfl
  nameOf_undergo w op h c := by
    cases op with
    | change change =>
      cases change with
      | kill h' =>
        dsimp only
        split <;> rfl
      | hours | progress | force => rfl
    | addCharacteristic h' key v =>
      dsimp only
      split <;> rfl
    | addRule h' r =>
      dsimp only
      split <;> rfl
    | addNode | addCharacter | addQuestLine | link => rfl

/-- The quest lines of a world. Each move names its quest line. -/
def questRoster : Roster .quest QuestLine where
  registry := quests
  nameOf := QuestLine.name
  add := addQuestLine
  duplicate := .duplicateQuest
  registered?
    | .addQuestLine q => some q
    | _ => none
  undergo _ op _ q := match op with
    | .change (.progress quest value) => q.moved quest (·.progress value)
    | .change (.force quest value) => q.moved quest (·.force value)
    | _ => q
  registry_empty _ := rfl
  agrees hw := hw.quests
  registry_add _ _ := rfl
  answer_add _ _ := rfl
  perform_registering := by
    rintro (_ | _) _ ⟨⟩ w
    rfl
  perform_other := by
    intro w op hw hop
    have hkept : w.quests = w.quests.mapEntries fun _ q => q :=
      (Registry.mapEntries_eq_self fun _ _ _ => rfl).symm
    cases op with
    | addQuestLine q => cases hop
    | change c =>
      rw [show (w.perform (.change c)).quests = _ from (hw.change_eq c).2.2]
      cases c with
      | progress | force => rfl
      | hours | kill => exact hkept
    | addNode | addCharacter | link | addCharacteristic | addRule => exact hkept
  undergo_registering := by
    rintro (_ | _) _ ⟨⟩ w h n
    rfl
  nameOf_undergo w op h q := by
    cases op with
    | change change =>
      cases change with
      | progress quest value => exact QuestLine.name_moved (·.name_progress value) quest q
      | force quest value => exact QuestLine.name_moved (·.name_force value) quest q
      | hours | kill => rfl
    | addNode | addCharacter | addQuestLine | link | addCharacteristic | addRule => rfl

end StoryWorld.World
