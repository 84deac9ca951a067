import StoryWorld.Proofs.World.Order
import StoryWorld.Proofs.World.QuestSteps
import StoryWorld.Proofs.World.Roster

/-!
# Attributes of a world

A world answers for the names of its clock and for those of its quest lines that have states. Where
quest lines are made by their own operations (`Reached`), each operation on the world changes the
attributes that it is about and no other (`Reached.keepsAttributes`).
-/

namespace StoryWorld

namespace QuestLine

/-- The quest lines that their operations make. One that is written down elsewhere may say that it
stands at a value of which it has no state, and is not among them. -/
inductive Built : QuestLine → Prop
  | ofName (name : String) : Built { name := name }
  | perform {q : QuestLine} (op : Operation) (hq : Built q) : Built (q.perform op)

variable {q : QuestLine}

theorem Built.wellKept (hq : q.Built) : q.WellKept := by
  induction hq with
  | ofName name => exact wellKept_run name []
  | perform op _ ih => exact ih.perform op

theorem built_run (name : String) (ops : List Operation) : (run name ops).Built :=
  List.foldlRecOn ops QuestLine.perform (.ofName name) fun _ hq op _ => hq.perform op

theorem name_perform (q : QuestLine) (op : Operation) : (q.perform op).name = q.name := by
  rcases perform_cases q op with ⟨n, -, hop⟩ | ⟨-, v, -, hop⟩ | ⟨-, hop⟩
  · rw [hop]
    rfl
  · rw [hop]
  · rw [hop]

/-- A quest line stands at a state as soon as it has one. -/
theorem WellKept.current_ne_none_iff (hq : q.WellKept) : q.current ≠ none ↔ q.nodes ≠ [] := by
  refine not_congr ⟨hq.nodes, fun hnodes => ?_⟩
  rw [Option.eq_none_iff_forall_ne_some]
  intro v hv
  obtain ⟨n, hn⟩ := hq.current v hv
  rw [node?, hnodes] at hn
  cases hn

end QuestLine

namespace World

variable {w w' : World}

/-! ## Worlds whose quest lines are well kept -/

/-- The worlds that come about when quest lines are made by their operations: things are registered,
the world is linked and changes, and what is in it changes by itself under the name that it has. -/
inductive Reached : World → Prop
  | empty (settings : Settings) : Reached (empty settings)
  | addNode {w : World} (n : Node) (hw : Reached w) : Reached (w.addNode n).1
  | addCharacter {w : World} (c : Character) (hw : Reached w) : Reached (w.addCharacter c).1
  | addQuestLine {w : World} {q : QuestLine} (hq : q.Built) (hw : Reached w) :
    Reached (w.addQuestLine q).1
  | link {w : World} (hw : Reached w) : Reached w.link.1
  | change {w : World} (c : Change) (hw : Reached w) : Reached (w.change c)
  | modifyCharacter {w : World} (k : Handle .character) {f : Character → Character}
    (hf : ∀ c, (f c).name = c.name) (hw : Reached w) : Reached (w.modifyCharacter k f)
  | modifyQuest {w : World} (h : Handle .quest) (op : QuestLine.Operation) (hw : Reached w) :
    Reached (w.modifyQuest h (·.perform op))

/-- Every quest line of a world stands at a state as soon as it has one. -/
def QuestsWellKept (w : World) : Prop := ∀ q ∈ w.quests.items, q.WellKept

theorem QuestsWellKept.moved (hw : w.QuestsWellKept) {quest : String} (op : QuestLine.Operation)
    {move : QuestLine → Except QuestError Unit × QuestLine}
    (hmove : ∀ q : QuestLine, q.perform op = (move q).2) :
    ∀ q ∈ (w.quests.mapEntries fun _ q => q.moved quest move).items, q.WellKept := by
  intro q hq
  obtain ⟨_, p, hp, rfl⟩ := Registry.mem_items_mapEntries hq
  unfold QuestLine.moved
  split
  · rw [← hmove]
    exact (hw p hp).perform op
  · exact hw p hp

theorem QuestsWellKept.change (hi : w.Indexed) (hw : w.QuestsWellKept) (c : Change) :
    (w.change c).QuestsWellKept := by
  rw [QuestsWellKept, (hi.change_eq c).2.2]
  cases c with
  | progress quest value => exact hw.moved (.progress value) fun _ => rfl
  | force quest value => exact hw.moved (.force value) fun _ => rfl
  | hours | kill => exact hw

theorem Reached.indexed (hw : w.Reached) : w.Indexed := by
  induction hw with
  | empty settings => exact indexed_empty settings
  | addNode n _ ih => exact ⟨ih.nodes.insert n, ih.characters, ih.quests⟩
  | addCharacter c _ ih => exact ⟨ih.nodes, ih.characters.insert c, ih.quests⟩
  | addQuestLine _ _ ih => exact ⟨ih.nodes, ih.characters, ih.quests.insert _⟩
  | link _ ih => exact ih.link
  | change c _ ih => exact ih.changed (changed_change _ c)
  | modifyCharacter k hf _ ih =>
    exact ⟨ih.nodes, ih.characters.modify _ fun c _ => hf c, ih.quests⟩
  | modifyQuest h op _ ih =>
    exact ⟨ih.nodes, ih.characters, ih.quests.modify _ fun q _ => q.name_perform op⟩

theorem Reached.questsWellKept (hw : w.Reached) : w.QuestsWellKept := by
  induction hw with
  | empty settings => exact fun _ hq => nomatch hq
  | addNode | addCharacter | modifyCharacter | link => assumption
  | addQuestLine hq _ ih =>
    intro p hp
    rcases Registry.mem_items_insert hp with rfl | hp
    · exact hq.wellKept
    · exact ih p hp
  | change c hw ih => exact ih.change hw.indexed c
  | modifyQuest h op _ ih =>
    intro p hp
    rcases Registry.mem_items_modify hp with hp | ⟨q, hq, rfl⟩
    · exact ih p hp
    · exact (ih q hq).perform op

/-! ## Reading attributes -/

theorem attributes_of_mem {name : String} (hname : name ∈ clockNames)
    (hclock : w'.clock = w.clock) : w'.attributes name = w.attributes name := by
  simp only [clockNames, List.mem_cons, List.not_mem_nil, or_false] at hname
  rcases hname with rfl | rfl | rfl
  · simp [attributes, hclock]
  · simp [attributes, hclock]
  · simp [attributes, hclock]

theorem attributes_of_notMem {name : String} (hname : name ∉ clockNames) :
    w.attributes name = ((w.quests.find? name).bind (·.current)).map .int := by
  simp only [clockNames, List.mem_cons, List.not_mem_nil, or_false, not_or] at hname
  rw [attributes, if_neg hname.1, if_neg hname.2.1, if_neg hname.2.2]

theorem isSome_attributes_of_mem {name : String} (hname : name ∈ clockNames) :
    (w.attributes name).isSome = true := by
  simp only [clockNames, List.mem_cons, List.not_mem_nil, or_false] at hname
  rcases hname with rfl | rfl | rfl <;> rfl

/-- There are the attributes of the clock, and one for each quest line that has states. -/
theorem isSome_attributes_iff (hi : w.Indexed) (hw : w.QuestsWellKept) (name : String) :
    (w.attributes name).isSome = true ↔
      name ∈ clockNames ∨ ∃ q ∈ w.quests.items, q.name = name ∧ q.nodes ≠ [] := by
  by_cases hname : name ∈ clockNames
  · simp [hname, isSome_attributes_of_mem hname]
  · rw [attributes_of_notMem hname, Option.isSome_map, or_iff_right hname]
    constructor
    · intro hsome
      obtain ⟨v, hv⟩ := Option.isSome_iff_exists.1 hsome
      obtain ⟨q, hq, hcurrent⟩ := Option.bind_eq_some_iff.1 hv
      obtain ⟨hmem, hnameOf⟩ := hi.quests.find?_eq_some_iff.1 hq
      exact ⟨q, hmem, hnameOf, (hw q hmem).current_ne_none_iff.1 (by simp [hcurrent])⟩
    · rintro ⟨q, hmem, hnameOf, hnodes⟩
      rw [hi.quests.find?_eq_some_iff.2 ⟨hmem, hnameOf⟩, Option.bind_some,
        Option.isSome_iff_ne_none]
      exact (hw q hmem).current_ne_none_iff.2 hnodes

/-! ## A step of a quest line -/

/-- A step stands the quest line of its name at its value, or changes nothing at all. -/
theorem Indexed.progressQuest_cases (hi : w.Indexed) (quest : String) (value : Integer) :
    (∃ q, w.quests.find? quest = some q ∧ q.name = quest ∧
      w.progressQuest quest value = (.ok (), w.withQuest { q with current := some value })) ∨
    (∃ e, w.progressQuest quest value = (.error e, w)) := by
  rcases hi.moveQuest_cases quest fun q => q.name_progress value with
    ⟨-, hprogress⟩ | ⟨q, hquest, hname, hprogress⟩
  · exact .inr ⟨_, hprogress⟩
  · rw [progressQuest, hprogress]
    rcases q.progress_cases value with ⟨-, hmove⟩ | ⟨-, e, hmove⟩
    · exact .inl ⟨q, hquest, hname, by rw [hmove]⟩
    · exact .inr ⟨e, by rw [hmove, hi.withQuest_of_find? hquest]⟩

/-! ## What operations change -/

/-- Operations on a world change the attributes that they are about, and no other. -/
structure KeepsAttributes (w : World) : Prop where
  /-- A refused step of a quest line changes nothing at all. -/
  refused : ∀ quest value e, (w.progressQuest quest value).1 = .error e →
    (w.progressQuest quest value).2 = w
  /-- A step sets the attribute of its quest line, unless the clock has the name. -/
  step : ∀ quest value, (w.progressQuest quest value).1 = .ok () → quest ∉ clockNames →
    (w.progressQuest quest value).2.attributes quest = some (.int value)
  step_other : ∀ quest value, (w.progressQuest quest value).1 = .ok () → ∀ name,
    name ≠ quest ∨ name ∈ clockNames →
    (w.progressQuest quest value).2.attributes name = w.attributes name
  addHour : ∀ delta, ∀ name ∉ clockNames,
    (w.addHour delta).1.attributes name = w.attributes name
  addNode : ∀ n, (w.addNode n).1.attributes = w.attributes
  addCharacter : ∀ c, (w.addCharacter c).1.attributes = w.attributes
  link : w.link.1.attributes = w.attributes
  kill : ∀ k, (w.kill k).1.attributes = w.attributes
  isSome_iff : ∀ name, (w.attributes name).isSome = true ↔
    name ∈ clockNames ∨ ∃ q ∈ w.quests.items, q.name = name ∧ q.nodes ≠ []

/-- Attributes of a world change through their own operations alone. -/
theorem Reached.keepsAttributes (hw : w.Reached) : w.KeepsAttributes where
  refused quest value e h := by
    rcases hw.indexed.progressQuest_cases quest value with ⟨q, -, -, hstep⟩ | ⟨e', hstep⟩
    · rw [hstep] at h
      cases h
    · rw [hstep]
  step quest value h hquest := by
    rcases hw.indexed.progressQuest_cases quest value with ⟨q, hq, hname, hstep⟩ | ⟨e, hstep⟩
    · rw [hstep, attributes_of_notMem hquest, hw.indexed.find?_withQuest, hq, Option.map_some,
        if_pos hname.symm]
      rfl
    · rw [hstep] at h
      cases h
  step_other quest value h name hother := by
    rcases hw.indexed.progressQuest_cases quest value with ⟨q, -, hname, hstep⟩ | ⟨e, hstep⟩
    · rw [hstep]
      by_cases hclock : name ∈ clockNames
      · exact attributes_of_mem hclock rfl
      · have hne : name ≠ q.name := hname ▸ hother.resolve_right hclock
        rw [attributes_of_notMem hclock, attributes_of_notMem hclock, hw.indexed.find?_withQuest]
        simp only [if_neg hne, Option.map_id']
    · rw [hstep]
  addHour delta name hname := by
    rw [attributes_of_notMem hname, attributes_of_notMem hname]
    rfl
  addNode n := attributes_eq rfl rfl
  addCharacter c := attributes_eq rfl rfl
  link := attributes_eq rfl rfl
  kill k := attributes_eq rfl rfl
  isSome_iff := isSome_attributes_iff hw.indexed hw.questsWellKept

/-- A bridge that can be crossed, and a quest line that has a name of the clock. -/
def bridgeAndDay : World :=
  ((empty {}).addQuestLine (QuestLine.run "bridge"
    [.addNode ⟨0, "before", [(1, "cross")]⟩, .addNode ⟨1, "beyond", []⟩])).1.addQuestLine
      (QuestLine.run "day" [.addNode ⟨5, "", []⟩]) |>.1

theorem keepsAttributes_bridgeAndDay : bridgeAndDay.Reached ∧ bridgeAndDay.KeepsAttributes ∧
    (bridgeAndDay.progressQuest "bridge" 1).2.attributes "bridge" = some (.int 1) ∧
    (bridgeAndDay.progressQuest "bridge" 1).2.attributes "day" = some (.int 0) ∧
    (bridgeAndDay.progressQuest "bridge" 5).2 = bridgeAndDay := by
  have hreached : bridgeAndDay.Reached :=
    ((Reached.empty {}).addQuestLine (QuestLine.built_run ..)).addQuestLine
      (QuestLine.built_run ..)
  have hkeeps := hreached.keepsAttributes
  have hday : bridgeAndDay.attributes "day" = some (.int 0) := by decide
  refine ⟨hreached, hkeeps, hkeeps.step _ _ rfl (by decide), ?_, hkeeps.refused _ _ _ rfl⟩
  rw [hkeeps.step_other _ _ rfl "day" (.inl (by decide)), hday]

end World

end StoryWorld
