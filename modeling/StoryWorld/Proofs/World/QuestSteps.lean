import StoryWorld.Proofs.QuestLine.Runs
import StoryWorld.Proofs.World.History

/-!
# Steps of quest lines

Steps name quest lines and values, and are taken in order. They change the current values of the
quest lines that they name and nothing else, so a quest line has the value of the last step that
names it. What a world answers for a name after steps follows from that
(`World.Moves.resolves_iff`).
-/

namespace StoryWorld

namespace QuestLine

/-- A quest line at its first state, if it has one. -/
def AtStart (q : QuestLine) : Prop := q.current = q.nodes.keys.head?

theorem AtStart.addNode {q : QuestLine} (h : q.AtStart) (n : QuestNode) :
    (q.addNode n).1.AtStart := by
  change q.current.or (some n.value) = (q.nodes.set n.value n).keys.head?
  rw [h, Entries.keys_set]
  cases q.nodes with
  | nil => rfl
  | cons e es =>
    split
    · rfl
    · rfl

end QuestLine

/-- The value of the last step that names a quest. -/
def lastStep (quest : String) (steps : List (String × Integer)) : Option Integer :=
  ((steps.filter fun step => step.1 = quest).map (·.2)).getLast?

theorem lastStep_cons (quest : String) (step : String × Integer) (steps : List (String × Integer)) :
    lastStep quest (step :: steps) =
      (lastStep quest steps).or (if step.1 = quest then some step.2 else none) := by
  unfold lastStep
  rw [List.filter_cons]
  by_cases hstep : step.1 = quest
  · rw [if_pos hstep, if_pos (decide_eq_true hstep), List.map_cons, List.getLast?_cons]
    cases ((steps.filter fun step => step.1 = quest).map (·.2)).getLast? <;> rfl
  · rw [if_neg hstep, if_neg (by simp [hstep]), Option.or_none]

namespace World

variable {w w' : World} {steps : List (String × Integer)}

/-! ## One step -/

/-- The world with a quest line in place of the one of its name. -/
def withQuest (w : World) (q : QuestLine) : World :=
  { w with quests := w.quests.mapEntries fun _ p => if p.name = q.name then q else p }

theorem Indexed.withQuest (hw : w.Indexed) (q : QuestLine) : (w.withQuest q).Indexed where
  nodes := hw.nodes
  characters := hw.characters
  quests := hw.quests.mapEntries _ fun _ p => by
    split
    · next hname => exact hname.symm
    · rfl

theorem Indexed.find?_withQuest (hw : w.Indexed) (q : QuestLine) (name : String) :
    (w.withQuest q).quests.find? name =
      (w.quests.find? name).map fun p => if name = q.name then q else p := by
  rw [World.withQuest, Registry.find?, Registry.find?, Registry.handle?_mapEntries]
  rcases hname : w.quests.handle? name with _ | h
  · rfl
  · obtain ⟨p, hp, rfl⟩ := (hw.quests _ _).1 hname
    rw [Option.bind_some, Option.bind_some, Registry.get?_mapEntries, hp]
    rfl

theorem Indexed.withQuest_of_find? (hw : w.Indexed) {quest : String} {q : QuestLine}
    (hq : w.quests.find? quest = some q) : w.withQuest q = w := by
  obtain ⟨-, rfl⟩ := hw.quests.find?_eq_some_iff.1 hq
  have hquests : (w.quests.mapEntries fun _ p => if p.name = q.name then q else p) = w.quests := by
    refine Registry.mapEntries_eq_self fun h p hp => ?_
    split
    · next hname =>
      have hfound := hw.quests.handle?_nameOf hp
      rw [hname] at hfound
      rw [Registry.find?, hfound, Option.bind_some, hp] at hq
      exact (Option.some.inj hq).symm
    · rfl
  rw [World.withQuest, hquests]

/-- A quest line that is moved by its name answers for the world. Without it nothing changes. -/
theorem Indexed.moveQuest_cases (hw : w.Indexed) (quest : String)
    {move : QuestLine → Except QuestError Unit × QuestLine}
    (hmove : ∀ q, (move q).2.name = q.name) :
    (w.quests.find? quest = none ∧ w.moveQuest quest move = (.error (.unknownQuest quest), w)) ∨
    (∃ q, w.quests.find? quest = some q ∧ q.name = quest ∧
      w.moveQuest quest move = ((move q).1, w.withQuest (move q).2)) := by
  rcases w.moveQuest_cases quest move with hnone | ⟨h, q, hname, hq, hmoved⟩
  · exact .inl hnone
  · have hquest : w.quests.find? quest = some q := by
      rw [Registry.find?, hname, Option.bind_some, hq]
    obtain ⟨-, hnameOf⟩ := hw.quests.find?_eq_some_iff.1 hquest
    refine .inr ⟨q, hquest, hnameOf, ?_⟩
    rw [hmoved, hw.quests.modify_eq_mapEntries hname, World.withQuest, hmove, hnameOf]

/-- A step is taken by the quest line that it names, if that is one that allows it. -/
theorem Indexed.progressQuest_eq_ok_iff (hw : w.Indexed) {quest : String} {value : Integer} :
    w.progressQuest quest value = (.ok (), w') ↔
      ∃ q q', w.quests.find? quest = some q ∧ q.progress value = (.ok (), q') ∧
        w' = w.withQuest q' := by
  have hcases := hw.moveQuest_cases quest fun q => q.name_progress value
  rcases hcases with ⟨hnone, hprogress⟩ | ⟨q, hq, -, hprogress⟩
  · simp [progressQuest, hprogress, hnone]
  · rw [progressQuest, hprogress, hq, Prod.mk.injEq]
    constructor
    · rintro ⟨hok, rfl⟩
      exact ⟨q, _, rfl, Prod.ext hok rfl, rfl⟩
    · rintro ⟨p, q', hp, hmove, rfl⟩
      obtain rfl := Option.some.inj hp
      rw [hmove]
      exact ⟨rfl, rfl⟩

/-! ## Steps in order -/

/-- Steps lead from one world to another. Each names a quest line, which has to allow the value. -/
inductive Moves : World → List (String × Integer) → World → Prop
  | nil {w : World} : Moves w [] w
  | cons {w w' : World} {quest : String} {value : Integer} {q q' : QuestLine}
    {steps : List (String × Integer)} (hquest : w.quests.find? quest = some q)
    (hmove : q.progress value = (.ok (), q')) (hrest : Moves (w.withQuest q') steps w') :
    Moves w ((quest, value) :: steps) w'

theorem Indexed.takeSteps_eq_ok_iff (hw : w.Indexed) :
    w.takeSteps steps = (.ok (), w') ↔ w.Moves steps w' := by
  induction steps generalizing w with
  | nil =>
    constructor
    · intro h
      cases h
      exact .nil
    · intro h
      cases h
      rfl
  | cons step steps ih =>
    obtain ⟨quest, value⟩ := step
    rw [takeSteps]
    constructor
    · intro h
      split at h
      · next w₁ hstep =>
        obtain ⟨q, q', hquest, hmove, rfl⟩ := hw.progressQuest_eq_ok_iff.1 hstep
        exact .cons hquest hmove ((ih (hw.withQuest q')).1 h)
      · next hrefused => exact absurd h (hrefused w')
    · intro h
      cases h with
      | cons hquest hmove hrest =>
        rw [hw.progressQuest_eq_ok_iff.2 ⟨_, _, hquest, hmove, rfl⟩]
        exact (ih (hw.withQuest _)).2 hrest

theorem Moves.clock (h : w.Moves steps w') : w'.clock = w.clock := by
  induction h with
  | nil => rfl
  | cons _ _ _ ih => exact ih

/-- After steps, a quest line is the same but for its current value, the last that it was moved
to. -/
theorem Moves.find?_quests (h : w.Moves steps w') (hw : w.Indexed) (name : String) :
    w'.quests.find? name = (w.quests.find? name).map fun q =>
      { q with current := (lastStep name steps).or q.current } := by
  induction h with
  | nil => simp [lastStep]
  | @cons w w' quest value q q' steps hquest hmove hrest ih =>
    obtain ⟨-, rfl⟩ := QuestLine.progress_eq_ok_iff.1 hmove
    obtain ⟨-, rfl⟩ := hw.quests.find?_eq_some_iff.1 hquest
    rw [ih (hw.withQuest _), hw.find?_withQuest, lastStep_cons]
    by_cases hname : name = q.name
    · subst hname
      rw [hquest, Option.map_some, Option.map_some, Option.map_some, if_pos rfl, if_pos rfl,
        Option.or_assoc]
      rfl
    · simp [hname, Ne.symm hname]

/-- A quest line that was moved has states. -/
theorem Moves.nodes_ne_nil (h : w.Moves steps w') (hw : w.Indexed) {name : String} {q : QuestLine}
    (hq : w.quests.find? name = some q) (hmoved : lastStep name steps ≠ none) : q.nodes ≠ [] := by
  induction h generalizing q with
  | nil => exact absurd rfl hmoved
  | @cons w w' quest value p p' steps hquest hmove hrest ih =>
    obtain ⟨⟨u, hu, hdeclares⟩, rfl⟩ := QuestLine.progress_eq_ok_iff.1 hmove
    obtain ⟨-, rfl⟩ := hw.quests.find?_eq_some_iff.1 hquest
    by_cases hname : name = p.name
    · subst hname
      rw [hquest] at hq
      cases hq
      intro hnil
      obtain ⟨n, description, m, hn, -, -⟩ := hdeclares
      rw [QuestLine.node?, hnil] at hn
      cases hn
    · refine ih (hw.withQuest _) ?_ ?_
      · rw [hw.find?_withQuest, hq, Option.map_some, if_neg hname]
      · rw [lastStep_cons, if_neg (Ne.symm hname), Option.or_none] at hmoved
        exact hmoved

/-! ## Answers -/

/-- The names of the clock. -/
def clockNames : List String := ["hour", "day", "weekday"]

/-- The values that a world has for names: the clock's, and for other names those of quest lines. -/
inductive Resolves (w : World) : String → Integer → Prop
  | hour : Resolves w "hour" w.clock.hourOfDay
  | day : Resolves w "day" w.clock.day
  | weekday : Resolves w "weekday" w.clock.weekday
  | quest {name : String} {value : Integer} {q : QuestLine} (hname : name ∉ clockNames)
    (hquest : w.quests.find? name = some q) (hcurrent : q.current = some value) :
    Resolves w name value

theorem resolves_iff_of_notMem {name : String} {value : Integer} (hname : name ∉ clockNames) :
    w.Resolves name value ↔ ∃ q, w.quests.find? name = some q ∧ q.current = some value := by
  constructor
  · intro h
    cases h with
    | hour | day | weekday => exact absurd (by decide) hname
    | quest _ hquest hcurrent => exact ⟨_, hquest, hcurrent⟩
  · rintro ⟨q, hquest, hcurrent⟩
    exact .quest hname hquest hcurrent

theorem attributes_eq_some_iff {name : String} {v : Value} :
    w.attributes name = some v ↔ ∃ value, w.Resolves name value ∧ v = .int value := by
  unfold attributes
  constructor
  · intro h
    split at h
    · next hname =>
      subst hname
      exact ⟨_, .hour, (Option.some.inj h).symm⟩
    · next hhour =>
      split at h
      · next hname =>
        subst hname
        exact ⟨_, .day, (Option.some.inj h).symm⟩
      · next hday =>
        split at h
        · next hname =>
          subst hname
          exact ⟨_, .weekday, (Option.some.inj h).symm⟩
        · next hweekday =>
          obtain ⟨value, hvalue, rfl⟩ := Option.map_eq_some_iff.1 h
          obtain ⟨q, hquest, hcurrent⟩ := Option.bind_eq_some_iff.1 hvalue
          have hnot : name ∉ clockNames := by simp [clockNames, hhour, hday, hweekday]
          exact ⟨value, .quest hnot hquest hcurrent, rfl⟩
  · rintro ⟨value, hvalue, rfl⟩
    cases hvalue with
    | hour | day | weekday => simp
    | quest hnot hquest hcurrent =>
      simp only [clockNames, List.mem_cons, List.not_mem_nil, or_false, not_or] at hnot
      rw [if_neg hnot.1, if_neg hnot.2.1, if_neg hnot.2.2, hquest, Option.bind_some, hcurrent,
        Option.map_some]

/-- Where quest lines stand at their first states, one that has states resolves after steps to the
last step that names it, or else to its first state. -/
theorem Moves.resolves_iff (h : w.Moves steps w') (hw : w.Indexed)
    (hstart : ∀ q ∈ w.quests.items, q.AtStart) {name : String} {value : Integer}
    (hname : name ∉ clockNames) : w'.Resolves name value ↔
      ∃ q, w.quests.find? name = some q ∧ q.nodes ≠ [] ∧
        (lastStep name steps).or q.nodes.keys.head? = some value := by
  rw [resolves_iff_of_notMem hname, h.find?_quests hw]
  rcases hq : w.quests.find? name with _ | q
  · simp
  · have hcurrent : q.current = q.nodes.keys.head? :=
      hstart q (hw.quests.find?_eq_some_iff.1 hq).1
    have hnodes (hvalue : (lastStep name steps).or q.nodes.keys.head? = some value) :
        q.nodes ≠ [] := by
      rintro hnil
      rw [hnil] at hvalue
      rcases Option.or_eq_some_iff.1 hvalue with hlast | ⟨-, hfirst⟩
      · exact h.nodes_ne_nil hw hq (by simp [hlast]) hnil
      · cases hfirst
    simp only [Option.map_some, Option.some.injEq, exists_eq_left', hcurrent]
    exact ⟨fun hvalue => ⟨hnodes hvalue, hvalue⟩, And.right⟩

end World

end StoryWorld
