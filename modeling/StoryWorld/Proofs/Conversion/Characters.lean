import StoryWorld.Conversion.Character
import StoryWorld.Proofs.Conversion.Offences
import StoryWorld.Proofs.Tree.Slices

/-!
# Characters as containers

A container is a character if all containers in it, at any depth, are named by conditions. Its rules
are then those containers, one for one and in order, and the effects of each are its members in
order, less the items that are not understood (`Character.ofContainer_rules`).
-/

namespace StoryWorld

/-! ## What members stand for -/

/-- Effects as the members of a rule's container: every member is an effect but an item that does
not ask for another pass, which is passed over. -/
inductive Effect.AllWritten : List Member → List Effect → Prop
  | nil : AllWritten [] []
  | assign {key value : String} {span : Span} (hrest : AllWritten ms es) :
    AllWritten (.assignment key value span :: ms)
      (.assign (Key.canonical key) (.ofText value) :: es)
  | nest {name : String} {span nameSpan : Span} (hcondition : Condition.ofText name = .ok condition)
    (heffects : AllWritten members effects) (hrest : AllWritten ms es) :
    AllWritten (.container name members span nameSpan :: ms) (.nest condition effects :: es)
  | rerun {text : String} {span : Span} (htext : Text.sameFolded text rerunText = true)
    (hrest : AllWritten ms es) : AllWritten (.item text span :: ms) (.rerun :: es)
  | stray {text : String} {span : Span} (htext : Text.sameFolded text rerunText = false)
    (hrest : AllWritten ms es) : AllWritten (.item text span :: ms) es

/-- A rule as a container. -/
structure Rule.Written (c : Container) (r : Rule) : Prop where
  condition : Condition.ofText c.name = .ok r.condition
  effects : Effect.AllWritten c.members r.effects

theorem Effect.AllWritten.append (h : AllWritten ms es) (h' : AllWritten ms' es') :
    AllWritten (ms ++ ms') (es ++ es') := by
  induction h with
  | nil => exact h'
  | assign _ ih => exact .assign ih
  | nest hcondition heffects _ _ ih => exact .nest hcondition heffects ih
  | rerun htext _ ih => exact .rerun htext ih
  | stray htext _ ih => exact .stray htext ih

/-! ## What is refused and what is passed over -/

/-- What is wrong with the name of a container that should be a condition. -/
def Container.offence? (c : Container) : Option ConvertError :=
  match Condition.ofText c.name with
  | .ok _ => none
  | .error e => some (.condition e c.nameSpan)

theorem Container.offence?_eq_none_iff {c : Container} :
    c.offence? = none ↔ ∃ condition, Condition.ofText c.name = .ok condition := by
  unfold offence?
  split <;> simp [*]

theorem Container.offence?_eq_some_iff {c : Container} {e : ConvertError} :
    c.offence? = some e ↔
      ∃ error, Condition.ofText c.name = .error error ∧ e = .condition error c.nameSpan := by
  unfold offence?
  split <;> simp [*, eq_comm]

mutual
/-- Notices of the items that are not understood in a member of the rule named `rule`, at any
depth. -/
def Member.strayItems (rule : String) : Member → List Notice
  | container name members _ _ => allStrayItems name members
  | assignment .. => []
  | item text span =>
    if Text.sameFolded text rerunText then [] else [⟨span, .unrecognizedItem rule text⟩]

def Member.allStrayItems (rule : String) : List Member → List Notice
  | [] => []
  | m :: ms => m.strayItems rule ++ allStrayItems rule ms
end

/-- Notices of the items that are not understood in a member of the character named `character`:
every item of its own, and those in its rules. -/
def Member.strayEntries (character : String) : Member → List Notice
  | container name members _ _ => allStrayItems name members
  | assignment .. => []
  | item text span => [⟨span, .unrecognizedEntry character text⟩]

/-! ## Conversion -/

theorem Checked.settles_condition (c : Container) :
    (condition c.name c.nameSpan).Settles c.offence? []
      fun condition => Condition.ofText c.name = .ok condition := by
  unfold condition
  split
  · next condition h =>
    rw [Container.offence?_eq_none_iff.2 ⟨condition, h⟩]
    exact .pure h
  · next error h =>
    rw [Container.offence?_eq_some_iff.2 ⟨error, h, rfl⟩]
    exact .refuse _

namespace Effect

mutual
theorem settles_ofMember (rule : String) : (m : Member) →
    (ofMember rule m).Settles (m.containers.findSome? (·.offence?)) (m.strayItems rule)
      (AllWritten [m])
  | .container name members span nameSpan => by
    rw [ofMember, Member.containers, findSome?_cons_eq_or, Member.strayItems]
    refine (Checked.settles_condition ⟨name, members, span, nameSpan⟩).bind fun c hc => ?_
    exact (settles_ofMembers name members).map fun es hes => .nest hc hes .nil
  | .assignment .. => by
    rw [ofMember, Member.containers, Member.strayItems]
    exact .pure (.assign .nil)
  | .item text span => by
    rw [ofMember, Member.containers, Member.strayItems]
    split
    · next htext => exact .pure (.rerun htext .nil)
    · next htext =>
      refine (Checked.Settles.note ?_).map fun _ _ => .stray (Bool.not_eq_true _ ▸ htext) .nil
      exact List.forall_mem_singleton.2 rfl

theorem settles_ofMembers (rule : String) : (ms : List Member) →
    (ofMembers rule ms).Settles ((Member.allContainers ms).findSome? (·.offence?))
      (Member.allStrayItems rule ms) (AllWritten ms)
  | [] => .pure .nil
  | m :: ms => by
    rw [ofMembers, Member.allContainers, List.findSome?_append, Member.allStrayItems]
    refine (settles_ofMember rule m).bind fun es hes => ?_
    exact (settles_ofMembers rule ms).map fun es' hes' => hes.append hes'
end

end Effect

theorem Rule.settles_ofContainer (c : Container) :
    (ofContainer c).Settles (c.containers.findSome? (·.offence?))
      (Member.allStrayItems c.name c.members) (Written c) := by
  rw [ofContainer, ofMembers, Container.containers, Member.ofContainer, Member.containers,
    findSome?_cons_eq_or]
  refine (Checked.settles_condition c).bind fun condition hcondition => ?_
  exact (Effect.settles_ofMembers c.name c.members).map fun effects heffects =>
    ⟨hcondition, heffects⟩

namespace Character

/-- Whether one character has the rules of another, and after them those of the containers among
members. -/
def AddsRules (c : Character) (ms : List Member) (c' : Character) : Prop :=
  ∃ rules, c'.rules = c.rules ++ rules ∧
    List.Forall₂ Rule.Written (ms.filterMap Member.container?) rules

theorem AddsRules.nil (c : Character) : c.AddsRules [] c := ⟨[], (List.append_nil _).symm, .nil⟩

/-- A member that is no container adds no rule. -/
theorem AddsRules.cons_of_rules_eq {c c' t : Character} {m : Member} {ms : List Member}
    (h : c'.AddsRules ms t) (hm : m.container? = none) (hrules : c'.rules = c.rules) :
    c.AddsRules (m :: ms) t := by
  obtain ⟨rules, ht, hwritten⟩ := h
  refine ⟨rules, hrules ▸ ht, ?_⟩
  rwa [List.filterMap_cons_none hm]

theorem AddsRules.cons_container {c t : Character} {r : Rule} {o : Container} {m : Member}
    {ms : List Member} (h : (c.addRule r).AddsRules ms t) (hm : m.container? = some o)
    (hr : r.Written o) : c.AddsRules (m :: ms) t := by
  obtain ⟨rules, ht, hwritten⟩ := h
  refine ⟨r :: rules, ?_, ?_⟩
  · rw [ht, addRule, List.append_assoc]
    rfl
  · rw [List.filterMap_cons_some hm]
    exact .cons hr hwritten

theorem settles_readMember (c : Character) (m : Member) :
    (readMember c m).Settles (m.containers.findSome? (·.offence?)) (m.strayEntries c.name)
      fun c' => c'.name = c.name ∧ ∀ ms t, c'.AddsRules ms t → c.AddsRules (m :: ms) t := by
  cases m with
  | container name members span nameSpan =>
    refine (Rule.settles_ofContainer ⟨name, members, span, nameSpan⟩).map fun r hr => ⟨rfl, ?_⟩
    exact fun ms t h => h.cons_container rfl hr
  | assignment key value span =>
    refine (Checked.Settles.note_ofWarning? span _).map fun _ _ => ⟨rfl, ?_⟩
    exact fun ms t h => h.cons_of_rules_eq rfl rfl
  | item text span =>
    refine (Checked.Settles.note (List.forall_mem_singleton.2 rfl)).map fun _ _ => ⟨rfl, ?_⟩
    exact fun ms t h => h.cons_of_rules_eq rfl rfl

theorem settles_ofContainer (o : Container) :
    (ofContainer o).Settles ((Member.allContainers o.members).findSome? (·.offence?))
      (o.members.flatMap (·.strayEntries o.name)) ((ofName o.name).AddsRules o.members) := by
  rw [Member.allContainers_eq_flatMap, findSome?_flatMap]
  refine Checked.Settles.foldlM (I := fun c => c.name = o.name) AddsRules.nil (fun c m hc => ?_)
    o.members rfl
  have hsettles := settles_readMember c m
  rwa [hc] at hsettles

/-- A container is a character if the names of all containers in it are conditions. Its containers
are then the rules, its members' members the effects, and each item that is not understood gives one
notice. If some container has another name than a condition, the first of them is to blame. -/
theorem ofContainer_rules (o : Container) :
    ((∃ c, (ofContainer o).result = .ok c) ↔
      ∀ d ∈ Member.allContainers o.members, ∃ condition, Condition.ofText d.name = .ok condition) ∧
    (∀ c, (ofContainer o).result = .ok c →
      List.Forall₂ Rule.Written (o.members.filterMap Member.container?) c.rules ∧
        (ofContainer o).strays = o.members.flatMap (·.strayEntries o.name)) ∧
    (∀ e, (ofContainer o).result = .error e ↔
      ∃ before d after, Member.allContainers o.members = before ++ d :: after ∧
        (∃ error, Condition.ofText d.name = .error error ∧ e = .condition error d.nameSpan) ∧
        ∀ d ∈ before, ∃ condition, Condition.ofText d.name = .ok condition) := by
  have hsettles := settles_ofContainer o
  refine ⟨?_, fun c hc => ?_, fun e => ?_⟩
  · rw [hsettles.exists_result_iff, List.findSome?_eq_none_iff]
    simp only [Container.offence?_eq_none_iff]
  · obtain ⟨hstrays, rules, hrules, hwritten⟩ := hsettles.of_result hc
    rw [hrules]
    exact ⟨hwritten, hstrays⟩
  · rw [hsettles.result_eq_error_iff, List.findSome?_eq_some_iff]
    simp only [Container.offence?_eq_none_iff, Container.offence?_eq_some_iff]

/-- A rule for the night, with an item that is not understood in the rule within it. -/
def nightRule : Container where
  name := "hour > 20"
  members := [.assignment "Node" " 7" ⟨33, 42⟩,
    .container "asleep" [.item "snore" ⟨52, 58⟩, .item "Rerun" ⟨59, 65⟩] ⟨43, 67⟩ ⟨43, 49⟩]
  span := ⟨19, 69⟩
  nameSpan := ⟨19, 30⟩

/-- A watchman with a rule and an item that says nothing, and one whose inner rule has no
condition. -/
def watchman : Container :=
  ⟨"watchman", [.item "tall" ⟨11, 16⟩, .ofContainer nightRule], ⟨0, 71⟩, ⟨0, 8⟩⟩

def sleeper : Container where
  name := "sleeper"
  members := [.container "true" [.container "hour >" [] ⟨19, 29⟩ ⟨19, 27⟩] ⟨10, 31⟩ ⟨10, 16⟩]
  span := ⟨0, 33⟩
  nameSpan := ⟨0, 7⟩

theorem ofContainer_rules_watchman :
    (∃ c, (ofContainer watchman).result = .ok c ∧ List.Forall₂ Rule.Written [nightRule] c.rules ∧
      (ofContainer watchman).strays = [⟨⟨11, 16⟩, .unrecognizedEntry "watchman" "tall"⟩,
        ⟨⟨52, 58⟩, .unrecognizedItem "asleep" "snore"⟩]) ∧
    ∃ error, Condition.ofText "hour >" = .error error ∧
      (ofContainer sleeper).result = .error (.condition error ⟨19, 27⟩) := by
  obtain ⟨haccepted, hrules, -⟩ := ofContainer_rules watchman
  obtain ⟨-, -, hrefused⟩ := ofContainer_rules sleeper
  have hnight : ∃ condition, Condition.ofText "hour > 20" = .ok condition := ⟨_, rfl⟩
  have hasleep : ∃ condition, Condition.ofText "asleep" = .ok condition := ⟨_, rfl⟩
  have htrue : ∃ condition, Condition.ofText "true" = .ok condition := ⟨_, rfl⟩
  have hhour : ∃ error, Condition.ofText "hour >" = .error error := ⟨_, rfl⟩
  obtain ⟨c, hc⟩ := haccepted.2
    (List.forall_mem_cons.2 ⟨hnight, List.forall_mem_singleton.2 hasleep⟩)
  obtain ⟨error, herror⟩ := hhour
  refine ⟨⟨c, hc, (hrules c hc).1, (hrules c hc).2⟩, error, herror, ?_⟩
  exact (hrefused _).2 ⟨[_], _, [], rfl, ⟨error, herror, rfl⟩, List.forall_mem_singleton.2 htrue⟩

end Character

end StoryWorld
