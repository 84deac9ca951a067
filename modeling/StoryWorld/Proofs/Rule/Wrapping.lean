import StoryWorld.Proofs.Rule.Assignments

/-!
# Rules that always hold

A rule that always holds is worth the effects in it: it may stand around them or give way to them at
any place in a rule tree, and a character may have one such rule around all its rules.
-/

namespace StoryWorld

namespace Effect

/-- One rule that always holds, at any depth and place, gives way to its effects. -/
inductive Unwraps : List Effect → List Effect → Prop
  | here (inner rest : List Effect) : Unwraps (.nest .always inner :: rest) (inner ++ rest)
  | inside (condition : Condition) (rest : List Effect) (h : Unwraps es es') :
    Unwraps (.nest condition es :: rest) (.nest condition es' :: rest)
  | later (e : Effect) (h : Unwraps es es') : Unwraps (e :: es) (e :: es')

theorem Unwraps.append_left (before : List Effect) (h : Unwraps es es') :
    Unwraps (before ++ es) (before ++ es') := by
  induction before with
  | nil => exact h
  | cons e before ih => exact .later e ih

/-! ## Runs -/

theorem run_nest_always (s : Scope) (inner : List Effect) :
    (nest .always inner).run s = runAll s inner := rfl

theorem runAll_of_unwraps (h : Unwraps es es') (s : Scope) : runAll s es = runAll s es' := by
  induction h generalizing s with
  | here inner rest =>
    rcases hinner : runAll s inner with ⟨_ | _ | _, s'⟩ <;>
      simp only [runAll_append, runAll, run_nest_always, hinner]
  | inside condition rest _ ih => simp only [runAll, run, ih]
  | later e _ ih => simp only [runAll, ih]

/-! ## Nodes that are assigned -/

theorem allAssignedNodes_append (es es' : List Effect) :
    allAssignedNodes (es ++ es') = allAssignedNodes es ++ allAssignedNodes es' := by
  induction es with
  | nil => rfl
  | cons e es ih => rw [List.cons_append, allAssignedNodes, ih, allAssignedNodes, List.append_assoc]

theorem allAssignedNodes_of_unwraps (h : Unwraps es es') :
    allAssignedNodes es = allAssignedNodes es' := by
  induction h with
  | here inner rest => rw [allAssignedNodes, assignedNodes, allAssignedNodes_append]
  | inside condition rest _ ih => rw [allAssignedNodes, allAssignedNodes, assignedNodes, ih]; rfl
  | later e _ ih => rw [allAssignedNodes, allAssignedNodes, ih]

end Effect

/-! ## Names that are noted -/

theorem noteName_of_mem (h : name ∈ names) : noteName names name = names :=
  if_pos (List.contains_iff_mem.2 h)

/-- To note names that were noted apart is to note them as they came. -/
theorem foldl_noteName_foldl (noted acc names : List String) :
    (names.foldl noteName acc).foldl noteName noted = (acc ++ names).foldl noteName noted := by
  induction names generalizing acc with
  | nil => rw [List.foldl_nil, List.append_nil]
  | cons name names ih =>
    rw [List.foldl_cons, ih, List.foldl_append, List.foldl_append, List.foldl_cons]
    congr 1
    by_cases hmem : name ∈ acc
    · rw [noteName_of_mem hmem, noteName_of_mem (mem_foldl_noteName.2 (.inr hmem))]
    · have hnew : noteName acc name = acc ++ [name] :=
        if_neg fun hcontains => hmem (List.contains_iff_mem.1 hcontains)
      rw [hnew, List.foldl_append]
      rfl

namespace Rule

/-- The rule that always holds, around rules. -/
def wrapping (rules : List Rule) : Rule := ⟨.always, rules.map .nesting⟩

theorem unwraps_wrapping (before rules : List Rule) :
    Effect.Unwraps ((before ++ [wrapping rules]).map .nesting)
      ((before ++ rules).map .nesting) := by
  have hhere := Effect.Unwraps.here (rules.map .nesting) []
  rw [List.append_nil] at hhere
  rw [List.map_append, List.map_append]
  exact hhere.append_left _

theorem applyAll_wrapping (before rules : List Rule) (s : Scope) :
    applyAll s (before ++ [wrapping rules]) = applyAll s (before ++ rules) := by
  rw [applyAll_eq_runAll, applyAll_eq_runAll,
    Effect.runAll_of_unwraps (unwraps_wrapping before rules)]

theorem repeatPasses_congr {rules rules' : List Rule}
    (h : ∀ s, applyAll s rules = applyAll s rules') (s : Scope) (made fuel : Nat) :
    repeatPasses rules s made fuel = repeatPasses rules' s made fuel := by
  induction fuel generalizing s made with
  | zero => rfl
  | succ fuel ih => simp only [repeatPasses, h, ih]

end Rule

namespace Character

/-- The character with more rules, added in order. -/
def addRules (c : Character) (rules : List Rule) : Character := rules.foldl addRule c

theorem candidates_addRule (c : Character) (r : Rule) : (c.addRule r).candidates =
    (Effect.allAssignedNodes r.effects).foldl noteName c.candidates :=
  foldl_noteName_foldl c.candidates [] (Effect.allAssignedNodes r.effects)

theorem addRules_eq (c : Character) (rules : List Rule) :
    c.addRules rules = { c with
      rules := c.rules ++ rules
      candidates := (Effect.allAssignedNodes (rules.map .nesting)).foldl noteName
        c.candidates } := by
  induction rules generalizing c with
  | nil =>
    rw [List.append_nil]
    rfl
  | cons r rules ih =>
    rw [addRules, List.foldl_cons, ← addRules, ih, candidates_addRule, addRule, List.map_cons,
      Effect.allAssignedNodes, List.foldl_append, List.append_assoc]
    rfl

end Character

/-- Rules that always hold are transparent. Where one gives way to its effects a rule does the same
from every scope, down to what a failure leaves, and may assign the same nodes. A character that has
one around its rules has the same candidates and is evaluated to the same outcome. -/
theorem Rule.wrapping_transparent :
    (∀ (condition : Condition) {es es' : List Effect}, Effect.Unwraps es es' →
      (∀ s, (⟨condition, es⟩ : Rule).apply s = (⟨condition, es'⟩ : Rule).apply s) ∧
      (⟨condition, es⟩ : Rule).nodeNames = (⟨condition, es'⟩ : Rule).nodeNames) ∧
    ∀ (c : Character) (rules : List Rule),
      (c.addRule (wrapping rules)).candidates = (c.addRules rules).candidates ∧
      ∀ world settings, (c.addRule (wrapping rules)).evaluate world settings =
        (c.addRules rules).evaluate world settings := by
  constructor
  · intro condition es es' h
    constructor
    · intro s
      simp only [apply, Effect.nesting, Effect.run, Effect.runAll_of_unwraps h]
    · rw [nodeNames, nodeNames, Effect.allAssignedNodes_of_unwraps h]
  · intro c rules
    rw [Character.addRules_eq, Character.candidates_addRule]
    refine ⟨rfl, fun world settings => ?_⟩
    exact repeatPasses_congr (applyAll_wrapping c.rules rules) _ 0 settings.maxPasses

/-- The guard who goes to the gate at an alarm, does something there, and goes to the inn. -/
def Rule.guarding (atGate : List Effect) : Rule :=
  ⟨.always, [.nest ⟨"alarm", .name "alarm"⟩
    (.assign "NODE" (.text "gate") :: (atGate ++ [.assign "NODE" (.text "inn")]))]⟩

/-- To ask for another pass from inside a rule that always holds is to ask for it: the guard stays at
the gate. -/
theorem Rule.apply_guarding :
    (guarding [.nest .always [.assign "alarm" (.bool false), .rerun]]).apply
        ⟨[("alarm", .bool true)], .none⟩ =
      (guarding [.assign "alarm" (.bool false), .rerun]).apply ⟨[("alarm", .bool true)], .none⟩ ∧
    (guarding [.assign "alarm" (.bool false), .rerun]).apply ⟨[("alarm", .bool true)], .none⟩ =
      (.ok .rerun, ⟨[("alarm", .bool false), ("NODE", .text "gate")], .none⟩) := by
  have hunwraps : Effect.Unwraps
      (guarding [.nest .always [.assign "alarm" (.bool false), .rerun]]).effects
      (guarding [.assign "alarm" (.bool false), .rerun]).effects :=
    .inside ⟨"alarm", .name "alarm"⟩ [] (.later (.assign "NODE" (.text "gate"))
      (.here [.assign "alarm" (.bool false), .rerun] [.assign "NODE" (.text "inn")]))
  exact ⟨(wrapping_transparent.1 .always hunwraps).1 _, rfl⟩

end StoryWorld
