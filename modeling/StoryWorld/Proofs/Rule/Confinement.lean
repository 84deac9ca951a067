import StoryWorld.Proofs.Rule.Candidates

/-!
# What an evaluation leaves alone

An evaluation binds what its rules assign and nothing else. Static keys stay bound, keys that no
effect assigns keep their static values, and where no effect asks for another pass the first one is
the last.
-/

namespace StoryWorld

/-! ## The parts of a rule tree -/

namespace Effect

mutual
/-- The effects that an effect is made of, itself among them. -/
def parts : Effect → List Effect
  | assign key v => [assign key v]
  | nest condition effects => nest condition effects :: allParts effects
  | rerun => [rerun]

/-- The effects that effects are made of, themselves among them. -/
def allParts : List Effect → List Effect
  | [] => []
  | e :: es => e.parts ++ allParts es
end

mutual
theorem mem_assignments_iff : ∀ e : Effect, (key, v) ∈ e.assignments ↔ assign key v ∈ e.parts
  | assign _ _ => by simp [assignments, parts]
  | nest _ es => by
    simp only [assignments, parts, List.mem_cons, reduceCtorEq, false_or]
    exact mem_allAssignments_iff es
  | rerun => by simp [assignments, parts]

theorem mem_allAssignments_iff :
    ∀ es : List Effect, (key, v) ∈ allAssignments es ↔ assign key v ∈ allParts es
  | [] => by simp [allAssignments, allParts]
  | e :: es => by
    rw [allAssignments, allParts, List.mem_append, List.mem_append, mem_assignments_iff e,
      mem_allAssignments_iff es]
end

mutual
/-- What has no rerun in it asks for no other pass. -/
theorem flow_run_ne_rerun (s : Scope) :
    ∀ e : Effect, rerun ∉ e.parts → (e.run s).1 ≠ .ok .rerun
  | assign _ _, _ => nofun
  | nest condition es, h => by
    have hes : rerun ∉ allParts es := fun hmem => h (List.mem_cons_of_mem _ hmem)
    rw [run]
    split
    · exact nofun
    · exact nofun
    · exact flow_runAll_ne_rerun s es hes
  | rerun, h => absurd (List.mem_singleton.2 rfl) h

theorem flow_runAll_ne_rerun (s : Scope) :
    ∀ es : List Effect, rerun ∉ allParts es → (runAll s es).1 ≠ .ok .rerun
  | [], _ => nofun
  | e :: es, h => by
    rw [allParts, List.mem_append, not_or] at h
    have hfirst : (e.run s).1 ≠ .ok .rerun := flow_run_ne_rerun s e h.1
    rw [runAll]
    split
    · next s' _ => exact flow_runAll_ne_rerun s' es h.2
    · exact hfirst
end

end Effect

namespace Rule

/-- The effects that rules are made of, the rules among them. -/
def allParts (rules : List Rule) : List Effect := Effect.allParts (rules.map .nesting)

theorem mem_allAssignments_iff {rules : List Rule} :
    (key, v) ∈ allAssignments rules ↔ .assign key v ∈ allParts rules :=
  Effect.mem_allAssignments_iff _

theorem stopsAfter_zero {rules : List Rule} (h : .rerun ∉ allParts rules) (s : Scope) :
    StopsAfter rules s 0 where
  before i hi := absurd hi (Nat.not_lt_zero i)
  stop := by
    rw [flowAfter, applyAll_eq_runAll]
    exact Effect.flow_runAll_ne_rerun _ _ h

end Rule

/-! ## Evaluations -/

namespace Character

variable {c : Character} {world : Attributes} {settings : Settings} {e : Evaluation}

theorem passes_of_rerun_notMem (h : c.evaluate world settings = .ok e)
    (hrerun : .rerun ∉ Rule.allParts c.rules) (hcap : 1 ≤ settings.maxPasses) :
    e.passes = 1 ∧ e.capped = false := by
  have hstop : Rule.StopsAfter c.rules (c.scope world) 0 := Rule.stopsAfter_zero hrerun _
  rw [evaluate_of_stopsAfter hstop hcap] at h
  rcases hflow : Rule.flowAfter c.rules (c.scope world) 0 with error | flow
  · rw [hflow] at h
    cases h
  · rw [hflow] at h
    cases h
    exact ⟨rfl, rfl⟩

/-- What an evaluation binds was bound before or is assigned by an effect in its rules. No static
key is lost, a key that no effect assigns is as it was, and rules without a rerun are through after
one pass. -/
theorem evaluate_confined (h : c.evaluate world settings = .ok e) :
    (∀ key v, c.characteristics.get? key = some v → ∃ v', e.values.get? key = some v') ∧
    (∀ key v, e.values.get? key = some v →
      c.characteristics.get? key = some v ∨ .assign key v ∈ Rule.allParts c.rules) ∧
    (∀ key, (∀ v, .assign key v ∉ Rule.allParts c.rules) →
      e.values.get? key = c.characteristics.get? key) ∧
    (.rerun ∉ Rule.allParts c.rules → 1 ≤ settings.maxPasses →
      e.passes = 1 ∧ e.capped = false) := by
  have hkey (key : String) : e.values.get? key = c.characteristics.get? key ∨
      ∃ v, .assign key v ∈ Rule.allParts c.rules ∧ e.values.get? key = some v := by
    refine ((reaches_evaluate h).get? key).imp_right ?_
    rintro ⟨v, hmem, hv⟩
    exact ⟨v, Rule.mem_allAssignments_iff.1 hmem, hv⟩
  refine ⟨?_, ?_, ?_, passes_of_rerun_notMem h⟩
  · intro key v hstatic
    rcases hkey key with hkept | ⟨v', -, hv'⟩
    · exact ⟨v, hkept.trans hstatic⟩
    · exact ⟨v', hv'⟩
  · intro key v hv
    rcases hkey key with hkept | ⟨v', hmem, hv'⟩
    · exact .inl (hkept.symm.trans hv)
    · rw [hv'] at hv
      cases hv
      exact .inr hmem
  · intro key hfree
    rcases hkey key with hkept | ⟨v', hmem, -⟩
    · exact hkept
    · exact absurd hmem (hfree v')

/-- Tired Ann goes to bed: the second condition reads what the first rule has just bound. -/
def tired : Character where
  name := "Ann"
  characteristics := [("NAME", .text "Ann"), ("mood", .int 0)]
  rules := [⟨⟨"mood == 0", .binary .eq (.name "mood") (.literal (.int 0))⟩,
    [.assign "mood" (.int 1), .nest ⟨"mood", .name "mood"⟩ [.assign "NODE" (.text "inn")]]⟩]

theorem evaluate_tired : ∃ e, tired.evaluate .none {} = .ok e ∧
    (∃ v, e.values.get? "mood" = some v) ∧
    (tired.characteristics.get? "NODE" = some (.text "inn") ∨
      .assign "NODE" (.text "inn") ∈ Rule.allParts tired.rules) ∧
    e.values.get? "NAME" = tired.characteristics.get? "NAME" ∧ e.passes = 1 ∧
    e.capped = false := by
  have hevaluate : tired.evaluate .none {} =
      .ok ⟨[("NAME", .text "Ann"), ("mood", .int 1), ("NODE", .text "inn")], 1, false⟩ := rfl
  obtain ⟨hbound, horigin, hfree, hpasses⟩ := evaluate_confined hevaluate
  refine ⟨_, hevaluate, hbound "mood" (.int 0) rfl, horigin "NODE" (.text "inn") rfl,
    hfree "NAME" fun v => ?_, hpasses ?_ (by decide)⟩
  · simp [Rule.allParts, tired, Effect.nesting, Effect.allParts, Effect.parts]
  · simp [Rule.allParts, tired, Effect.nesting, Effect.allParts, Effect.parts]

end Character

end StoryWorld
