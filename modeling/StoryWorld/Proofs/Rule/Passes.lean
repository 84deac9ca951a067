import StoryWorld.Proofs.Rule.Similarity

/-!
# The passes over a character's rules

Passes are counted from any scope, whatever they ask for, and an evaluation is cut off where the
first of them asks for no other.
-/

namespace StoryWorld

namespace Rule

variable {rules : List Rule} {s s' : Scope}

/-- The scope that `n` passes leave. -/
def scopeAfter (rules : List Rule) (s : Scope) : Nat → Scope
  | 0 => s
  | n + 1 => (applyAll (scopeAfter rules s n) rules).2

/-- What the pass after `n` others asks for. -/
def flowAfter (rules : List Rule) (s : Scope) (n : Nat) : Except EvalError Flow :=
  (applyAll (scopeAfter rules s n) rules).1

/-- The pass after `n` others is the first that does not ask for another. -/
structure StopsAfter (rules : List Rule) (s : Scope) (n : Nat) : Prop where
  before : ∀ i < n, flowAfter rules s i = .ok .rerun
  stop : flowAfter rules s n ≠ .ok .rerun

theorem applyAll_scopeAfter (n : Nat) :
    applyAll (scopeAfter rules s n) rules = (flowAfter rules s n, scopeAfter rules s (n + 1)) :=
  rfl

theorem scopeAfter_add (m n : Nat) :
    scopeAfter rules s (m + n) = scopeAfter rules (scopeAfter rules s m) n := by
  induction n with
  | zero => rfl
  | succ n ih => rw [← Nat.add_assoc, scopeAfter, ih, scopeAfter]

theorem flowAfter_add (m n : Nat) :
    flowAfter rules s (m + n) = flowAfter rules (scopeAfter rules s m) n := by
  rw [flowAfter, scopeAfter_add, flowAfter]

theorem reaches_scopeAfter (n : Nat) :
    s.Reaches (allAssignments rules) (scopeAfter rules s n) := by
  induction n with
  | zero => exact .refl
  | succ n ih => exact ih.trans (reaches_applyAll rules _)

/-- Passes from similar scopes ask for the same. -/
theorem flowAfter_eq_of_similar {names : Set String} (hR : Scope.Similarity names R) (h : R s s')
    (hrules : ∀ name ∈ allNames rules, name ∈ names) (n : Nat) :
    flowAfter rules s n = flowAfter rules s' n := by
  have hscope : R (scopeAfter rules s n) (scopeAfter rules s' n) := by
    induction n with
    | zero => exact h
    | succ n ih => exact (hR.applyAll ih rules hrules).2
  exact (hR.applyAll hscope rules hrules).1

theorem forall_rerun_or_stopsAfter (rules : List Rule) (s : Scope) (fuel : Nat) :
    (∀ i < fuel, flowAfter rules s i = .ok .rerun) ∨ ∃ n < fuel, StopsAfter rules s n := by
  induction fuel with
  | zero => exact .inl fun i hi => absurd hi (Nat.not_lt_zero i)
  | succ fuel ih =>
    rcases ih with hall | ⟨n, hn, hstop⟩
    · by_cases hlast : flowAfter rules s fuel = .ok .rerun
      · refine .inl fun i hi => ?_
        rcases Nat.lt_succ_iff_lt_or_eq.1 hi with hi | rfl
        · exact hall i hi
        · exact hlast
      · exact .inr ⟨fuel, Nat.lt_succ_self fuel, hall, hlast⟩
    · exact .inr ⟨n, Nat.lt_succ_of_lt hn, hstop⟩

/-! ## Evaluations -/

/-- Passes that all ask for another are made, and the rest of the evaluation follows them. -/
theorem repeatPasses_add (made fuel : Nat) (h : ∀ i < n, flowAfter rules s i = .ok .rerun) :
    repeatPasses rules s made (n + fuel) =
      repeatPasses rules (scopeAfter rules s n) (made + n) fuel := by
  -- the last of the `n` passes is split off, where `scopeAfter` adds it
  induction n generalizing fuel with
  | zero => rw [Nat.zero_add, scopeAfter, Nat.add_zero]
  | succ n ih =>
    have hn : flowAfter rules s n = .ok .rerun := h n (Nat.lt_succ_self n)
    calc
      repeatPasses rules s made (n + 1 + fuel)
        = repeatPasses rules s made (n + (fuel + 1)) := by rw [Nat.add_right_comm, Nat.add_assoc]
      _ = repeatPasses rules (scopeAfter rules s n) (made + n) (fuel + 1) :=
        ih (fuel + 1) fun i hi => h i (Nat.lt_succ_of_lt hi)
      _ = repeatPasses rules (scopeAfter rules s (n + 1)) (made + n + 1) fuel := by
        rw [repeatPasses, applyAll_scopeAfter, hn]

theorem repeatPasses_of_forall_rerun (made : Nat)
    (h : ∀ i < fuel, flowAfter rules s i = .ok .rerun) :
    repeatPasses rules s made fuel = .ok ⟨(scopeAfter rules s fuel).locals, made + fuel, true⟩ :=
  repeatPasses_add made 0 h

theorem repeatPasses_of_stopsAfter (made : Nat) (h : StopsAfter rules s n) (hn : n < fuel) :
    repeatPasses rules s made fuel = (flowAfter rules s n).map fun _ =>
      ⟨(scopeAfter rules s (n + 1)).locals, made + (n + 1), false⟩ := by
  obtain ⟨rest, rfl⟩ : ∃ rest, fuel = n + (rest + 1) := ⟨fuel - n - 1, by omega⟩
  rw [repeatPasses_add made (rest + 1) h.before, repeatPasses, applyAll_scopeAfter]
  rcases hflow : flowAfter rules s n with e | flow
  · rfl
  · cases flow with
    | proceed => rfl
    | rerun => exact absurd hflow h.stop

end Rule

namespace Character

variable {c : Character} {world : Attributes} {settings : Settings}

theorem evaluate_of_forall_rerun
    (h : ∀ i < settings.maxPasses, Rule.flowAfter c.rules (c.scope world) i = .ok .rerun) :
    c.evaluate world settings =
      .ok ⟨(Rule.scopeAfter c.rules (c.scope world) settings.maxPasses).locals,
        settings.maxPasses, true⟩ := by
  have hrun := Rule.repeatPasses_of_forall_rerun 0 h
  rwa [Nat.zero_add] at hrun

theorem evaluate_of_stopsAfter (h : Rule.StopsAfter c.rules (c.scope world) n)
    (hn : n < settings.maxPasses) :
    c.evaluate world settings = (Rule.flowAfter c.rules (c.scope world) n).map fun _ =>
      ⟨(Rule.scopeAfter c.rules (c.scope world) (n + 1)).locals, n + 1, false⟩ := by
  have hrun := Rule.repeatPasses_of_stopsAfter 0 h hn
  rwa [Nat.zero_add] at hrun

/-- An evaluation is cut short, with every pass asking for another, or it ends with the first pass
that asks for no other. -/
theorem evaluate_cases (c : Character) (world : Attributes) (settings : Settings) :
    ((∀ i < settings.maxPasses, Rule.flowAfter c.rules (c.scope world) i = .ok .rerun) ∧
      c.evaluate world settings =
        .ok ⟨(Rule.scopeAfter c.rules (c.scope world) settings.maxPasses).locals,
          settings.maxPasses, true⟩) ∨
    ∃ n < settings.maxPasses, Rule.StopsAfter c.rules (c.scope world) n ∧
      c.evaluate world settings = (Rule.flowAfter c.rules (c.scope world) n).map fun _ =>
        ⟨(Rule.scopeAfter c.rules (c.scope world) (n + 1)).locals, n + 1, false⟩ := by
  rcases Rule.forall_rerun_or_stopsAfter c.rules (c.scope world) settings.maxPasses with
    hall | ⟨n, hn, hstop⟩
  · exact .inl ⟨hall, evaluate_of_forall_rerun hall⟩
  · exact .inr ⟨n, hn, hstop, evaluate_of_stopsAfter hstop hn⟩

theorem evaluate_eq_ok {e : Evaluation} (h : c.evaluate world settings = .ok e) :
    ((∀ i < settings.maxPasses, Rule.flowAfter c.rules (c.scope world) i = .ok .rerun) ∧
      e = ⟨(Rule.scopeAfter c.rules (c.scope world) settings.maxPasses).locals,
        settings.maxPasses, true⟩) ∨
    ∃ n < settings.maxPasses, Rule.StopsAfter c.rules (c.scope world) n ∧
      Rule.flowAfter c.rules (c.scope world) n = .ok .proceed ∧
      e = ⟨(Rule.scopeAfter c.rules (c.scope world) (n + 1)).locals, n + 1, false⟩ := by
  rcases evaluate_cases c world settings with ⟨hall, hev⟩ | ⟨n, hn, hstop, hev⟩
  · rw [hev] at h
    cases h
    exact .inl ⟨hall, rfl⟩
  · rw [hev] at h
    rcases hflow : Rule.flowAfter c.rules (c.scope world) n with e' | flow
    · rw [hflow] at h
      cases h
    · rw [hflow] at h
      cases h
      cases flow with
      | proceed => exact .inr ⟨n, hn, hstop, hflow, rfl⟩
      | rerun => exact absurd hflow hstop.stop

theorem evaluate_eq_error (h : c.evaluate world settings = .error err) :
    ∃ n < settings.maxPasses, Rule.StopsAfter c.rules (c.scope world) n ∧
      Rule.flowAfter c.rules (c.scope world) n = .error err := by
  rcases evaluate_cases c world settings with ⟨_, hev⟩ | ⟨n, hn, hstop, hev⟩
  · rw [hev] at h
    cases h
  · rw [hev] at h
    rcases hflow : Rule.flowAfter c.rules (c.scope world) n with err' | flow
    · rw [hflow] at h
      cases h
      exact ⟨n, hn, hstop, hflow⟩
    · rw [hflow] at h
      cases h

end Character

end StoryWorld
