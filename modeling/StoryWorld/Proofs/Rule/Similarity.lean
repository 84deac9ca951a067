import Mathlib.Data.Set.Defs
import StoryWorld.Proofs.Rule.Assignments

/-!
# Scopes that conditions cannot tell apart

A run of effects reads a scope through the names in conditions and changes it by bindings only, so
a relation that bindings preserve and those names do not see is kept by whole runs, with equal
flows.
-/

namespace StoryWorld

/-! ## The names that conditions read -/

namespace Effect

mutual
/-- The names in the conditions of an effect, at any depth. -/
def names : Effect → List String
  | assign _ _ => []
  | nest condition effects => condition.expr.names ++ allNames effects
  | rerun => []

/-- The names in the conditions of effects, at any depth. -/
def allNames : List Effect → List String
  | [] => []
  | e :: es => e.names ++ allNames es
end

end Effect

/-- The names in the conditions of rules, at any depth. -/
def Rule.allNames (rules : List Rule) : List String := Effect.allNames (rules.map .nesting)

/-! ## Similarity -/

/-- `R` relates scopes that give the same values to `names`, and goes on doing so when both bind a
name to one value. -/
structure Scope.Similarity (names : Set String) (R : Scope → Scope → Prop) : Prop where
  lookup?_eq : R s s' → name ∈ names → s.lookup? name = s'.lookup? name
  set : R s s' → R (s.set key v) (s'.set key v)

namespace Scope.Similarity

variable {names : Set String} {R : Scope → Scope → Prop} {s s' : Scope}

theorem evaluate_eq (hR : Similarity names R) (h : R s s') (e : Expr)
    (he : ∀ name ∈ e.names, name ∈ names) : e.evaluate s = e.evaluate s' := by
  induction e with
  | literal v => rfl
  | name ident =>
    have hname : s.lookup? ident = s'.lookup? ident :=
      hR.lookup?_eq h (he ident (List.mem_singleton.2 rfl))
    simp only [Expr.evaluate, lookup, hname]
  | binary op left right ihl ihr =>
    have hl := ihl fun name hn => he name (List.mem_append_left _ hn)
    have hr := ihr fun name hn => he name (List.mem_append_right _ hn)
    simp only [Expr.evaluate, hl, hr]

theorem holds_eq (hR : Similarity names R) (h : R s s') (c : Condition)
    (hc : ∀ name ∈ c.expr.names, name ∈ names) : c.holds s = c.holds s' := by
  simp only [Condition.holds, hR.evaluate_eq h c.expr hc]

mutual
/-- Runs of an effect from similar scopes give one flow and similar scopes. -/
theorem run (hR : Similarity names R) : ∀ e : Effect, (∀ name ∈ e.names, name ∈ names) →
    ∀ {s s'}, R s s' → (e.run s).1 = (e.run s').1 ∧ R (e.run s).2 (e.run s').2
  | .assign _ _, _, _, _, h => ⟨rfl, hR.set h⟩
  | .nest condition es, he, s, s', h => by
    have hc : condition.holds s = condition.holds s' :=
      hR.holds_eq h condition fun name hn => he name (List.mem_append_left _ hn)
    have hes := runAll hR es (fun name hn => he name (List.mem_append_right _ hn)) h
    simp only [Effect.run, hc]
    split
    · exact ⟨rfl, h⟩
    · exact ⟨rfl, h⟩
    · exact hes
  | .rerun, _, _, _, h => ⟨rfl, h⟩

theorem runAll (hR : Similarity names R) : ∀ es : List Effect,
    (∀ name ∈ Effect.allNames es, name ∈ names) → ∀ {s s'}, R s s' →
      (Effect.runAll s es).1 = (Effect.runAll s' es).1 ∧
        R (Effect.runAll s es).2 (Effect.runAll s' es).2
  | [], _, _, _, h => ⟨rfl, h⟩
  | e :: es, hall, s, s', h => by
    obtain ⟨hflow, hscope⟩ := run hR e (fun name hn => hall name (List.mem_append_left _ hn)) h
    rcases hrun : e.run s with ⟨flow, t⟩
    rcases hrun' : e.run s' with ⟨flow', t'⟩
    rw [hrun, hrun'] at hflow hscope
    cases hflow
    simp only [Effect.runAll, hrun, hrun']
    rcases flow with _ | _ | _
    · exact ⟨rfl, hscope⟩
    · exact runAll hR es (fun name hn => hall name (List.mem_append_right _ hn)) hscope
    · exact ⟨rfl, hscope⟩
end

theorem applyAll (hR : Similarity names R) (h : R s s') (rules : List Rule)
    (hrules : ∀ name ∈ Rule.allNames rules, name ∈ names) :
    (Rule.applyAll s rules).1 = (Rule.applyAll s' rules).1 ∧
      R (Rule.applyAll s rules).2 (Rule.applyAll s' rules).2 := by
  rw [Rule.applyAll_eq_runAll, Rule.applyAll_eq_runAll]
  exact hR.runAll _ hrules h

end Scope.Similarity

end StoryWorld
