import StoryWorld.Proofs.Entries
import StoryWorld.Proofs.Rule.Similarity

/-!
# What an evaluation asks the world

A name is asked for where a condition reads it and no local binding hides it. What an evaluation
gives depends on the answers alone (`Character.evaluate_of_asked`), and the names asked for stand in
conditions and are no static characteristics: those are bound from the first pass on, and bindings
are never undone.
-/

namespace StoryWorld

/-! ## Questions -/

/-- The names that the evaluation of an expression asks the world for, in order. -/
def Expr.asked (s : Scope) : Expr → List String
  | literal _ => []
  | name ident => if s.locals.has ident then [] else [ident]
  | binary _ left right =>
    match left.evaluate s with
    | .ok _ => left.asked s ++ right.asked s
    | .error _ => left.asked s

namespace Effect

mutual
/-- The names that running an effect asks the world for, in order. -/
def asked (s : Scope) : Effect → List String
  | assign _ _ => []
  | nest condition effects =>
    match condition.holds s with
    | .ok true => condition.expr.asked s ++ allAsked s effects
    | _ => condition.expr.asked s
  | rerun => []

/-- The names that running effects asks the world for, in order. -/
def allAsked (s : Scope) : List Effect → List String
  | [] => []
  | e :: es =>
    match e.run s with
    | (.ok .proceed, s') => e.asked s ++ allAsked s' es
    | _ => e.asked s
end

end Effect

/-- The names that at most `fuel` passes ask the world for, in order. -/
def Rule.asked (rules : List Rule) (s : Scope) : (fuel : Nat) → List String
  | 0 => []
  | fuel + 1 =>
    match applyAll s rules with
    | (.ok .rerun, s') => Effect.allAsked s (rules.map .nesting) ++ asked rules s' fuel
    | _ => Effect.allAsked s (rules.map .nesting)

/-- The names that an evaluation asks the world for, in order. -/
def Character.asked (c : Character) (world : Attributes) (settings : Settings) : List String :=
  Rule.asked c.rules (c.scope world) settings.maxPasses

/-! ## Scopes on the way -/

variable {s : Scope} {world : Attributes}

/-- What is free after some effects was free before them. -/
theorem Scope.Reaches.free {assigned : List (String × Value)} {s' : Scope} {x : String}
    (h : s.Reaches assigned s') (hx : s'.locals.has x = false) : s.locals.has x = false := by
  rw [Bool.eq_false_iff, Ne, Entries.has_iff] at hx ⊢
  intro hbound
  rcases h.get? x with hkept | ⟨v, -, hv⟩
  · exact hx (hkept ▸ hbound)
  · exact hx ⟨v, hv⟩

theorem Effect.reaches_of_run {e : Effect} {s' : Scope} {r : Except EvalError Flow}
    (h : e.run s = (r, s')) : s.Reaches e.assignments s' := by
  have hreaches := reaches_run s e
  rwa [h] at hreaches

theorem Rule.reaches_of_applyAll {rules : List Rule} {s' : Scope} {r : Except EvalError Flow}
    (h : applyAll s rules = (r, s')) : s.Reaches (allAssignments rules) s' := by
  have hreaches := reaches_applyAll rules s
  rwa [h] at hreaches

/-! ## Only the answers matter -/

/-- The scope before another world. -/
def Scope.before (s : Scope) (world : Attributes) : Scope := { s with world := world }

theorem Expr.evaluate_before {e : Expr} (h : ∀ name ∈ e.asked s, s.world name = world name) :
    e.evaluate (s.before world) = e.evaluate s := by
  induction e with
  | literal v => rfl
  | name ident =>
    have hlookup : (s.before world).lookup? ident = s.lookup? ident := by
      rw [asked] at h
      split at h
      · next hbound =>
        obtain ⟨v, hv⟩ := Entries.has_iff.1 hbound
        simp [Scope.lookup?, Scope.before, hv]
      · rw [Scope.lookup?, Scope.lookup?, h ident (List.mem_singleton.2 rfl)]
        rfl
    rw [evaluate, evaluate, Scope.lookup, Scope.lookup, hlookup]
  | binary op left right ihl ihr =>
    rw [asked] at h
    split at h
    · rw [List.forall_mem_append] at h
      rw [evaluate, evaluate, ihl h.1, ihr h.2]
    · next error hleft =>
      rw [evaluate, evaluate, ihl h, hleft]
      rfl

theorem Condition.holds_before {c : Condition}
    (h : ∀ name ∈ c.expr.asked s, s.world name = world name) :
    c.holds (s.before world) = c.holds s := by
  rw [holds, holds, Expr.evaluate_before h]

namespace Effect

mutual
/-- Another world that answers alike gives the same flow and the same bindings. -/
theorem run_before : ∀ (e : Effect) {s : Scope}, (∀ name ∈ e.asked s, s.world name = world name) →
    e.run (s.before world) = ((e.run s).1, (e.run s).2.before world)
  | assign _ _, _, _ => rfl
  | nest condition es, s, h => by
    rw [asked] at h
    split at h
    · next hholds =>
      rw [List.forall_mem_append] at h
      have hes := runAll_before es h.2
      simp only [run, Condition.holds_before h.1, hholds, hes]
    · next hother =>
      simp only [run, Condition.holds_before h]
      split
      · rfl
      · rfl
      · next hholds => exact absurd hholds hother
  | rerun, _, _ => rfl

theorem runAll_before : ∀ (es : List Effect) {s : Scope},
    (∀ name ∈ allAsked s es, s.world name = world name) →
      runAll (s.before world) es = ((runAll s es).1, (runAll s es).2.before world)
  | [], _, _ => rfl
  | e :: es, s, h => by
    rw [allAsked] at h
    split at h
    · next s' hrun =>
      rw [List.forall_mem_append] at h
      have hworld : s'.world = s.world := (reaches_of_run hrun).world
      have hes := runAll_before es (s := s') fun name hname => hworld ▸ h.2 name hname
      simp only [runAll, run_before e h.1, hrun, hes]
    · next hother =>
      simp only [runAll, run_before e h]
      rcases hrun : e.run s with ⟨_ | _ | _, s'⟩
      · rfl
      · exact absurd hrun (hother s')
      · rfl
end

end Effect

theorem Rule.applyAll_before {rules : List Rule}
    (h : ∀ name ∈ Effect.allAsked s (rules.map .nesting), s.world name = world name) :
    applyAll (s.before world) rules = ((applyAll s rules).1, (applyAll s rules).2.before world) := by
  rw [applyAll_eq_runAll, applyAll_eq_runAll, Effect.runAll_before _ h]

theorem Rule.repeatPasses_before {rules : List Rule} {fuel : Nat}
    (h : ∀ name ∈ asked rules s fuel, s.world name = world name) (made : Nat) :
    repeatPasses rules (s.before world) made fuel = repeatPasses rules s made fuel := by
  induction fuel generalizing s made with
  | zero => rfl
  | succ fuel ih =>
    rw [asked] at h
    split at h
    · next s' hpass =>
      rw [List.forall_mem_append] at h
      have hworld : s'.world = s.world := (reaches_of_applyAll hpass).world
      have hrest := ih (s := s') (fun name hname => hworld ▸ h.2 name hname) (made + 1)
      simp only [repeatPasses, applyAll_before h.1, hpass, hrest]
    · next hother =>
      simp only [repeatPasses, applyAll_before h]
      rcases hpass : applyAll s rules with ⟨_ | _ | _, s'⟩
      · rfl
      · rfl
      · exact absurd hpass (hother s')

/-! ## What can be asked for -/

variable {x : String}

theorem Expr.of_mem_asked {e : Expr} (h : x ∈ e.asked s) :
    x ∈ e.names ∧ s.locals.has x = false := by
  induction e with
  | literal v => cases h
  | name ident =>
    rw [asked] at h
    split at h
    · cases h
    · next hfree =>
      rw [List.mem_singleton.1 h]
      exact ⟨List.mem_singleton.2 rfl, Bool.eq_false_iff.2 hfree⟩
  | binary op left right ihl ihr =>
    rw [names, List.mem_append]
    rw [asked] at h
    split at h
    · rcases List.mem_append.1 h with h | h
      · exact ⟨.inl (ihl h).1, (ihl h).2⟩
      · exact ⟨.inr (ihr h).1, (ihr h).2⟩
    · exact ⟨.inl (ihl h).1, (ihl h).2⟩

namespace Effect

mutual
theorem of_mem_asked : ∀ (e : Effect) {s : Scope}, x ∈ e.asked s →
    x ∈ e.names ∧ s.locals.has x = false
  | assign _ _, _, h => nomatch h
  | nest condition es, s, h => by
    have hcondition (h : x ∈ condition.expr.asked s) :
        x ∈ condition.expr.names ++ allNames es ∧ s.locals.has x = false :=
      ⟨List.mem_append_left _ (Expr.of_mem_asked h).1, (Expr.of_mem_asked h).2⟩
    rw [names]
    rw [asked] at h
    split at h
    · rcases List.mem_append.1 h with h | h
      · exact hcondition h
      · obtain ⟨hmem, hfree⟩ := of_mem_allAsked es h
        exact ⟨List.mem_append_right _ hmem, hfree⟩
    · exact hcondition h
  | rerun, _, h => nomatch h

theorem of_mem_allAsked : ∀ (es : List Effect) {s : Scope}, x ∈ allAsked s es →
    x ∈ allNames es ∧ s.locals.has x = false
  | [], _, h => nomatch h
  | e :: es, s, h => by
    have hfirst (h : x ∈ e.asked s) : x ∈ e.names ++ allNames es ∧ s.locals.has x = false :=
      ⟨List.mem_append_left _ (of_mem_asked e h).1, (of_mem_asked e h).2⟩
    rw [allNames]
    rw [allAsked] at h
    split at h
    · next s' hrun =>
      rcases List.mem_append.1 h with h | h
      · exact hfirst h
      · obtain ⟨hmem, hfree⟩ := of_mem_allAsked es h
        exact ⟨List.mem_append_right _ hmem, (reaches_of_run hrun).free hfree⟩
    · exact hfirst h
end

end Effect

theorem Rule.of_mem_asked {rules : List Rule} {fuel : Nat} (h : x ∈ asked rules s fuel) :
    x ∈ allNames rules ∧ s.locals.has x = false := by
  induction fuel generalizing s with
  | zero => cases h
  | succ fuel ih =>
    rw [asked] at h
    split at h
    · next s' hpass =>
      rcases List.mem_append.1 h with h | h
      · exact Effect.of_mem_allAsked _ h
      · exact ⟨(ih h).1, (reaches_of_applyAll hpass).free (ih h).2⟩
    · exact Effect.of_mem_allAsked _ h

/-! ## Characters -/

namespace Character

variable {c : Character} {settings : Settings} {world' : Attributes}

/-- Worlds that answer alike what an evaluation asks give it the same outcome. -/
theorem evaluate_of_asked (h : ∀ x ∈ c.asked world settings, world x = world' x) :
    c.evaluate world settings = c.evaluate world' settings :=
  (Rule.repeatPasses_before (s := c.scope world) h 0).symm

theorem of_mem_asked (h : x ∈ c.asked world settings) :
    x ∈ Rule.allNames c.rules ∧ x ∉ c.characteristics.keys := by
  obtain ⟨hmem, hfree⟩ := Rule.of_mem_asked h
  rw [Bool.eq_false_iff, Ne, Entries.has_iff_mem_keys] at hfree
  exact ⟨hmem, hfree⟩

/-- An evaluation asks the world for names in the conditions of its rules only, and in no pass for
a static characteristic. So worlds that agree on those names give it the same outcome: the same
values and passes, or the same error. -/
theorem evaluate_of_agreeing_worlds (c : Character) (settings : Settings) (world : Attributes) :
    (∀ world' : Attributes,
      (∀ x ∈ Rule.allNames c.rules, x ∉ c.characteristics.keys → world x = world' x) →
        c.evaluate world settings = c.evaluate world' settings) ∧
    (∀ x ∈ c.asked world settings, x ∈ Rule.allNames c.rules ∧ x ∉ c.characteristics.keys) ∧
    ∀ world' : Attributes, (∀ x ∈ c.asked world settings, world x = world' x) →
      c.evaluate world settings = c.evaluate world' settings := by
  refine ⟨fun world' hagree => ?_, fun x hx => of_mem_asked hx, fun world' => evaluate_of_asked⟩
  refine evaluate_of_asked fun x hx => ?_
  obtain ⟨hmem, hfree⟩ := of_mem_asked hx
  exact hagree x hmem hfree

/-- At night Bob goes to the place that he calls home, and looks around once more. -/
def sleepy : Character where
  name := "Bob"
  characteristics := [("home", .text "inn")]
  rules := [⟨⟨"hour < 6", .binary .lt (.name "hour") (.literal (.int 6))⟩,
    [.nest ⟨"home != place", .binary .ne (.name "home") (.name "place")⟩
      [.assign "place" (.text "inn"), .rerun]]⟩]

/-- A world at three in the morning, with an attribute that Bob has for himself. -/
def night (home : String) : Attributes := fun name =>
  if name = "hour" then some (.int 3)
  else if name = "place" then some (.text "cave")
  else if name = "home" then some (.text home)
  else none

theorem evaluate_sleepy :
    sleepy.evaluate (night "cave") {} =
        .ok ⟨[("home", .text "inn"), ("place", .text "inn")], 2, false⟩ ∧
      sleepy.evaluate (night "cave") {} = sleepy.evaluate (night "inn") {} := by
  have hagree : ∀ x ∈ Rule.allNames sleepy.rules, x ∉ sleepy.characteristics.keys →
      night "cave" x = night "inn" x := by decide
  exact ⟨rfl, (evaluate_of_agreeing_worlds sleepy {} (night "cave")).1 _ hagree⟩

end Character

end StoryWorld
