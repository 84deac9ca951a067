import StoryWorld.Character

/-!
# What the effects of rules assign

A run of effects leaves every key as it was or at a value that some effect assigns to it.
-/

namespace StoryWorld

/-! ## The assignments of a rule tree -/

namespace Effect

mutual
/-- The assignments in an effect, at any depth, in order. -/
def assignments : Effect → List (String × Value)
  | assign key v => [(key, v)]
  | nest _ effects => allAssignments effects
  | rerun => []

/-- The assignments in effects, at any depth, in order. -/
def allAssignments : List Effect → List (String × Value)
  | [] => []
  | e :: es => e.assignments ++ allAssignments es
end

mutual
theorem mem_assignedNodes_iff : ∀ e : Effect,
    name ∈ e.assignedNodes ↔ ∃ v, (Key.node, v) ∈ e.assignments ∧ v.shown = name
  | assign key v => by
    by_cases hk : key = Key.node
    · simp [assignedNodes, assignments, hk, eq_comm]
    · simp [assignedNodes, assignments, hk, Ne.symm hk]
  | nest _ es => by
    simp only [assignedNodes, assignments]
    exact mem_allAssignedNodes_iff es
  | rerun => by simp [assignedNodes, assignments]

theorem mem_allAssignedNodes_iff : ∀ es : List Effect,
    name ∈ allAssignedNodes es ↔ ∃ v, (Key.node, v) ∈ allAssignments es ∧ v.shown = name
  | [] => by simp [allAssignedNodes, allAssignments]
  | e :: es => by
    simp only [allAssignedNodes, allAssignments, List.mem_append, mem_assignedNodes_iff e,
      mem_allAssignedNodes_iff es, or_and_right, exists_or]
end

theorem allAssignments_append (es es' : List Effect) :
    allAssignments (es ++ es') = allAssignments es ++ allAssignments es' := by
  induction es with
  | nil => rfl
  | cons e es ih => rw [List.cons_append, allAssignments, ih, allAssignments, List.append_assoc]

end Effect

theorem mem_noteName : name ∈ noteName names first ↔ name ∈ names ∨ name = first := by
  unfold noteName
  split
  · next h =>
    have hfirst : first ∈ names := List.contains_iff_mem.1 h
    constructor
    · exact .inl
    · rintro (hname | rfl)
      · exact hname
      · exact hfirst
  · simp

theorem mem_foldl_noteName {noted names : List String} :
    name ∈ names.foldl noteName noted ↔ name ∈ noted ∨ name ∈ names := by
  induction names generalizing noted with
  | nil => simp
  | cons first names ih => rw [List.foldl_cons, ih, mem_noteName, List.mem_cons, or_assoc]

theorem nodup_noteName {names : List String} (h : names.Nodup) (name : String) :
    (noteName names name).Nodup := by
  unfold noteName
  split
  · exact h
  · next hnew =>
    refine List.nodup_append.2 ⟨h, List.pairwise_singleton _ name, ?_⟩
    intro name' hname' _ hmem heq
    obtain rfl := List.mem_singleton.1 hmem
    exact hnew (List.contains_iff_mem.2 (heq ▸ hname'))

theorem nodup_foldl_noteName {noted : List String} (h : noted.Nodup) (names : List String) :
    (names.foldl noteName noted).Nodup :=
  List.foldlRecOn (motive := List.Nodup) names noteName h fun _ h name _ => nodup_noteName h name

namespace Rule

/-- The assignments in rules, at any depth, in order. -/
def allAssignments (rules : List Rule) : List (String × Value) :=
  Effect.allAssignments (rules.map .nesting)

theorem allAssignments_concat (rules : List Rule) (r : Rule) :
    allAssignments (rules ++ [r]) = allAssignments rules ++ Effect.allAssignments r.effects := by
  rw [allAssignments, List.map_append, Effect.allAssignments_append, allAssignments]
  exact congrArg _ (List.append_nil _)

theorem mem_nodeNames_iff (r : Rule) :
    name ∈ r.nodeNames ↔
      ∃ v, (Key.node, v) ∈ Effect.allAssignments r.effects ∧ v.shown = name := by
  rw [nodeNames, mem_foldl_noteName, Effect.mem_allAssignedNodes_iff]
  simp

end Rule

/-! ## What a run of effects may change -/

/-- Every binding of `s'` is one of `s` or one of `assigned`, no key is lost, and the world is the
same. -/
structure Scope.Reaches (assigned : List (String × Value)) (s s' : Scope) : Prop where
  world : s'.world = s.world
  get? : ∀ key, s'.locals.get? key = s.locals.get? key ∨
    ∃ v, (key, v) ∈ assigned ∧ s'.locals.get? key = some v

namespace Scope.Reaches

variable {assigned assigned' : List (String × Value)} {s s' s'' : Scope}

theorem refl : s.Reaches assigned s := ⟨rfl, fun _ => .inl rfl⟩

theorem trans (h : s.Reaches assigned s') (h' : s'.Reaches assigned s'') :
    s.Reaches assigned s'' := by
  refine ⟨h'.world.trans h.world, fun key => ?_⟩
  rcases h'.get? key with hk' | hv
  · rw [hk']
    exact h.get? key
  · exact .inr hv

theorem mono (h : s.Reaches assigned s') (hsub : assigned ⊆ assigned') :
    s.Reaches assigned' s' := by
  refine ⟨h.world, fun key => ?_⟩
  rcases h.get? key with hk | ⟨v, hv, hk⟩
  · exact .inl hk
  · exact .inr ⟨v, hsub hv, hk⟩

theorem set : s.Reaches [(key, v)] (s.set key v) := by
  refine ⟨rfl, fun key' => ?_⟩
  by_cases hk : key' = key
  · subst hk
    exact .inr ⟨v, List.mem_singleton.2 rfl, Entries.get?_set_self ..⟩
  · exact .inl (Entries.get?_set_of_ne _ _ hk)

end Scope.Reaches

namespace Effect

mutual
theorem reaches_run (s : Scope) : ∀ e : Effect, s.Reaches e.assignments (e.run s).2
  | assign key v => by
    simp only [assignments, run]
    exact .set
  | nest condition es => by
    simp only [assignments, run]
    split
    · exact .refl
    · exact .refl
    · exact reaches_runAll s es
  | rerun => .refl

theorem reaches_runAll (s : Scope) :
    ∀ es : List Effect, s.Reaches (allAssignments es) (runAll s es).2
  | [] => .refl
  | e :: es => by
    have hfirst : s.Reaches (allAssignments (e :: es)) (e.run s).2 :=
      (reaches_run s e).mono (List.subset_append_left ..)
    simp only [runAll]
    split
    · next s' hrun =>
      rw [hrun] at hfirst
      exact hfirst.trans ((reaches_runAll s' es).mono (List.subset_append_right ..))
    · exact hfirst
end

/-- A run of more effects goes on where the first ones are through, and nowhere else. -/
theorem runAll_append (s : Scope) (es es' : List Effect) :
    runAll s (es ++ es') =
      match runAll s es with
      | (.ok .proceed, s') => runAll s' es'
      | stopped => stopped := by
  induction es generalizing s with
  | nil => rfl
  | cons e es ih =>
    simp only [List.cons_append, runAll]
    rcases e.run s with ⟨_ | _ | _, s'⟩
    · rfl
    · exact ih s'
    · rfl

end Effect

namespace Rule

/-- A pass runs its rules like effects. -/
theorem applyAll_eq_runAll (s : Scope) (rules : List Rule) :
    applyAll s rules = Effect.runAll s (rules.map .nesting) := by
  induction rules generalizing s with
  | nil => rfl
  | cons r rules ih =>
    simp only [applyAll, apply, List.map_cons, Effect.runAll]
    rcases (Effect.nesting r).run s with ⟨_ | _ | _, s'⟩
    · rfl
    · exact ih s'
    · rfl

theorem reaches_applyAll (rules : List Rule) (s : Scope) :
    s.Reaches (allAssignments rules) (applyAll s rules).2 := by
  rw [applyAll_eq_runAll]
  exact Effect.reaches_runAll s _

end Rule

end StoryWorld
