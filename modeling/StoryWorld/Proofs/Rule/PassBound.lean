import Mathlib.Algebra.Order.BigOperators.Group.Finset
import Mathlib.Data.Finset.Card
import Mathlib.Data.Fintype.BigOperators
import StoryWorld.Proofs.Rule.Passes

/-!
# A bound on the passes of an evaluation

Between passes a key holds its first value or one that is assigned to it, so the scopes are
finitely many up to their bindings. When two of them agree, the passes repeat from there and none
of them is the last.
-/

namespace StoryWorld

/-! ## Scopes with the same bindings -/

/-- The same world, and the same value for every local name. -/
structure Scope.Agrees (s s' : Scope) : Prop where
  world : s.world = s'.world
  get? : ∀ key, s.locals.get? key = s'.locals.get? key

theorem Scope.similarity_agrees : Similarity Set.univ Scope.Agrees where
  lookup?_eq {s s' name} h _ := by rw [lookup?, lookup?, h.world, h.get?]
  set {s s' key v} h := by
    refine ⟨h.world, fun key' => ?_⟩
    by_cases hk : key' = key
    · subst hk
      rw [Scope.set, Scope.set, Entries.get?_set_self, Entries.get?_set_self]
    · rw [Scope.set, Scope.set, Entries.get?_set_of_ne _ _ hk, Entries.get?_set_of_ne _ _ hk]
      exact h.get? key'

namespace Rule

variable {rules : List Rule} {s s₁ s₂ : Scope}

theorem flowAfter_eq_of_agrees (h : s₁.Agrees s₂) (n : Nat) :
    flowAfter rules s₁ n = flowAfter rules s₂ n :=
  flowAfter_eq_of_similar Scope.similarity_agrees h (fun _ _ => trivial) n

/-! ## The scopes that passes can reach -/

/-- The keys that rules assign. -/
def assignedKeys (rules : List Rule) : Finset String :=
  ((allAssignments rules).map (·.1)).toFinset

/-- The values that rules assign to a key. -/
def assignedValues (rules : List Rule) (key : String) : Finset Value :=
  (((allAssignments rules).filter fun a => a.1 = key).map (·.2)).toFinset

/-- One value more than the assigned ones for each assigned key, multiplied. -/
def stateBound (rules : List Rule) : Nat :=
  ∏ key ∈ assignedKeys rules, (1 + (assignedValues rules key).card)

theorem mem_assignedKeys : key ∈ assignedKeys rules ↔ ∃ v, (key, v) ∈ allAssignments rules := by
  simp [assignedKeys]

theorem mem_assignedValues : v ∈ assignedValues rules key ↔ (key, v) ∈ allAssignments rules := by
  simp [assignedValues]

/-- The values that a key can have between passes from `s`. -/
def reachableValues (rules : List Rule) (s : Scope) (key : String) : Finset (Option Value) :=
  insert (s.locals.get? key) ((assignedValues rules key).image some)

theorem card_reachableValues_le (rules : List Rule) (s : Scope) (key : String) :
    (reachableValues rules s key).card ≤ 1 + (assignedValues rules key).card := by
  have hinsert : (reachableValues rules s key).card ≤
      ((assignedValues rules key).image some).card + 1 := Finset.card_insert_le ..
  have himage : ((assignedValues rules key).image some).card ≤ (assignedValues rules key).card :=
    Finset.card_image_le
  omega

theorem get?_mem_reachableValues (h : s.Reaches (allAssignments rules) s₁) (key : String) :
    s₁.locals.get? key ∈ reachableValues rules s key := by
  rcases h.get? key with hk | ⟨v, hv, hk⟩
  · rw [hk]
    exact Finset.mem_insert_self ..
  · rw [hk]
    exact Finset.mem_insert_of_mem (Finset.mem_image_of_mem _ (mem_assignedValues.2 hv))

def snapshot (rules : List Rule) (s : Scope) (key : String) (_ : key ∈ assignedKeys rules) :
    Option Value :=
  s.locals.get? key

/-- The snapshots that passes from `s` can leave. -/
def snapshots (rules : List Rule) (s : Scope) :
    Finset ((key : String) → key ∈ assignedKeys rules → Option Value) :=
  (assignedKeys rules).pi (reachableValues rules s)

theorem snapshot_mem_snapshots (h : s.Reaches (allAssignments rules) s₁) :
    snapshot rules s₁ ∈ snapshots rules s :=
  Finset.mem_pi.2 fun key _ => get?_mem_reachableValues h key

theorem card_snapshots_le (rules : List Rule) (s : Scope) :
    (snapshots rules s).card ≤ stateBound rules := by
  calc
    (snapshots rules s).card
      = ∏ key ∈ assignedKeys rules, (reachableValues rules s key).card := Finset.card_pi ..
    _ ≤ stateBound rules := Finset.prod_le_prod' fun key _ => card_reachableValues_le rules s key

theorem agrees_of_snapshot_eq (h₁ : s.Reaches (allAssignments rules) s₁)
    (h₂ : s.Reaches (allAssignments rules) s₂) (heq : snapshot rules s₁ = snapshot rules s₂) :
    s₁.Agrees s₂ := by
  refine ⟨h₁.world.trans h₂.world.symm, fun key => ?_⟩
  by_cases hkey : key ∈ assignedKeys rules
  · exact congrFun (congrFun heq key) hkey
  · have hfree {s' : Scope} (h : s.Reaches (allAssignments rules) s') :
        s'.locals.get? key = s.locals.get? key := by
      rcases h.get? key with hk | ⟨v, hv, _⟩
      · exact hk
      · exact absurd (mem_assignedKeys.2 ⟨v, hv⟩) hkey
    rw [hfree h₁, hfree h₂]

/-! ## The bound -/

theorem exists_agrees_scopeAfter (rules : List Rule) (s : Scope) (hn : stateBound rules ≤ n) :
    ∃ i j, i < j ∧ j ≤ n ∧ (scopeAfter rules s i).Agrees (scopeAfter rules s j) := by
  have hcard : (snapshots rules s).card < (Finset.range (n + 1)).card := by
    rw [Finset.card_range]
    exact Nat.lt_succ_of_le ((card_snapshots_le rules s).trans hn)
  obtain ⟨i, hi, j, hj, hne, heq⟩ := Finset.exists_ne_map_eq_of_card_lt_of_maps_to hcard
    (f := fun i => snapshot rules (scopeAfter rules s i))
    fun i _ => snapshot_mem_snapshots (reaches_scopeAfter i)
  rw [Finset.mem_range] at hi hj
  rcases Nat.lt_or_gt_of_ne hne with hij | hji
  · exact ⟨i, j, hij, by omega,
      agrees_of_snapshot_eq (reaches_scopeAfter i) (reaches_scopeAfter j) heq⟩
  · exact ⟨j, i, hji, by omega,
      agrees_of_snapshot_eq (reaches_scopeAfter j) (reaches_scopeAfter i) heq.symm⟩

theorem StopsAfter.lt_stateBound (h : StopsAfter rules s n) : n < stateBound rules := by
  by_contra hn
  obtain ⟨i, j, hij, hjn, hagree⟩ := exists_agrees_scopeAfter rules s (Nat.le_of_not_lt hn)
  -- the last pass is also the one that stands as far behind `i` as it stands behind `j`
  have hlast : flowAfter rules s n = flowAfter rules s (i + (n - j)) := by
    rw [flowAfter_add, flowAfter_eq_of_agrees hagree, ← flowAfter_add, Nat.add_sub_cancel' hjn]
  exact h.stop (hlast.trans (h.before _ (by omega)))

end Rule

namespace Character

/-- A character settles within the bound or never: what a cap at the bound cuts short, every larger
cap cuts short. -/
theorem evaluate_passes_le (c : Character) (world : Attributes) :
    (∀ settings e, c.evaluate world settings = .ok e → e.capped = false →
      e.passes ≤ max 1 (Rule.stateBound c.rules)) ∧
    ∀ settings e, max 1 (Rule.stateBound c.rules) ≤ settings.maxPasses →
      c.evaluate world settings = .ok e → e.capped = true →
        ∀ larger : Settings, settings.maxPasses ≤ larger.maxPasses →
          ∃ e', c.evaluate world larger = .ok e' ∧ e'.capped = true := by
  constructor
  · intro settings e he hcapped
    rcases evaluate_eq_ok he with ⟨_, rfl⟩ | ⟨n, _, hstop, _, rfl⟩
    · cases hcapped
    · exact le_max_of_le_right hstop.lt_stateBound
  · intro settings e hbound he hcapped larger hle
    rcases evaluate_eq_ok he with ⟨hall, _⟩ | ⟨n, _, _, _, rfl⟩
    · rcases evaluate_cases c world larger with ⟨_, hev⟩ | ⟨n, _, hstop, _⟩
      · exact ⟨_, hev, rfl⟩
      · -- the pass that asks for no other would stand before the smaller cap
        have hn := hstop.lt_stateBound
        exact absurd (hall n (by omega)) hstop.stop
    · cases hcapped

/-- Settles in its second pass: the rule assigns, and asks for another pass, in the first only. -/
def settling : Character where
  name := "Ann"
  characteristics := [("A", .int 0)]
  rules := [⟨⟨"A == 0", .binary .eq (.name "A") (.literal (.int 0))⟩,
    [.assign "A" (.int 1), .rerun]⟩]

/-- Asks for another pass in each. -/
def endless : Character where
  name := "Bob"
  characteristics := []
  rules := [⟨.always, [.rerun]⟩]

theorem passes_of_settling_of_endless :
    (∃ e, settling.evaluate .none { maxPasses := 5 } = .ok e ∧ e.capped = false ∧
      e.passes ≤ max 1 (Rule.stateBound settling.rules)) ∧
    ∃ e, endless.evaluate .none { maxPasses := 5 } = .ok e ∧ e.capped = true := by
  have hsettling : settling.evaluate .none { maxPasses := 5 } =
      .ok ⟨[("A", .int 1)], 2, false⟩ := by decide +kernel
  have hendless : endless.evaluate .none { maxPasses := 1 } = .ok ⟨[], 1, true⟩ := by decide
  have hbound : max 1 (Rule.stateBound endless.rules) ≤ 1 := by decide
  constructor
  · exact ⟨_, hsettling, rfl, (evaluate_passes_le settling .none).1 _ _ hsettling rfl⟩
  · exact (evaluate_passes_le endless .none).2 _ _ hbound hendless rfl _ (by decide)

end Character

end StoryWorld
