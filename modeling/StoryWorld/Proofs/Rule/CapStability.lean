import StoryWorld.Proofs.Rule.Passes

/-!
# Evaluations under two caps

A smaller cap cuts an evaluation short and changes nothing else: what ends before it ends in the
same way under every larger cap, and what it cuts short is a beginning of the longer evaluation.
-/

namespace StoryWorld

theorem Rule.scopeAfter_eq (rules : List Rule) (s : Scope) (n : Nat) :
    (⟨(scopeAfter rules s n).locals, s.world⟩ : Scope) = scopeAfter rules s n := by
  have hworld : (scopeAfter rules s n).world = s.world := (reaches_scopeAfter n).world
  rw [← hworld]

namespace Character

variable {c : Character} {world : Attributes} {smaller larger : Settings}

/-! ## What ends before the smaller cap -/

theorem evaluate_eq_ok_of_le (hle : smaller.maxPasses ≤ larger.maxPasses)
    (h : c.evaluate world smaller = .ok e) (hcapped : e.capped = false) :
    c.evaluate world larger = .ok e := by
  rcases evaluate_eq_ok h with ⟨_, rfl⟩ | ⟨n, hn, hstop, hflow, rfl⟩
  · cases hcapped
  · rw [evaluate_of_stopsAfter hstop (Nat.lt_of_lt_of_le hn hle), hflow]
    rfl

theorem evaluate_eq_error_of_le (hle : smaller.maxPasses ≤ larger.maxPasses)
    (h : c.evaluate world smaller = .error err) : c.evaluate world larger = .error err := by
  obtain ⟨n, hn, hstop, hflow⟩ := evaluate_eq_error h
  rw [evaluate_of_stopsAfter hstop (Nat.lt_of_lt_of_le hn hle), hflow]
  rfl

/-! ## What the longer evaluation says of the shorter one -/

theorem evaluate_of_settled (h : c.evaluate world larger = .ok e) (hcapped : e.capped = false) :
    c.evaluate world smaller =
      .ok ⟨(Rule.scopeAfter c.rules (c.scope world) (min smaller.maxPasses e.passes)).locals,
        min smaller.maxPasses e.passes, decide (smaller.maxPasses < e.passes)⟩ := by
  rcases evaluate_eq_ok h with ⟨_, rfl⟩ | ⟨n, _, hstop, hflow, rfl⟩
  · cases hcapped
  -- the evaluation ends with its pass `n + 1`, which the smaller cap allows or cuts off
  by_cases hn : n < smaller.maxPasses
  · have hmin : min smaller.maxPasses (n + 1) = n + 1 := Nat.min_eq_right hn
    have hcut : decide (smaller.maxPasses < n + 1) = false := decide_eq_false (by omega)
    rw [evaluate_of_stopsAfter hstop hn, hflow]
    simp only [hmin, hcut]
    rfl
  · have hmin : min smaller.maxPasses (n + 1) = smaller.maxPasses := Nat.min_eq_left (by omega)
    have hcut : decide (smaller.maxPasses < n + 1) = true := decide_eq_true (by omega)
    rw [evaluate_of_forall_rerun fun i hi => hstop.before i (by omega)]
    simp only [hmin, hcut]

theorem evaluate_of_capped (hle : smaller.maxPasses ≤ larger.maxPasses)
    (h : c.evaluate world larger = .ok e) (hcapped : e.capped = true) :
    c.evaluate world smaller =
      .ok ⟨(Rule.scopeAfter c.rules (c.scope world) smaller.maxPasses).locals,
        smaller.maxPasses, true⟩ := by
  rcases evaluate_eq_ok h with ⟨hall, _⟩ | ⟨n, _, _, _, rfl⟩
  · exact evaluate_of_forall_rerun fun i hi => hall i (Nat.lt_of_lt_of_le hi hle)
  · cases hcapped

/-- The longer evaluation goes on where the shorter one was cut off. -/
theorem evaluate_resume (hle : smaller.maxPasses ≤ larger.maxPasses)
    (h : c.evaluate world smaller = .ok e) (hcapped : e.capped = true) :
    c.evaluate world larger =
      Rule.repeatPasses c.rules ⟨e.values, world⟩ e.passes (larger.maxPasses - e.passes) := by
  rcases evaluate_eq_ok h with ⟨hall, rfl⟩ | ⟨n, _, _, _, rfl⟩
  · have hscope := Rule.scopeAfter_eq c.rules (c.scope world) smaller.maxPasses
    have hrun := Rule.repeatPasses_add 0 (larger.maxPasses - smaller.maxPasses) hall
    rw [Nat.zero_add, Nat.add_sub_cancel' hle, ← hscope] at hrun
    exact hrun
  · cases hcapped

/-- Under a larger cap an evaluation that ended ends in the same way, with the same values or the
same error. Under a smaller cap it is the beginning of itself: as many passes as the cap allows,
with the values that these passes leave, and cut off exactly if it would have made more. -/
theorem evaluate_of_maxPasses_le (c : Character) (world : Attributes) {smaller larger : Settings}
    (hle : smaller.maxPasses ≤ larger.maxPasses) :
    (∀ e, c.evaluate world smaller = .ok e → e.capped = false →
      c.evaluate world larger = .ok e) ∧
    (∀ err, c.evaluate world smaller = .error err → c.evaluate world larger = .error err) ∧
    (∀ e, c.evaluate world larger = .ok e → e.capped = false →
      c.evaluate world smaller =
        .ok ⟨(Rule.scopeAfter c.rules (c.scope world) (min smaller.maxPasses e.passes)).locals,
          min smaller.maxPasses e.passes, decide (smaller.maxPasses < e.passes)⟩) ∧
    (∀ e, c.evaluate world larger = .ok e → e.capped = true →
      c.evaluate world smaller =
        .ok ⟨(Rule.scopeAfter c.rules (c.scope world) smaller.maxPasses).locals,
          smaller.maxPasses, true⟩) ∧
    ∀ e, c.evaluate world smaller = .ok e → e.capped = true →
      c.evaluate world larger =
        Rule.repeatPasses c.rules ⟨e.values, world⟩ e.passes (larger.maxPasses - e.passes) := by
  refine ⟨?_, ?_, ?_, ?_, ?_⟩
  · intro e h hcapped
    exact evaluate_eq_ok_of_le hle h hcapped
  · intro err h
    exact evaluate_eq_error_of_le hle h
  · intro e h hcapped
    exact evaluate_of_settled h hcapped
  · intro e h hcapped
    exact evaluate_of_capped hle h hcapped
  · intro e h hcapped
    exact evaluate_resume hle h hcapped

/-- Assigns in its first pass and asks for another. From then on the weather decides: it goes on for
as long as it rains, and fails if nobody knows the weather. -/
def sheltering : Character where
  name := "Ann"
  characteristics := [("A", .int 0)]
  rules := [⟨⟨"A == 0", .binary .eq (.name "A") (.literal (.int 0))⟩,
    [.assign "A" (.int 1), .rerun]⟩, ⟨⟨"rain", .name "rain"⟩, [.rerun]⟩]

def weather (rain : Bool) : Attributes :=
  fun name => if name = "rain" then some (.bool rain) else none

theorem evaluate_sheltering :
    (∃ e, sheltering.evaluate (weather false) { maxPasses := 2 } = .ok e ∧ e.capped = false ∧
      sheltering.evaluate (weather false) { maxPasses := 5 } = .ok e) ∧
    (∃ err, sheltering.evaluate .none { maxPasses := 2 } = .error err ∧
      sheltering.evaluate .none { maxPasses := 5 } = .error err) ∧
    (∃ e, sheltering.evaluate (weather false) { maxPasses := 5 } = .ok e ∧ e.capped = false ∧
      ∃ e', sheltering.evaluate (weather false) { maxPasses := 1 } = .ok e' ∧ e'.passes = 1 ∧
        e'.capped = true) ∧
    (∃ e, sheltering.evaluate (weather true) { maxPasses := 5 } = .ok e ∧ e.capped = true ∧
      ∃ e', sheltering.evaluate (weather true) { maxPasses := 3 } = .ok e' ∧ e'.passes = 3 ∧
        e'.capped = true) ∧
    ∃ e, sheltering.evaluate (weather false) { maxPasses := 1 } = .ok e ∧ e.capped = true ∧
      sheltering.evaluate (weather false) { maxPasses := 5 } =
        Rule.repeatPasses sheltering.rules ⟨e.values, weather false⟩ e.passes (5 - e.passes) := by
  have hle : ∀ n ≤ 5, ({ maxPasses := n } : Settings).maxPasses ≤
      ({ maxPasses := 5 } : Settings).maxPasses := fun _ hn => hn
  have hsettled : sheltering.evaluate (weather false) { maxPasses := 2 } =
      .ok ⟨[("A", .int 1)], 2, false⟩ := rfl
  have hfailed : sheltering.evaluate .none { maxPasses := 2 } = .error (.unknownName "rain") :=
    rfl
  have hlong : sheltering.evaluate (weather false) { maxPasses := 5 } =
      .ok ⟨[("A", .int 1)], 2, false⟩ := rfl
  have hendless : sheltering.evaluate (weather true) { maxPasses := 5 } =
      .ok ⟨[("A", .int 1)], 5, true⟩ := rfl
  have hcut : sheltering.evaluate (weather false) { maxPasses := 1 } =
      .ok ⟨[("A", .int 1)], 1, true⟩ := rfl
  have hshort := (evaluate_of_maxPasses_le sheltering _ (hle 1 (by decide))).2.2.1 _ hlong rfl
  have hrainy := (evaluate_of_maxPasses_le sheltering _ (hle 3 (by decide))).2.2.2.1 _ hendless rfl
  refine ⟨⟨_, hsettled, rfl, ?_⟩, ⟨_, hfailed, ?_⟩, ⟨_, hlong, rfl, _, hshort, rfl, rfl⟩,
    ⟨_, hendless, rfl, _, hrainy, rfl, rfl⟩, ⟨_, hcut, rfl, ?_⟩⟩
  · exact (evaluate_of_maxPasses_le sheltering _ (hle 2 (by decide))).1 _ hsettled rfl
  · exact (evaluate_of_maxPasses_le sheltering _ (hle 2 (by decide))).2.1 _ hfailed
  · exact (evaluate_of_maxPasses_le sheltering _ (hle 1 (by decide))).2.2.2.2 _ hcut rfl

end Character

end StoryWorld
