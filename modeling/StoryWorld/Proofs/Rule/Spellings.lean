import StoryWorld.Proofs.Entries
import StoryWorld.Proofs.Key
import StoryWorld.Proofs.Rule.Assignments

/-!
# Reading what was written under a key

Writing goes through the canonical spelling of a key and reading does not. So a value is read back
under the spelling that its key is kept under, and a key that is kept under another spelling than
its own reads as if it had not been written.
-/

namespace StoryWorld

/-- A name that is bound reads as its value, any other name as before. -/
theorem Scope.lookup_set (s : Scope) (key : String) (v : Value) (x : String) :
    (s.set key v).lookup x = if x = key then .ok v else s.lookup x := by
  simp only [lookup, lookup?, set, Entries.get?_set]
  by_cases hx : x = key
  · rw [if_pos hx, if_pos hx]
    rfl
  · rw [if_neg hx, if_neg hx]

theorem Character.scope_addCharacteristic (c : Character) (key : String) (v : Value)
    (world : Attributes) : (c.addCharacteristic key v).1.scope world =
      (c.scope world).set (Key.canonical key) v := rfl

/-- A rule goes on from the scope that an assignment in it leaves. -/
theorem Rule.apply_of_assigning {r : Rule} {s t : Scope} {before after : List Effect}
    (heffects : r.effects = before ++ .assigning key v :: after)
    (hcondition : r.condition.holds s = .ok true)
    (hbefore : Effect.runAll s before = (.ok .proceed, t)) :
    r.apply s = Effect.runAll (t.set (Key.canonical key) v) after := by
  simp only [apply, Effect.nesting, Effect.run, hcondition, heffects, Effect.runAll_append,
    hbefore, Effect.runAll, Effect.assigning]

/-- What is written under a key, as a characteristic or by a rule, is what conditions read under its
canonical spelling from then on; every other name reads as it did. That spelling is the key itself
unless the key is one of those with a meaning in other letters than capitals. -/
theorem Key.evaluate_name_written (key : String) (v : Value) :
    (∀ (c : Character) (world : Attributes) (x : String),
      (Expr.name x).evaluate ((c.addCharacteristic key v).1.scope world) =
        if x = canonical key then .ok v else (Expr.name x).evaluate (c.scope world)) ∧
    (∀ (r : Rule) (s t : Scope) (before after : List Effect),
      r.effects = before ++ .assigning key v :: after → r.condition.holds s = .ok true →
        Effect.runAll s before = (.ok .proceed, t) →
          r.apply s = Effect.runAll (t.set (canonical key) v) after ∧
          ∀ x, (Expr.name x).evaluate (t.set (canonical key) v) =
            if x = canonical key then .ok v else (Expr.name x).evaluate t) ∧
    (canonical key = key ↔
      ∀ known ∈ [node, name, description], Text.sameFolded key known = true → key = known) := by
  refine ⟨fun c world x => ?_, fun r s t before after heffects hcondition hbefore => ?_,
    canonical_eq_self_iff⟩
  · rw [Character.scope_addCharacteristic]
    exact Scope.lookup_set ..
  · exact ⟨Rule.apply_of_assigning heffects hcondition hbefore, Scope.lookup_set t _ v⟩

/-- Goes to the cave at night, and then looks for the place under both spellings. -/
def Rule.homing : Rule where
  condition := ⟨"night", .name "night"⟩
  effects := [.assigning "seen" (.int 1), .assigning "Node" (.text "cave"),
    .nest ⟨"NODE == Node", .binary .eq (.name "NODE") (.name "Node")⟩ [.rerun]]

/-- Two scopes at night, before anything else happens and after a thing is seen. -/
def Scope.atNight (seen : Entries String Value) : Scope := ⟨("night", .bool true) :: seen, .none⟩

theorem Key.evaluate_name_written_homing :
    Rule.homing.apply (.atNight []) = Effect.runAll ((Scope.atNight [("seen", .int 1)]).set
      (canonical "Node") (.text "cave")) [.nest ⟨"NODE == Node", .binary .eq (.name "NODE")
        (.name "Node")⟩ [.rerun]] ∧
    (Expr.name "NODE").evaluate ((Scope.atNight [("seen", .int 1)]).set (canonical "Node")
      (.text "cave")) = .ok (.text "cave") := by
  obtain ⟨happly, hread⟩ := (evaluate_name_written "Node" (.text "cave")).2.1 Rule.homing
    (.atNight []) (.atNight [("seen", .int 1)]) [.assigning "seen" (.int 1)] _ rfl rfl rfl
  exact ⟨happly, hread "NODE"⟩

/-- A place that is written under a small spelling is not read under it, neither as a characteristic
nor by the rule that wrote it. -/
theorem Key.not_read_in_small_letters :
    (Expr.name "node").evaluate (((Character.ofName "Ann").addCharacteristic "node"
      (.text "cave")).1.scope .none) = .error (.unknownName "node") ∧
    Rule.homing.apply (.atNight []) = (.error (.unknownName "Node"),
      .atNight [("seen", .int 1), ("NODE", .text "cave")]) :=
  ⟨rfl, rfl⟩

end StoryWorld
