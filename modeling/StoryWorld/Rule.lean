import StoryWorld.Condition
import StoryWorld.Key

/-! Rules: effects under a condition, with rules among the effects. -/

namespace StoryWorld

/-- What a rule does when its condition holds: bind a key, apply a nested rule, or ask for another
pass. -/
inductive Effect
  | assign (key : String) (v : Value)
  | nest (condition : Condition) (effects : List Effect)
  | rerun

/-- A condition and the effects that it guards. -/
structure Rule where
  condition : Condition
  effects : List Effect

/-- Where evaluation goes on after a rule: at the next rule, or in a new pass. -/
inductive Flow
  | proceed
  | rerun
  deriving DecidableEq, Repr

namespace Effect

/-- An assignment under the key's canonical spelling. -/
def assigning (key : String) (v : Value) : Effect := .assign (Key.canonical key) v

/-- A rule as an effect. -/
def nesting (r : Rule) : Effect := .nest r.condition r.effects

/-! ## Running effects -/

mutual
/-- Runs one effect. A failure keeps the bindings made before it. -/
def run (s : Scope) : Effect → Except EvalError Flow × Scope
  | assign key v => (.ok .proceed, s.set key v)
  | nest condition effects =>
    match condition.holds s with
    | .error e => (.error e, s)
    | .ok false => (.ok .proceed, s)
    | .ok true => runAll s effects
  | rerun => (.ok .rerun, s)

/-- Runs effects in order, up to the first that fails or asks for another pass. -/
def runAll (s : Scope) : List Effect → Except EvalError Flow × Scope
  | [] => (.ok .proceed, s)
  | e :: es =>
    match e.run s with
    | (.ok .proceed, s') => runAll s' es
    | stopped => stopped
end

/-! ## Nodes that effects may assign -/

mutual
/-- The values that an effect may assign to the node key, as shown, in order. -/
def assignedNodes : Effect → List String
  | assign key v => if key = Key.node then [v.shown] else []
  | nest _ effects => allAssignedNodes effects
  | rerun => []

/-- The values that effects may assign to the node key, as shown, in order. -/
def allAssignedNodes : List Effect → List String
  | [] => []
  | e :: es => e.assignedNodes ++ allAssignedNodes es
end

end Effect

/-- Appends `name` unless it is there. -/
def noteName (names : List String) (name : String) : List String :=
  if names.contains name then names else names ++ [name]

namespace Rule

/-- Applies a rule: nothing happens unless its condition holds. -/
def apply (r : Rule) (s : Scope) : Except EvalError Flow × Scope := (Effect.nesting r).run s

/-- The nodes that a rule may assign, each at its first place. -/
def nodeNames (r : Rule) : List String :=
  (Effect.allAssignedNodes r.effects).foldl noteName []

end Rule

end StoryWorld
