import StoryWorld.Rule
import StoryWorld.Warning

/-! Characters: static characteristics, and rules that are applied in passes until none asks for
another. -/

namespace StoryWorld

/-- The settings that a world is run with: the cap on passes over a character's rules, and the hour
at which the clock starts. -/
structure Settings where
  maxPasses : Nat := 1000
  startHour : Integer := 0
  deriving DecidableEq, Repr

/-- A character. `candidates` are the nodes that its declarations name; `named` says whether its
shown name was set since it was made. -/
structure Character where
  name : String
  characteristics : Entries String Value
  rules : List Rule := []
  candidates : List String := []
  named : Bool := false
  alive : Bool := true

namespace Character

/-- A living character without rules, shown under its own name. -/
def ofName (name : String) : Character where
  name := name
  characteristics := [(Key.name, .text name)]

/-- Sets a characteristic under the key's canonical spelling. A repeated key is warned of; the name
that a character is made with does not count. -/
def addCharacteristic (c : Character) (key : String) (v : Value) :
    Character × Option WorldWarning :=
  let key := Key.canonical key
  let repeated := c.characteristics.has key && (key != Key.name || c.named)
  ({ c with
      characteristics := c.characteristics.set key v
      candidates := if key = Key.node then noteName c.candidates v.shown else c.candidates
      named := c.named || key == Key.name },
    if repeated then some (.duplicateCharacteristic c.name key) else none)

/-- Appends a rule and notes the nodes that it may assign. -/
def addRule (c : Character) (r : Rule) : Character :=
  { c with
    rules := c.rules ++ [r]
    candidates := r.nodeNames.foldl noteName c.candidates }

/-- The characteristic under the key's canonical spelling. -/
def characteristic? (c : Character) (key : String) : Option Value :=
  c.characteristics.get? (Key.canonical key)

/-- The character, dead. -/
def kill (c : Character) : Character := { c with alive := false }

end Character

/-! ## Evaluation -/

/-- The outcome of evaluating a character's rules: the bindings, the passes made, and whether the
cap cut them short. -/
structure Evaluation where
  values : Entries String Value
  passes : Nat
  capped : Bool
  deriving DecidableEq, Repr

/-- The node that an evaluation places its character in. -/
def Evaluation.node? (e : Evaluation) : Option String := (e.values.get? Key.node).map (·.shown)

namespace Rule

/-- One pass: applies rules in order, up to the first that fails or asks for another pass. -/
def applyAll (s : Scope) : List Rule → Except EvalError Flow × Scope
  | [] => (.ok .proceed, s)
  | r :: rs =>
    match r.apply s with
    | (.ok .proceed, s') => applyAll s' rs
    | stopped => stopped

/-- Makes at most `fuel` further passes after `made`, each on the bindings that the last one left,
until one asks for no other. -/
def repeatPasses (rules : List Rule) (s : Scope) (made : Nat) :
    (fuel : Nat) → Except EvalError Evaluation
  | 0 => .ok ⟨s.locals, made, true⟩
  | fuel + 1 =>
    match applyAll s rules with
    | (.error e, _) => .error e
    | (.ok .proceed, s') => .ok ⟨s'.locals, made + 1, false⟩
    | (.ok .rerun, s') => repeatPasses rules s' (made + 1) fuel

end Rule

namespace Character

/-- The scope that evaluation starts from. -/
def scope (c : Character) (world : Attributes) : Scope := ⟨c.characteristics, world⟩

/-- Evaluates the rules of a character against a world. -/
def evaluate (c : Character) (world : Attributes) (settings : Settings) :
    Except EvalError Evaluation :=
  Rule.repeatPasses c.rules (c.scope world) 0 settings.maxPasses

/-- Whether a living character's rules place it in a node. If they fail, it is nowhere. -/
def isInNode (c : Character) (node : String) (world : Attributes) (settings : Settings) : Bool :=
  c.alive &&
    match c.evaluate world settings with
    | .ok e => e.node? == some node
    | .error _ => false

end Character

end StoryWorld
