import StoryWorld.Entries
import StoryWorld.EvalError

/-! Scopes: local bindings in front of the attributes of a world. -/

namespace StoryWorld

/-- What a world answers for the name of an attribute. -/
abbrev Attributes := String → Option Value

/-- The attributes of nothing: no name is known. -/
def Attributes.none : Attributes := fun _ => Option.none

/-- The bindings that conditions are evaluated in. A local binding hides an attribute. -/
structure Scope where
  locals : Entries String Value
  world : Attributes

namespace Scope

/-- The value of a name, if it has one. -/
def lookup? (s : Scope) (name : String) : Option Value :=
  (s.locals.get? name).or (s.world name)

/-- The value of a name. -/
def lookup (s : Scope) (name : String) : Except EvalError Value :=
  match s.lookup? name with
  | some v => .ok v
  | none => .error (.unknownName name)

/-- Binds a local name. -/
def set (s : Scope) (name : String) (v : Value) : Scope :=
  { s with locals := s.locals.set name v }

end Scope

end StoryWorld
