import StoryWorld.Character
import StoryWorld.Conversion

/-! Characters and rules from containers: the name of a rule's container is its condition, and its
members are its effects. -/

namespace StoryWorld

/-- The condition that a container's name spells. -/
def Checked.condition (name : String) (nameSpan : Span) : Checked Condition :=
  match Condition.ofText name with
  | .ok c => pure c
  | .error e => .refuse (.condition e nameSpan)

namespace Effect

mutual
/-- The effects of a member of the rule named `rule`: one, or none for an item that is not
understood. -/
def ofMember (rule : String) : Member → Checked (List Effect)
  | .container name members _ nameSpan => do
    let condition ← Checked.condition name nameSpan
    let effects ← ofMembers name members
    return [.nest condition effects]
  | .assignment key value _ => return [.assigning key (.ofText value)]
  | .item text span =>
    if Text.sameFolded text rerunText then
      return [.rerun]
    else do
      Checked.note [⟨span, .unrecognizedItem rule text⟩]
      return []

/-- The effects of the members of the rule named `rule`, in order. -/
def ofMembers (rule : String) : List Member → Checked (List Effect)
  | [] => return []
  | m :: ms => do
    let first ← ofMember rule m
    let rest ← ofMembers rule ms
    return first ++ rest
end

end Effect

/-- The rule of a container with the given name and members. -/
def Rule.ofMembers (name : String) (nameSpan : Span) (members : List Member) : Checked Rule := do
  let condition ← Checked.condition name nameSpan
  let effects ← Effect.ofMembers name members
  return ⟨condition, effects⟩

/-- The rule of a container. -/
def Rule.ofContainer (c : Container) : Checked Rule := Rule.ofMembers c.name c.nameSpan c.members

namespace Character

/-- Takes a member of a character's container: an assignment is a characteristic and a container a
rule. -/
def readMember (c : Character) : Member → Checked Character
  | .container name members _ nameSpan => do
    let rule ← Rule.ofMembers name nameSpan members
    return c.addRule rule
  | .assignment key value span => do
    let (c', w) := c.addCharacteristic key (.ofText value)
    Checked.note (Notice.ofWarning? span w)
    return c'
  | .item text span => do
    Checked.note [⟨span, .unrecognizedEntry c.name text⟩]
    return c

/-- The character of a container. -/
def ofContainer (o : Container) : Checked Character :=
  o.members.foldlM readMember (ofName o.name)

end Character

end StoryWorld
