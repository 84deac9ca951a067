import StoryWorld.Integer

/-! What building or linking a world may warn of. The world stays usable after each of these. -/

namespace StoryWorld

/-- A repeated declaration, or a reference to a node that does not exist. -/
inductive WorldWarning
  | duplicateNode (name : String)
  | duplicateCharacter (name : String)
  | duplicateQuest (name : String)
  | duplicateQuestNode (quest : String) (value : Integer)
  | duplicateTransition (source target : Integer)
  | duplicateExit (node direction : String)
  | duplicateCharacteristic (character key : String)
  | unresolvedExit (node direction target : String)
  | unresolvedCharacterNode (character node : String)
  deriving DecidableEq, Repr

namespace WorldWarning

/-- Whether a warning is about a reference and not about a repeated declaration. -/
def isLinkWarning : WorldWarning → Bool
  | unresolvedExit .. => true
  | unresolvedCharacterNode .. => true
  | _ => false

/-- The wording of a warning. -/
def message : WorldWarning → String
  | duplicateNode name => "overwriting node \"" ++ name ++ "\""
  | duplicateCharacter name => "overwriting character \"" ++ name ++ "\""
  | duplicateQuest name => "overwriting quest \"" ++ name ++ "\""
  | duplicateQuestNode quest value =>
    "quest \"" ++ quest ++ "\": overwriting node " ++ value.text
  | duplicateTransition source target =>
    "quest node " ++ source.text ++ ": overwriting transition to " ++ target.text
  | duplicateExit node direction =>
    "node \"" ++ node ++ "\": overwriting direction \"" ++ direction ++ "\""
  | duplicateCharacteristic character key =>
    "character \"" ++ character ++ "\": overwriting characteristic " ++ key
  | unresolvedExit node direction target =>
    "node \"" ++ node ++ "\": exit \"" ++ direction ++ "\" leads to unknown node \"" ++ target ++
      "\""
  | unresolvedCharacterNode character node =>
    "character \"" ++ character ++ "\": could not find node \"" ++ node ++ "\""

end WorldWarning

end StoryWorld
