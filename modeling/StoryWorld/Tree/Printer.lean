import StoryWorld.Text.Letter
import StoryWorld.Tree

/-! Source text of a tree: one member a line, two spaces for each level. -/

namespace StoryWorld

/-- A text as it is written in a source: bare if it is a word, and else between quotes. -/
def writeText (s : String) : String :=
  if s ≠ "" ∧ s.toList.all Text.isWordChar then s else "\"" ++ s ++ "\""

/-- The blanks that start a line at a depth. -/
def indentation (depth : Nat) : String := String.ofList (List.replicate (2 * depth) ' ')

namespace Member

mutual
/-- A member as it is written at a depth, without its comma. -/
def write (depth : Nat) : Member → String
  | container name members _ _ =>
    writeText name ++ " \x7b\n" ++ writeAll (depth + 1) members ++ indentation depth ++ "\x7d"
  | assignment key value _ => writeText key ++ " = " ++ writeText value
  | item text _ => writeText text

/-- Members as they are written at a depth, each on a line of its own. -/
def writeAll (depth : Nat) : List Member → String
  | [] => ""
  | m :: ms => indentation depth ++ m.write depth ++ ",\n" ++ writeAll depth ms
end

end Member

/-- A container as it is written. -/
def Container.write (c : Container) : String := (Member.ofContainer c).write 0

/-- A tree as it is written. -/
def SourceTree.write (t : SourceTree) : String :=
  String.join (t.objects.map fun c => c.write ++ "\n")

end StoryWorld
