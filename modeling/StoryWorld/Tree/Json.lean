import StoryWorld.Tree

/-! Trees as indented JSON, without their spans. -/

namespace StoryWorld

namespace Json

/-- A character within a JSON string. -/
def escapeChar (c : Char) : List Char :=
  match c with
  | '"' => ['\\', '"']
  | '\\' => ['\\', '\\']
  | '\n' => ['\\', 'n']
  | '\r' => ['\\', 'r']
  | '\t' => ['\\', 't']
  | '\x08' => ['\\', 'b']
  | '\x0c' => ['\\', 'f']
  | c =>
    if c.toNat < 0x20 then
      ['\\', 'u', '0', '0'] ++ [Nat.digitChar (c.toNat / 16), Nat.digitChar (c.toNat % 16)]
    else
      [c]

/-- A text as a JSON string. -/
def string (s : String) : String :=
  String.ofList ('"' :: s.toList.flatMap escapeChar ++ ['"'])

/-- The start of a line at a depth. -/
def margin (depth : Nat) : String := String.ofList (List.replicate (2 * depth) ' ')

/-- Parts between brackets, each on a line of its own; the brackets stand at a depth. -/
def block (opening closing : String) (depth : Nat) (parts : List String) : String :=
  if parts.isEmpty then
    opening ++ closing
  else
    opening ++ "\n" ++ ",\n".intercalate (parts.map (margin (depth + 1) ++ ·)) ++ "\n" ++
      margin depth ++ closing

/-- An object with the given fields. -/
def object (depth : Nat) (fields : List (String × String)) : String :=
  block "\x7b" "\x7d" depth (fields.map fun (key, value) => string key ++ ": " ++ value)

/-- An array of the given items. -/
def array (depth : Nat) (items : List String) : String := block "[" "]" depth items

end Json

namespace Member

mutual
/-- A member as JSON that starts at a depth. -/
def toJson (depth : Nat) : Member → String
  | container name members _ _ =>
    Json.object depth [("kind", Json.string "container"), ("name", Json.string name),
      ("children", Json.array (depth + 1) (allToJson (depth + 2) members))]
  | assignment key value _ =>
    Json.object depth [("kind", Json.string "assignment"), ("key", Json.string key),
      ("value", Json.string value)]
  | item text _ =>
    Json.object depth [("kind", Json.string "item"), ("text", Json.string text)]

/-- Members as JSON that starts at a depth. -/
def allToJson (depth : Nat) : List Member → List String
  | [] => []
  | m :: ms => m.toJson depth :: allToJson depth ms
end

end Member

/-- A container as JSON that starts at a depth. -/
def Container.toJson (depth : Nat) (c : Container) : String :=
  Json.object depth [("name", Json.string c.name),
    ("children", Json.array (depth + 1) (Member.allToJson (depth + 2) c.members))]

/-- A tree as JSON. -/
def SourceTree.toJson (t : SourceTree) : String :=
  Json.object 0 [("objects", Json.array 1 (t.objects.map (Container.toJson 2)))]

end StoryWorld
