import StoryWorld.CommandLine.Help
import StoryWorld.Diagnostic.Report
import StoryWorld.Loader.Directory
import StoryWorld.Table
import StoryWorld.Text.Terminal
import StoryWorld.Tree.Json
import StoryWorld.Tree.Printer
import StoryWorld.World.Visible

/-! What commands print. -/

namespace StoryWorld.CommandLine

/-- What a run leaves behind: its exit code and what it printed. -/
structure Outcome where
  code : Nat
  stdout : String
  stderr : String
  deriving DecidableEq, Repr

namespace Outcome

/-- A success with lines on standard output. -/
def lines (stderr : String) (ls : List String) : Outcome :=
  ⟨0, String.join (ls.map (· ++ "\n")), stderr⟩

/-- A failure with a message on standard error, after what was printed there before. -/
def failure (stderr message : String) : Outcome :=
  ⟨1, "", stderr ++ "error: " ++ message ++ "\n"⟩

end Outcome

/-- The ending of a counted noun. -/
def plural (n : Nat) : String := if n = 1 then "" else "s"

/-! ## Loading -/

/-- The diagnostics of a load, with a count of them. -/
def diagnosticsText (r : LoadReport) : String :=
  let errors := r.errorCount
  let warnings := r.warningCount
  let warned := warnings.repr ++ " warning" ++ plural warnings
  if r.diagnostics.isEmpty then ""
  else if 0 < errors then
    Report.render r.sources r.diagnostics ++ "  " ++ errors.repr ++ " error" ++ plural errors ++
      ", " ++ warned ++ "\n"
  else
    Report.render r.sources r.diagnostics ++ "  " ++ warned ++ "\n"

/-- Goes on with the world of a load report, with quest steps taken, if no source was rejected and
no step refused. -/
def withWorld (r : LoadReport) (o : WorldOptions) (f : World → String → Outcome) : Outcome :=
  let stderr := diagnosticsText r
  if r.hasErrors then
    .failure stderr "world failed to load"
  else
    match r.world.takeSteps o.quests with
    | (.error e, _) => .failure stderr e.message
    | (.ok (), w) => f w stderr

/-! ## Commands -/

/-- The outcome of checking a world. -/
def check (r : LoadReport) (o : WorldOptions) : Outcome :=
  let stderr := diagnosticsText r
  if r.hasErrors then
    .failure stderr (r.errorCount.repr ++ " source unit" ++ plural r.errorCount ++
      " failed to load")
  else
    .lines stderr [
      "  All checks passed for '" ++ o.dir ++ "'.",
      "  " ++ r.world.nodes.size.repr ++ " nodes, " ++ r.world.characters.size.repr ++
        " characters, " ++ r.world.quests.size.repr ++ " quests"]

/-- What stands for an empty cell. -/
def dash : String := "—"

/-- The lines that list the exits of a node, in order of their directions. -/
def exitLines (w : World) (n : Node) : List String :=
  if n.adjacents.isEmpty then []
  else
    let sorted := n.adjacents.mergeSort fun a b => decide (a.1 ≤ b.1)
    ["  exits"] ++ sorted.map (fun (direction, h) =>
      let target := ((w.nodes.get? h).map (·.name)).getD "?"
      let gap := String.ofList (List.replicate (10 - direction.length) ' ')
      "    " ++ direction ++ gap ++ " " ++ target) ++ [""]

/-- The lines that list the characters in a node. -/
def characterLines : List Visible → List String
  | [] => ["  Nobody is here."]
  | visible =>
    let row := fun (v : Visible) =>
      [v.name, if v.description = "" then dash else v.description]
    [(Table.mk ["Name", "Description"] (visible.map row)).render]

/-- The outcome of looking around in a node. -/
def look (w : World) (stderr node : String) : Outcome :=
  match w.nodes.handle? node with
  | none => .failure stderr ("node not found: \"" ++ node ++ "\"")
  | some h =>
    match w.nodes.get? h with
    | none => .failure stderr ("node not found: \"" ++ node ++ "\"")
    | some n =>
      .lines stderr (["  " ++ n.name ++ " [hour " ++ w.clock.hourOfDay.text ++ "]", ""] ++
        (Text.lines n.description).map (fun line => "  " ++ Text.trim line) ++ [""] ++
        exitLines w n ++ characterLines (w.activeCharacters h))

/-- The outcome of listing the quest lines. -/
def questTable (w : World) (stderr : String) : Outcome :=
  match w.questStatuses with
  | [] => .lines stderr ["  No quests found."]
  | statuses =>
    let row := fun (s : QuestStatus) =>
      [s.name, (s.value.map Integer.text).getD dash, s.details,
        if s.transitions.isEmpty then dash else "\n".intercalate s.transitions]
    .lines stderr [
      (Table.mk ["Quest", "Stage", "Details", "Next"] (statuses.map row)).render, "",
      "  " ++ statuses.length.repr ++ " quests"]

/-- The outcome of asking for an attribute. -/
def attr (w : World) (stderr name : String) : Outcome :=
  match w.attributes name with
  | none => .failure stderr ("unknown attribute: \"" ++ name ++ "\"")
  | some v => .lines stderr [v.shown]

/-- The outcome of printing the tree of a source file. -/
def tree (file : String) (json : Bool) (opened : Except SystemError Opened) : Outcome :=
  match readSource file opened with
  | .error e => .failure "" e.message
  | .ok (text, .error e) =>
    .failure (Report.render [(file, text)] [(LoadError.malformed file e).toDiagnostic])
      "parse failed"
  | .ok (_, .ok t) => if json then .lines "" [t.toJson] else ⟨0, t.write, ""⟩

/-- Goes on with the world in the directory that opened. -/
def loading (o : WorldOptions) (opened : Except SystemError Opened)
    (f : LoadReport → Outcome) : Outcome :=
  match loadWorld o.dir opened o.settings o.depth with
  | .error e => .failure "" e.message
  | .ok r => f r

namespace Command

/-- The one path that a command opens. -/
def path : Command → String
  | .check o => o.dir
  | .tree file _ => file
  | .look _ o => o.dir
  | .quests o => o.dir
  | .attr _ o => o.dir

/-- The outcome of a command, given what opens at its path. -/
def run (opened : Except SystemError Opened) : Command → Outcome
  | .check o => loading o opened fun r => CommandLine.check r o
  | .tree file json => CommandLine.tree file json opened
  | .look node o => loading o opened fun r => withWorld r o fun w stderr =>
    CommandLine.look w stderr node
  | .quests o => loading o opened fun r => withWorld r o fun w stderr => questTable w stderr
  | .attr name o => loading o opened fun r => withWorld r o fun w stderr =>
    CommandLine.attr w stderr name

end Command

/-! ## Runs without a command -/

/-- What is printed for a usage error: its plain text, so that what it quotes from the arguments
has no effect on a terminal. -/
def UsageError.text (e : UsageError) : String :=
  Text.plain ("error: " ++ e.message ++ "\n\nFor more information, try " ++ quoted "--help" ++
    ".\n")

/-- The outcome of a run that asks for no command. -/
def Stop.outcome : Stop → Outcome
  | usage e => ⟨2, "", e.text⟩
  | version none => .lines "" ["dm 0.1.0"]
  | version (some v) => .lines "" ["dm-" ++ v.word ++ " 0.1.0"]
  | help topic => ⟨0, topic.text, ""⟩
  | nothingGiven => ⟨2, "", Topic.program.text⟩

/-- The outcome of a run with the given arguments, where `resolve` says what opens at a path. -/
def run (resolve : String → Except SystemError Opened) (args : List String) : Outcome :=
  match readCommand false args with
  | .error stop => stop.outcome
  | .ok c => c.run (resolve c.path)

end StoryWorld.CommandLine
