import StoryWorld.CommandLine.Usage

/-! What the program says of itself and of its commands. -/

namespace StoryWorld.CommandLine

/-! ## What things are for -/

/-- What the program is for. -/
def about : String :=
  "AutoDM — inspect narrative worlds built from quest, character and node sources"

/-- What a verb does. -/
def Verb.summary : Verb → String
  | check => "Load a world and report diagnostics"
  | tree => "Print the generic parse tree of one source file"
  | look => "Describe a node and the characters currently in it"
  | quests => "Show the current state of every quest line"
  | attr => "Resolve a world attribute (hour, day, weekday, or a quest name)"

/-- What help does. -/
def helpSummary : String := "Print this message or the help of the given subcommand(s)"

namespace Slot

/-- What an argument is for. -/
def summary : Slot → String
  | dir => "World directory (default: current directory)"
  | depth => "Directory levels searched below each source directory"
  | passes => "Cap on rule passes per character evaluation"
  | hour => "Hour the world clock starts at"
  | quest => "Advance a quest before querying, as NAME=VALUE (repeatable)"
  | node => "Node name"
  | file => "Source file to parse"
  | name => "Attribute name"
  | json => "Print as JSON instead of re-serialized source"
  | verbose => "Log loader and engine activity at debug level"
  | help => "Print help"
  | version => "Print version"

/-- What stands for an option that is not given. -/
def standard? (s : Slot) : Option String :=
  let o : WorldOptions := {}
  match s with
  | dir => some o.dir
  | depth => some o.depth.repr
  | passes => some o.settings.maxPasses.repr
  | hour => some o.settings.startHour.text
  | _ => none

/-- The spellings of an option, the short one first or room for it. -/
def spellings (s : Slot) : String :=
  match s.short? with
  | some c => "-" ++ String.singleton c ++ ", " ++ s.label
  | none => "    " ++ s.label

/-- What is said of an argument. -/
def details (s : Slot) : String :=
  match s.standard? with
  | some value => s.summary ++ " [default: " ++ value ++ "]"
  | none => s.summary

end Slot

/-! ## Layout -/

/-- The columns that help is laid out for. -/
def helpColumns : Nat := 100

/-- A titled list of things and what is said of them: side by side, or the one below the other if a
line would be too long. -/
def titled (title : String) (entries : List (String × String)) : String :=
  let width := (entries.map (·.1.length)).foldl max 0
  let beside := entries.map fun (thing, text) =>
    "  " ++ thing ++ String.ofList (List.replicate (width - thing.length) ' ') ++ "  " ++ text
  let below := entries.map fun (thing, text) => "  " ++ thing ++ "\n          " ++ text
  let rows := if beside.all (·.length ≤ helpColumns) then beside else below
  title ++ ":\n" ++ "\n".intercalate rows

/-- A page of help: what it is about, how that is spelled, and lists. -/
def page (summary usage : String) (sections : List String) : String :=
  "\n\n".intercalate (summary :: ("Usage: dm " ++ usage) :: sections) ++ "\n"

/-- The list of some options. -/
def optionSection (slots : List Slot) : String :=
  titled "Options" (slots.map fun s => (s.spellings, s.details))

/-! ## Pages -/

/-- The help on the program. -/
def programHelp : String :=
  let verbs := [Verb.check, .tree, .look, .quests, .attr].map fun v => (v.word, v.summary)
  page about "[OPTIONS] <COMMAND>"
    [titled "Commands" (verbs ++ [("help", helpSummary)]),
      optionSection [.verbose, .help, .version]]

/-- The help on a verb. -/
def Verb.help (v : Verb) : String :=
  match v.operand? with
  | some s =>
    page v.summary (v.word ++ " [OPTIONS] " ++ s.label)
      [titled "Arguments" [(s.label, s.details)], optionSection v.slots]
  | none => page v.summary (v.word ++ " [OPTIONS]") [optionSection v.slots]

/-- The help on help. -/
def helpHelp : String :=
  page helpSummary "help [COMMAND]..."
    [titled "Arguments" [("[COMMAND]...", "Print help for the subcommand(s)")]]

/-- The help on a topic. -/
def Topic.text : Topic → String
  | program => programHelp
  | verb v => v.help
  | help => helpHelp

end StoryWorld.CommandLine
